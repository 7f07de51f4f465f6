/-! # Blank characters

The white space of Unicode together with the four ASCII separators, which are the characters that
are stripped from a setting. The zero-width characters and the Mongolian vowel separator are not
blank.
-/

namespace Reckoner.Text

/-- First and last code point of each range of blank characters, in ascending order. -/
def blankRanges : List (Nat × Nat) :=
  [(0x9, 0xd), (0x1c, 0x20), (0x85, 0x85), (0xa0, 0xa0), (0x1680, 0x1680), (0x2000, 0x200a),
   (0x2028, 0x2029), (0x202f, 0x202f), (0x205f, 0x205f), (0x3000, 0x3000)]

def isBlank (c : Char) : Bool :=
  blankRanges.any fun range => range.1 ≤ c.toNat && c.toNat ≤ range.2

def stripLeft (cs : List Char) : List Char :=
  cs.dropWhile isBlank

def stripRight (cs : List Char) : List Char :=
  (cs.reverse.dropWhile isBlank).reverse

/-- The text without the blanks at both its ends. -/
def strip (cs : List Char) : List Char :=
  stripRight (stripLeft cs)

example : (blankRanges.map fun range => range.2 + 1 - range.1).sum = 29 := by decide
example : blankRanges.Pairwise fun a b => a.2 + 1 < b.1 := by decide

end Reckoner.Text
