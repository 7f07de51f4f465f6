import Reckoner.Numeral
import Reckoner.Settings
import Reckoner.Text.Blank

/-! # The usage of the command

A complaint about arguments begins with the usage of the command. It takes one line if the terminal
is wide enough; otherwise the argument goes to a line of its own, indented past the name of the
program if that leaves enough room, and past the first word if not.

How wide the terminal is, a variable tells. It is read as an integer in the decimal digits of any
script, with single underscores between them; where that fails, or the integer is not positive, the
terminal itself is asked.
-/

namespace Reckoner.Usage

/-- The variable that tells how wide the terminal is. -/
def variableName : String := "COLUMNS"

/-- The code points of the zeros in all scripts; each is followed by the other nine digits. -/
def zeros : List Nat :=
  [0x30, 0x660, 0x6f0, 0x7c0, 0x966, 0x9e6, 0xa66, 0xae6, 0xb66, 0xbe6, 0xc66, 0xce6, 0xd66, 0xde6,
   0xe50, 0xed0, 0xf20, 0x1040, 0x1090, 0x17e0, 0x1810, 0x1946, 0x19d0, 0x1a80, 0x1a90, 0x1b50,
   0x1bb0, 0x1c40, 0x1c50, 0xa620, 0xa8d0, 0xa900, 0xa9d0, 0xa9f0, 0xaa50, 0xabf0, 0xff10, 0x104a0,
   0x10d30, 0x11066, 0x110f0, 0x11136, 0x111d0, 0x112f0, 0x11450, 0x114d0, 0x11650, 0x116c0,
   0x11730, 0x118e0, 0x11950, 0x11c50, 0x11d50, 0x11da0, 0x16a60, 0x16ac0, 0x16b50, 0x1d7ce,
   0x1d7d8, 0x1d7e2, 0x1d7ec, 0x1d7f6, 0x1e140, 0x1e2f0, 0x1e950, 0x1fbf0]

def digit? (c : Char) : Option Nat :=
  (zeros.find? fun first => first ≤ c.toNat && c.toNat ≤ first + 9).map (c.toNat - ·)

/-- The values of one digit or more, with single underscores between some of them. -/
def digits? : List Char → Option (List Nat)
  | [] => none
  | [c] => (digit? c).map ([·])
  | c :: '_' :: rest | c :: rest => return (← digit? c) :: (← digits? rest)

/-- The natural number with these digits, if they are not too many. -/
def natural? (cs : List Char) : Option Nat := do
  let digits ← digits? cs
  if digits.length ≤ Numeral.digitLimit then some (digits.foldl (10 * · + ·) 0) else none

/-- Whether a character may stand before and behind an integer. The four separators may not. -/
def isMargin (c : Char) : Bool :=
  Text.isBlank c && !(0x1c ≤ c.toNat && c.toNat ≤ 0x1f)

def integer? (text : String) : Option Int :=
  let rest := text.toList.dropWhile isMargin
  match (rest.reverse.dropWhile isMargin).reverse with
  | '-' :: digits => (natural? digits).map fun n => -(n : Int)
  | '+' :: digits | digits => (natural? digits).map Int.ofNat

/-- How many columns there are when the variable has this value and the terminal says that it has
so many. -/
def columns (terminal : Nat) : Option RawValue → Nat
  | some (.text given) =>
    match (integer? given).map Int.toNat with
    | none | some 0 => terminal
    | some stated => stated
  | _ => terminal

/-- The usage of the command on a terminal with this many columns, two of which stay free. -/
def lines (columns : Nat) : String :=
  let word := "usage: "
  let program := "cli_calculator"
  let argument := "expression"
  let indent := if 4 * (word.length + program.length) + 6 ≤ 3 * columns then
    word.length + program.length + 1 else word.length
  if word.length + program.length + 1 + argument.length + 2 ≤ columns then
    word ++ program ++ " " ++ argument ++ "\n"
  else
    word ++ program ++ "\n" ++ "".pushn ' ' indent ++ argument ++ "\n"

theorem lines_of_wide {columns : Nat} (wide : 34 ≤ columns) :
    lines columns = "usage: cli_calculator expression\n" := by
  have fits : "usage: ".length + "cli_calculator".length + 1 + "expression".length + 2 ≤ columns :=
    wide
  rw [lines, if_pos fits]
  rfl

example : lines 33 = "usage: cli_calculator\n                      expression\n" := by
  decide +kernel
example : lines 29 = "usage: cli_calculator\n       expression\n" := by decide +kernel
example : columns 80 (some (.text "\u2003+５_0 ")) = 50 := by decide +kernel
example : zeros.Pairwise fun a b => a + 9 < b := by decide +kernel

end Reckoner.Usage
