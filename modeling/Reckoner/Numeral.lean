/-! # Decimal numerals

Integers are unbounded; only their written form is limited. A literal may have at most
`digitLimit` digits, leading zeros included, and a value is written out only when its magnitude
has no more than that many.
-/

namespace Reckoner.Numeral

/-- The most digits that a numeral may have, read or written. -/
def digitLimit : Nat := 4300

/-- The value of a run of decimal digits. -/
def value (digits : List Char) : Nat :=
  Nat.ofDigitChars 10 digits 0

/-- The decimal digits of a natural number, without leading zeros. -/
def digits (n : Nat) : List Char :=
  Nat.toDigits 10 n

/-- The written form of an integer: its digits, after a minus sign when it is negative. -/
def write (v : Int) : String :=
  String.ofList (if v < 0 then '-' :: digits v.natAbs else digits v.natAbs)

/-- The written form of a value, unless it has too many digits. The sign does not count. -/
def write? (v : Int) : Option String :=
  if v.natAbs < Nat.pow 10 digitLimit then some (write v) else none

theorem value_digits (n : Nat) : value (digits n) = n :=
  Nat.ofDigitChars_ten_toDigits

theorem isDigit_of_mem_digits {n : Nat} {c : Char} (member : c ∈ digits n) : c.isDigit = true :=
  Nat.isDigit_of_mem_toDigits (by decide) (by decide) member

theorem digits_ne_nil (n : Nat) : digits n ≠ [] :=
  Nat.toDigits_ne_nil

end Reckoner.Numeral
