import Reckoner.Numeral

/-! # Moments

A moment is a date and a time of day, to the millisecond. Every field is written with a fixed
number of digits.
-/

namespace Reckoner

structure Moment where
  year : Nat
  month : Nat
  day : Nat
  hour : Nat
  minute : Nat
  second : Nat
  millisecond : Nat
deriving DecidableEq, Repr

namespace Moment

/-- The digits of a field, with zeros in front when it has fewer than `width`. -/
def field (width n : Nat) : String :=
  let digits := Numeral.digits n
  String.ofList (List.replicate (width - digits.length) '0' ++ digits)

/-- The date and the time of day, such as `2024-02-29 08:05:00,250`. -/
def write (moment : Moment) : String :=
  "-".intercalate [field 4 moment.year, field 2 moment.month, field 2 moment.day] ++ " " ++
    ":".intercalate [field 2 moment.hour, field 2 moment.minute, field 2 moment.second] ++ "," ++
    field 3 moment.millisecond

example : write ⟨2024, 2, 29, 8, 5, 0, 250⟩ = "2024-02-29 08:05:00,250" := by decide +kernel

end Moment

end Reckoner
