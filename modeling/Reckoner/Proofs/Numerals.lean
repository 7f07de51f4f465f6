import Mathlib.Algebra.Ring.Int.Defs
import Mathlib.Algebra.Ring.Nat
import Reckoner.Numeral

/-! # Decimal numerals and their lengths

A run of digits is read in the decimal system. How many digits a number has goes by the powers of
ten, so the limit for literals is a bound on their values. A value that is written has no leading
zeros, and what is written denotes it.
-/

namespace Reckoner.Numeral

/-- The value of a run of digits in the decimal system: each digit counts as often as the power of
ten for the digits behind it says. -/
def decimal : List Char → Nat
  | [] => 0
  | c :: run => 10 ^ run.length * (c.toNat - '0'.toNat) + decimal run

theorem value_eq_decimal (run : List Char) : value run = decimal run := by
  induction run with
  | nil => rfl
  | cons c run ih =>
    rw [decimal, ← ih, value, Nat.ofDigitChars_cons, Nat.ofDigitChars_eq_ofDigitChars_zero, value,
      Nat.mul_zero, Nat.zero_add]

theorem value_lt {run : List Char} (digits : ∀ c ∈ run, c.isDigit = true) :
    value run < 10 ^ run.length := by
  rw [value_eq_decimal]
  induction run with
  | nil => exact Nat.one_pos
  | cons c run ih =>
    have below := ih fun d member => digits d (List.mem_cons_of_mem _ member)
    have digit : c.toNat - '0'.toNat ≤ 9 := by
      have bound := (Char.isDigit_iff_toNat.mp (digits c (List.mem_cons_self ..))).2
      exact Nat.sub_le_iff_le_add.mpr bound
    have scaled := Nat.mul_le_mul_left (10 ^ run.length) digit
    rw [decimal, List.length_cons, Nat.pow_succ]
    omega

/-- A number has at most `k` digits exactly when it is below the `k`-th power of ten. -/
theorem length_digits_le_iff {n k : Nat} (positive : 0 < k) :
    (digits n).length ≤ k ↔ n < 10 ^ k :=
  Nat.length_toDigits_le_iff (by decide) positive

/-- The limit for the magnitude of a number that is not negative is one for the number. -/
theorem natAbs_lt_limit_iff {v : Int} (nonneg : 0 ≤ v) :
    v.natAbs < 10 ^ digitLimit ↔ v < 10 ^ digitLimit := by
  generalize digitLimit = limit
  rw [← Int.ofNat_lt, Int.natAbs_of_nonneg nonneg, Int.natCast_pow]
  rfl

theorem write?_of_short {v : Int} (short : v.natAbs < 10 ^ digitLimit) :
    write? v = some (write v) := by
  rw [write?, Nat.pow_eq, if_pos short]

theorem write?_of_long {v : Int} (long : 10 ^ digitLimit ≤ v.natAbs) : write? v = none := by
  rw [write?, Nat.pow_eq, if_neg (Nat.not_lt_of_le long)]

theorem toList_write_of_nonneg {v : Int} (nonneg : 0 ≤ v) :
    (write v).toList = digits v.natAbs := by
  rw [write, if_neg (Int.not_lt.mpr nonneg), String.toList_ofList]

theorem toList_write_of_neg {v : Int} (negative : v < 0) :
    (write v).toList = '-' :: digits v.natAbs := by
  rw [write, if_pos negative, String.toList_ofList]

/-- The written form of a number that can be read is a run of digits with that value. -/
theorem write_eq_digits {value : Int} (legible : 0 ≤ value ∧ value < 10 ^ digitLimit) :
    ∃ run, (write value).toList = run ∧ run ≠ [] ∧ (∀ c ∈ run, c.isDigit = true) ∧
      run.length ≤ digitLimit ∧ (Numeral.value run : Int) = value := by
  obtain ⟨nonneg, below⟩ := legible
  refine ⟨digits value.natAbs, toList_write_of_nonneg nonneg, digits_ne_nil _,
    fun c => isDigit_of_mem_digits, ?_, ?_⟩
  · rw [length_digits_le_iff (by decide)]
    exact (natAbs_lt_limit_iff nonneg).mpr below
  · rw [value_digits, Int.natAbs_of_nonneg nonneg]

/-- The digits of a positive number, within the limit and without a leading zero. -/
structure IsMagnitude (digits : List Char) : Prop where
  nonempty : digits ≠ []
  digit : ∀ c ∈ digits, c.isDigit = true
  short : digits.length ≤ digitLimit
  lead : digits.head? ≠ some '0'

/-- A numeral in the form in which results are written. -/
def IsCanonical (line : List Char) : Prop :=
  line = ['0'] ∨ ∃ digits, IsMagnitude digits ∧ (line = digits ∨ line = '-' :: digits)

def denoted : List Char → Int
  | '-' :: digits => -(value digits : Int)
  | digits => value digits

theorem denoted_of_digits {run : List Char} (digits : ∀ c ∈ run, c.isDigit = true) :
    denoted run = value run := by
  unfold denoted
  split
  · next run =>
    have minus := digits '-' (List.mem_cons_self ..)
    cases minus
  · rfl

/-- The digits of a positive number have no leading zero: without it they would have the same
value. -/
theorem head?_digits_ne_zero {n : Nat} (positive : 0 < n) : (digits n).head? ≠ some '0' := by
  intro zero
  obtain ⟨rest, same⟩ := List.head?_eq_some_iff.mp zero
  have digit : ∀ c ∈ rest, c.isDigit = true := by
    intro c member
    apply isDigit_of_mem_digits (n := n)
    rw [same]
    exact List.mem_cons_of_mem _ member
  have below : n < 10 ^ rest.length := by
    have value := value_digits n
    rw [same, Numeral.value, Nat.ofDigitChars_cons] at value
    rw [← value]
    exact value_lt digit
  rcases Nat.eq_zero_or_pos rest.length with none | some
  · rw [none] at below
    omega
  · have length := (length_digits_le_iff some).mpr below
    rw [same, List.length_cons] at length
    omega

theorem isMagnitude_digits {n : Nat} (positive : 0 < n) (short : n < 10 ^ digitLimit) :
    IsMagnitude (digits n) := by
  refine ⟨digits_ne_nil n, fun c => isDigit_of_mem_digits, ?_, head?_digits_ne_zero positive⟩
  rw [length_digits_le_iff (by decide)]
  exact short

theorem isCanonical_write {v : Int} (short : v.natAbs < 10 ^ digitLimit) :
    IsCanonical (write v).toList := by
  rcases Int.lt_trichotomy v 0 with negative | rfl | positive
  · rw [toList_write_of_neg negative]
    exact .inr ⟨_, isMagnitude_digits (by omega) short, .inr rfl⟩
  · exact .inl (by decide)
  · rw [toList_write_of_nonneg (by omega)]
    exact .inr ⟨_, isMagnitude_digits (by omega) short, .inl rfl⟩

theorem denoted_write (v : Int) : denoted (write v).toList = v := by
  rcases Int.lt_or_le v 0 with negative | nonneg
  · rw [toList_write_of_neg negative, denoted, value_digits]
    omega
  · rw [toList_write_of_nonneg nonneg, denoted_of_digits fun c => isDigit_of_mem_digits,
      value_digits]
    omega

end Reckoner.Numeral
