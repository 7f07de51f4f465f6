import Reckoner.Error
import Reckoner.Proofs.Worth

/-! # Quotients toward zero

A quotient is rounded toward zero when what it leaves of the dividend is smaller than the divisor
and does not go against the sign of the dividend. A divisor other than zero has just one such
quotient, and dividing magnitudes finds it. What happens to it when a sign changes follows from
that it is the only one.
-/

namespace Reckoner

/-- The quotient is rounded toward zero: what it leaves of the dividend is smaller than the
divisor, and zero or of the sign of the dividend. -/
structure RoundsTowardZero (dividend divisor quotient : Int) : Prop where
  smaller : (dividend - quotient * divisor).natAbs < divisor.natAbs
  sided : dividend - quotient * divisor = 0 ∨
    (dividend - quotient * divisor).sign = dividend.sign

namespace RoundsTowardZero

variable {dividend divisor quotient other : Int}

theorem rest_nonneg (rounds : RoundsTowardZero dividend divisor quotient) (nonneg : 0 ≤ dividend) :
    0 ≤ dividend - quotient * divisor := by
  rcases rounds.sided with zero | same
  · exact Int.le_of_eq zero.symm
  · rwa [← Int.sign_nonneg_iff, same, Int.sign_nonneg_iff]

theorem rest_nonpos (rounds : RoundsTowardZero dividend divisor quotient) (nonpos : dividend ≤ 0) :
    dividend - quotient * divisor ≤ 0 := by
  rcases rounds.sided with zero | same
  · exact Int.le_of_eq zero
  · rwa [← Int.sign_nonpos_iff, same, Int.sign_nonpos_iff]

/-- What two quotients leave lies on one side of zero, so the two differ by less than the divisor
and hence not at all. -/
theorem unique (first : RoundsTowardZero dividend divisor quotient)
    (second : RoundsTowardZero dividend divisor other) : quotient = other := by
  have apart : ((quotient - other) * divisor).natAbs < divisor.natAbs := by
    have smaller := first.smaller
    have smaller' := second.smaller
    rw [Int.sub_mul]
    rcases Int.le_total 0 dividend with nonneg | nonpos
    · have rest := first.rest_nonneg nonneg
      have rest' := second.rest_nonneg nonneg
      omega
    · have rest := first.rest_nonpos nonpos
      have rest' := second.rest_nonpos nonpos
      omega
  rw [Int.natAbs_mul] at apart
  have none : (quotient - other).natAbs < 1 := by
    apply Nat.lt_of_mul_lt_mul_right (a := divisor.natAbs)
    rwa [Nat.one_mul]
  omega

theorem neg_left (rounds : RoundsTowardZero dividend divisor quotient) :
    RoundsTowardZero (-dividend) divisor (-quotient) := by
  have rest : -dividend - -quotient * divisor = -(dividend - quotient * divisor) := by
    rw [Int.neg_mul]
    omega
  constructor
  · rw [rest, Int.natAbs_neg]
    exact rounds.smaller
  · rw [rest, Int.neg_eq_zero, Int.sign_neg, Int.sign_neg, Int.neg_inj]
    exact rounds.sided

theorem neg_right (rounds : RoundsTowardZero dividend divisor quotient) :
    RoundsTowardZero dividend (-divisor) (-quotient) := by
  constructor
  · rw [Int.neg_mul_neg, Int.natAbs_neg]
    exact rounds.smaller
  · rw [Int.neg_mul_neg]
    exact rounds.sided

end RoundsTowardZero

/-- Dividing magnitudes and then minding the signs rounds toward zero. -/
theorem roundsTowardZero_truncatedQuotient (a : Int) {b : Int} (divides : b ≠ 0) :
    RoundsTowardZero a b (truncatedQuotient a b) := by
  have rest : a - truncatedQuotient a b * b = a.tmod b := by
    rw [truncatedQuotient_eq_tdiv, Int.tmod_def, Int.mul_comm]
  have magnitude : (a.tmod b).natAbs = a.natAbs % b.natAbs := Int.natAbs_tmod a b
  constructor
  · rw [rest, magnitude]
    exact Nat.mod_lt _ (Int.natAbs_pos.mpr divides)
  · rw [rest]
    have within := Nat.mod_le a.natAbs b.natAbs
    rcases Int.lt_trichotomy a 0 with negative | rfl | positive
    · have mirrored := Int.tmod_nonneg b (Int.neg_nonneg_of_nonpos (Int.le_of_lt negative))
      rw [Int.neg_tmod] at mirrored
      rw [Int.sign_eq_neg_one_of_neg negative, Int.sign_eq_neg_one_iff_neg]
      omega
    · exact .inl (Int.zero_tmod b)
    · have nonneg := Int.tmod_nonneg b (Int.le_of_lt positive)
      rw [Int.sign_eq_one_of_pos positive, Int.sign_eq_one_iff_pos]
      omega

theorem natAbs_truncatedQuotient_le (a b : Int) : (truncatedQuotient a b).natAbs ≤ a.natAbs := by
  rw [truncatedQuotient_eq_tdiv]
  exact Int.natAbs_tdiv_le_natAbs a b

/-- A quotient by a divisor other than zero is rounded toward zero, and no other integer is. So its
sign goes with each of the two signs, and it is no larger than the dividend. The operator of
division finds it, and fails at zero and nowhere else. -/
theorem truncatedQuotient_is_the_quotient_toward_zero (a b : Int) :
    (b ≠ 0 →
      (∀ q, RoundsTowardZero a b q ↔ q = truncatedQuotient a b) ∧
      truncatedQuotient (-a) b = -truncatedQuotient a b ∧
      truncatedQuotient a (-b) = -truncatedQuotient a b ∧
      (truncatedQuotient a b).natAbs ≤ a.natAbs) ∧
    (∀ q, (Operator.ofName "SLASH").apply a b = .ok q ↔ b ≠ 0 ∧ q = truncatedQuotient a b) ∧
    ∀ error, (Operator.ofName "SLASH").apply a b = .error error ↔
      b = 0 ∧ error = .divisionByZero ∧ error.kind.name = "ZeroDivisionError" := by
  have slash : Operator.ofName "SLASH" = .slash := by decide
  rw [slash]
  refine ⟨?_, ?_, ?_⟩
  · intro divides
    have rounds := roundsTowardZero_truncatedQuotient a divides
    have mirrored := roundsTowardZero_truncatedQuotient (-a) divides
    have opposed := roundsTowardZero_truncatedQuotient a (Int.neg_ne_zero.mpr divides)
    refine ⟨?_, mirrored.unique rounds.neg_left, opposed.unique rounds.neg_right,
      natAbs_truncatedQuotient_le a b⟩
    intro q
    constructor
    · exact fun also => also.unique rounds
    · rintro rfl
      exact rounds
  · intro q
    rw [Operator.apply]
    split
    · next zero => simp [zero]
    · next divides => simp [divides, eq_comm]
  · intro error
    rw [Operator.apply_eq_error_iff (by decide)]
    constructor
    · rintro ⟨-, zero, rfl⟩
      exact ⟨zero, rfl, rfl⟩
    · rintro ⟨zero, same, -⟩
      exact ⟨rfl, zero, same⟩

/-- `-7` by `2` is `-3`, and so is `7` by `-2`; the floor of neither is. -/
theorem truncatedQuotient_is_the_quotient_toward_zero_of_seven :
    (2 : Int) ≠ 0 ∧ truncatedQuotient (-7) 2 = -3 ∧ RoundsTowardZero (-7) 2 (-3) ∧
      ¬RoundsTowardZero (-7) 2 (-4) ∧ truncatedQuotient 7 (-2) = -3 ∧
      (Operator.ofName "SLASH").apply (-7) 2 = .ok (-3) := by
  have divides : (2 : Int) ≠ 0 := by decide
  have quotient : truncatedQuotient (-7) 2 = -3 := by decide
  obtain ⟨nonzero, found, -⟩ := truncatedQuotient_is_the_quotient_toward_zero (-7) 2
  obtain ⟨only, -⟩ := nonzero divides
  obtain ⟨-, -, opposed, -⟩ := (truncatedQuotient_is_the_quotient_toward_zero 7 2).1 divides
  refine ⟨divides, quotient, ?_, ?_, opposed, ?_⟩
  · exact (only _).mpr quotient.symm
  · rw [only, quotient]
    decide
  · exact (found _).mpr ⟨divides, quotient.symm⟩

end Reckoner
