import Reckoner.Expr.Print
import Reckoner.Expr.Value

/-! # The worth of a tree

What a tree is worth, as a relation: exact integers, division toward zero, and no worth when a
divisor is zero. A tree has just the value that it is worth, and a tree that can be written has one
unless a divisor in it is zero.
-/

namespace Reckoner

namespace Expr

/-- `e.Worth v` says that every division in the tree has a divisor other than zero and that `v` is
the value of the tree. -/
inductive Worth : Expr → Int → Prop where
  | literal (v : Int) : Worth (.literal v) v
  | sum {x y : Expr} {v w : Int} (left : Worth x v) (right : Worth y w) :
      Worth (.binary .plus x y) (v + w)
  | difference {x y : Expr} {v w : Int} (left : Worth x v) (right : Worth y w) :
      Worth (.binary .minus x y) (v - w)
  | product {x y : Expr} {v w : Int} (left : Worth x v) (right : Worth y w) :
      Worth (.binary .star x y) (v * w)
  | quotient {x y : Expr} {v w : Int} (left : Worth x v) (right : Worth y w) (divides : w ≠ 0) :
      Worth (.binary .slash x y) (v.tdiv w)

/-- Somewhere in the tree the right operand of a division is worth zero. -/
inductive MeetsZeroDivisor : Expr → Prop where
  | here {x y : Expr} (zero : Worth y 0) : MeetsZeroDivisor (.binary .slash x y)
  | left {op : Operator} {x y : Expr} (within : MeetsZeroDivisor x) :
      MeetsZeroDivisor (.binary op x y)
  | right {op : Operator} {x y : Expr} (within : MeetsZeroDivisor y) :
      MeetsZeroDivisor (.binary op x y)

end Expr

/-- Dividing magnitudes and then minding the signs is division toward zero. -/
theorem truncatedQuotient_eq_tdiv (left right : Int) :
    truncatedQuotient left right = left.tdiv right := by
  obtain ⟨n, left_eq⟩ := left.eq_nat_or_neg
  obtain ⟨m, right_eq⟩ := right.eq_nat_or_neg
  have quotient : (n : Int).tdiv m = (n / m : Nat) := (Int.ofNat_tdiv n m).symm
  rcases Nat.eq_zero_or_pos n with rfl | positive
  · obtain rfl : left = 0 := by omega
    simp [truncatedQuotient]
  rcases Nat.eq_zero_or_pos m with rfl | positive'
  · obtain rfl : right = 0 := by omega
    simp [truncatedQuotient]
  rcases left_eq with rfl | rfl
  · rcases right_eq with rfl | rfl
    · have signs : (n : Int) < 0 ↔ (m : Int) < 0 := by omega
      rw [truncatedQuotient, if_pos signs, Int.natAbs_natCast, Int.natAbs_natCast, quotient]
    · have signs : ¬((n : Int) < 0 ↔ -(m : Int) < 0) := by omega
      rw [truncatedQuotient, if_neg signs, Int.natAbs_natCast, Int.natAbs_neg, Int.natAbs_natCast,
        Int.tdiv_neg, quotient]
  · rcases right_eq with rfl | rfl
    · have signs : ¬(-(n : Int) < 0 ↔ (m : Int) < 0) := by omega
      rw [truncatedQuotient, if_neg signs, Int.natAbs_neg, Int.natAbs_natCast, Int.natAbs_natCast,
        Int.neg_tdiv, quotient]
    · have signs : -(n : Int) < 0 ↔ -(m : Int) < 0 := by omega
      rw [truncatedQuotient, if_pos signs, Int.natAbs_neg, Int.natAbs_natCast, Int.natAbs_neg,
        Int.natAbs_natCast, Int.neg_tdiv_neg, quotient]

namespace Operator

theorem apply_eq_error_iff {op : Operator} (known : op ∈ Operator.known) {v w : Int}
    {error : EvalError} :
    op.apply v w = .error error ↔ op = .slash ∧ w = 0 ∧ error = .divisionByZero := by
  simp only [Operator.known, List.mem_cons, List.not_mem_nil, or_false] at known
  rcases known with rfl | rfl | rfl | rfl
  · simp [apply]
  · simp [apply]
  · simp [apply]
  · rw [apply]
    split
    · next zero => simp [zero, eq_comm]
    · next divides => simp [divides]

end Operator

namespace Expr

variable {op : Operator} {x y e : Expr}

/-- An operation has a value when both operands have one and their values can be combined. -/
theorem value_binary_eq_ok_iff {u : Int} : (binary op x y).value = .ok u ↔
    ∃ v w, x.value = .ok v ∧ y.value = .ok w ∧ op.apply v w = .ok u := by
  rw [value]
  cases x.value with
  | error error => simp [bind, Except.bind]
  | ok v => cases y.value with
    | error error => simp [bind, Except.bind]
    | ok w => simp [bind, Except.bind]

/-- An operation fails as the first of its parts that fails: the left operand, the right one, the
combination of their values. -/
theorem value_binary_eq_error_iff {error : EvalError} : (binary op x y).value = .error error ↔
    x.value = .error error ∨ ∃ v, x.value = .ok v ∧ (y.value = .error error ∨
      ∃ w, y.value = .ok w ∧ op.apply v w = .error error) := by
  rw [value]
  cases x.value with
  | error error => simp [bind, Except.bind]
  | ok v => cases y.value with
    | error error => simp [bind, Except.bind]
    | ok w => simp [bind, Except.bind]

theorem value_eq_ok_iff {u : Int} : e.value = .ok u ↔ e.Worth u := by
  constructor
  · intro found
    induction e generalizing u with
    | literal value =>
      cases found
      exact .literal value
    | hole => cases found
    | binary op x y ihLeft ihRight =>
      obtain ⟨v, w, left, right, combined⟩ := value_binary_eq_ok_iff.mp found
      have worthLeft := ihLeft left
      have worthRight := ihRight right
      match op with
      | .plus =>
        cases combined
        exact .sum worthLeft worthRight
      | .minus =>
        cases combined
        exact .difference worthLeft worthRight
      | .star =>
        cases combined
        exact .product worthLeft worthRight
      | .slash =>
        rw [Operator.apply] at combined
        split at combined
        · cases combined
        · next divides =>
          cases combined
          rw [truncatedQuotient_eq_tdiv]
          exact .quotient worthLeft worthRight divides
      | .other name => cases combined
  · intro worth
    induction worth with
    | literal v => rfl
    | sum _ _ left right | difference _ _ left right | product _ _ left right =>
      exact value_binary_eq_ok_iff.mpr ⟨_, _, left, right, rfl⟩
    | quotient _ _ divides left right =>
      refine value_binary_eq_ok_iff.mpr ⟨_, _, left, right, ?_⟩
      rw [Operator.apply, if_neg divides, truncatedQuotient_eq_tdiv]

/-- A tree that can be read fails at a zero divisor and nowhere else. -/
theorem value_eq_error_iff (legible : e.Legible) {error : EvalError} :
    e.value = .error error ↔ e.MeetsZeroDivisor ∧ error = .divisionByZero := by
  induction e generalizing error with
  | literal value =>
    constructor
    · rintro ⟨⟩
    · rintro ⟨⟨⟩, -⟩
  | hole => exact legible.elim
  | binary op x y ihLeft ihRight =>
    obtain ⟨known, legibleLeft, legibleRight⟩ := legible
    rw [value_binary_eq_error_iff, ihLeft legibleLeft]
    constructor
    · rintro (⟨meets, rfl⟩ | ⟨v, -, failed | ⟨w, found, failed⟩⟩)
      · exact ⟨.left meets, rfl⟩
      · obtain ⟨meets, rfl⟩ := (ihRight legibleRight).mp failed
        exact ⟨.right meets, rfl⟩
      · obtain ⟨rfl, rfl, rfl⟩ := (Operator.apply_eq_error_iff known).mp failed
        exact ⟨.here (value_eq_ok_iff.mp found), rfl⟩
    · rintro ⟨meets, rfl⟩
      match left : x.value with
      | .error error =>
        have failed := (ihLeft legibleLeft).mp left
        exact .inl ⟨failed.1, rfl⟩
      | .ok v =>
        have works : ¬x.MeetsZeroDivisor := by
          intro meets
          cases left.symm.trans ((ihLeft legibleLeft).mpr ⟨meets, rfl⟩)
        refine .inr ⟨v, rfl, ?_⟩
        cases meets with
        | here zero =>
          refine .inr ⟨0, value_eq_ok_iff.mpr zero, ?_⟩
          exact (Operator.apply_eq_error_iff known).mpr ⟨rfl, rfl, rfl⟩
        | left meets => exact absurd meets works
        | right meets => exact .inl ((ihRight legibleRight).mpr ⟨meets, rfl⟩)

end Expr

end Reckoner
