import Reckoner.Expr

/-! # The value of an expression

Arithmetic is exact. Division rounds toward zero and has no value at a zero divisor. The left
operand is evaluated before the right one and both before the operation, and the first failure in
that order is the one reported.

`Expr.value` says what an expression is worth. It follows the tree, so its depth is that of the
tree; `Expr.evaluate`, in the module on the machine, computes the same with a stack of its own.
-/

namespace Reckoner

inductive EvalError where
  | divisionByZero
  | unknownOperator (op : Operator)
  | unsupportedNode (node : Expr)
deriving DecidableEq, Repr

/-- The quotient of `left` by `right`, rounded toward zero: magnitudes are divided, and the
result is negative when exactly one of the two is. -/
def truncatedQuotient (left right : Int) : Int :=
  let magnitude : Int := (left.natAbs / right.natAbs : Nat)
  if (left < 0 ↔ right < 0) then magnitude else -magnitude

def Operator.apply (op : Operator) (left right : Int) : Except EvalError Int :=
  match op with
  | .plus => .ok (left + right)
  | .minus => .ok (left - right)
  | .star => .ok (left * right)
  | .slash => if right = 0 then .error .divisionByZero else .ok (truncatedQuotient left right)
  | .other name => .error (.unknownOperator (.other name))

def Expr.value : Expr → Except EvalError Int
  | .literal value => .ok value
  | .binary op left right => do
    let x ← left.value
    let y ← right.value
    op.apply x y
  | .hole => .error (.unsupportedNode .hole)

example : truncatedQuotient (-7) 2 = -3 ∧ truncatedQuotient 7 (-2) = -3 ∧
    truncatedQuotient (-7) (-2) = 3 ∧ truncatedQuotient 0 (-2) = 0 := by decide

end Reckoner
