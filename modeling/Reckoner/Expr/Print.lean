import Reckoner.Grammar

/-! # Writing expressions

An expression is written with parentheses only where its tree would otherwise be another one:
around an operand that binds less tightly than its place asks for, and around a right operand
that binds no more tightly than the operator before it. Between the pieces of the written form
any number of spaces may stand.
-/

namespace Reckoner

/-- How loosely the phrases of a rank bind. -/
def Rank.looseness : Rank → Nat
  | .factor => 0
  | .term => 1
  | .expression => 2

namespace Operator

/-- The rank of the phrases that an operator makes. -/
def rank : Operator → Rank
  | .star | .slash => .term
  | .plus | .minus | .other _ => .expression

def symbol : Operator → List Char
  | .plus => ['+']
  | .minus => ['-']
  | .star => ['*']
  | .slash => ['/']
  | .other name => name.toList

end Operator

namespace Expr

/-- The rank of the phrases whose tree is `e`, when they are not in parentheses. -/
def rank : Expr → Rank
  | .binary op .. => op.rank
  | .literal _ | .hole => .factor

/-- The written form of a phrase, in parentheses unless it is `bare`. -/
def enclose (bare : Bool) (pieces : List (List Char)) : List (List Char) :=
  if bare then pieces else ['('] :: (pieces ++ [[')']])

/-- The pieces of the written form of an expression: numerals, operators and parentheses. -/
def pieces : Expr → List (List Char)
  | .literal value => [(Numeral.write value).toList]
  | .binary op left right =>
    enclose (left.rank.looseness ≤ op.rank.looseness) left.pieces ++
      op.symbol :: enclose (right.rank.looseness < op.rank.looseness) right.pieces
  | .hole => []

def print (e : Expr) : String :=
  String.ofList e.pieces.flatten

/-- Whether the written form of a tree can be read: its literals are within the limits of
numerals, and it has only the four operators and no holes. -/
def Legible : Expr → Prop
  | .literal value => 0 ≤ value ∧ value < 10 ^ Numeral.digitLimit
  | .binary op left right => op ∈ Operator.known ∧ left.Legible ∧ right.Legible
  | .hole => False

end Expr

/-- `Spaced pieces text` says that the text consists of the pieces in order, with any number of
spaces before each of them and after the last. -/
inductive Spaced : List (List Char) → List Char → Prop where
  | nil (spaces : Nat) : Spaced [] (List.replicate spaces ' ')
  | cons (spaces : Nat) (piece : List Char) {pieces : List (List Char)} {text : List Char}
      (rest : Spaced pieces text) :
      Spaced (piece :: pieces) (List.replicate spaces ' ' ++ (piece ++ text))

theorem Spaced.flatten (pieces : List (List Char)) : Spaced pieces pieces.flatten := by
  induction pieces with
  | nil => exact .nil 0
  | cons piece pieces ih => exact .cons 0 piece ih

/-- Nowhere in a text have more than `levels` parentheses been opened and not closed. -/
def NestsWithin (levels : Nat) (text : List Char) : Prop :=
  ∀ front, front <+: text → front.count '(' ≤ front.count ')' + levels

private def oneMinus (e : Expr) : Expr :=
  .binary .minus (.literal 1) e

example : (oneMinus (oneMinus (.literal 2))).pieces =
    [['1'], ['-'], ['('], ['1'], ['-'], ['2'], [')']] := by decide +kernel
example : (Expr.binary .minus (oneMinus (.literal 2)) (.binary .slash (.literal 3)
    (.binary .star (.literal 4) (oneMinus (.literal 5))))).print = "1-2-3/(4*(1-5))" := by
  decide +kernel

end Reckoner
