import Reckoner.Token

/-! # Expression trees

An expression is a literal or an operation on two expressions. A tree need not come from a text:
its literals may be negative, its operators may bear any name, and it may have holes, which are
nodes without content.
-/

namespace Reckoner

/-- The four operations, and any other name that a node may bear. -/
inductive Operator where
  | plus
  | minus
  | star
  | slash
  | other (name : String)
deriving DecidableEq, Repr

namespace Operator

/-- The name under which an operator is reported. -/
def name : Operator → String
  | .plus => "PLUS"
  | .minus => "MINUS"
  | .star => "STAR"
  | .slash => "SLASH"
  | .other name => name

def known : List Operator :=
  [.plus, .minus, .star, .slash]

/-- The operator that is reported under `name`. -/
def ofName (name : String) : Operator :=
  (known.find? fun op => op.name = name).getD (.other name)

end Operator

inductive Expr where
  | literal (value : Int)
  | binary (op : Operator) (left right : Expr)
  | hole
deriving DecidableEq, Repr

namespace Expr

/-- The word for the shape of the root. -/
def shape : Expr → String
  | .literal _ => "Literal"
  | .binary .. => "BinaryOp"
  | .hole => "Expression"

def size : Expr → Nat
  | .literal _ => 1
  | .binary _ left right => left.size + right.size + 1
  | .hole => 1

end Expr

end Reckoner
