import Reckoner.Expr.Value

/-! # Evaluation with an explicit stack

A chain such as `1+1+…+1` is a tree as deep as the chain is long, so evaluation keeps what is left
to do on a stack of tasks and what it has found on a stack of values. To visit an operation is to
visit its left operand, then its right one, and then to combine the two values on top.

Combining with fewer than two values at hand has an outcome of its own, `starved`. It never
arises: `run_visit` says that a visit puts the value of the expression on the stack or fails as
the expression does, so a run that begins with one visit ends with exactly one value.
-/

namespace Reckoner

/-- One piece of work of the machine. -/
inductive Task where
  | visit (e : Expr)
  | combine (op : Operator)
deriving DecidableEq, Repr

inductive Outcome where
  /-- No task is left. -/
  | finished (values : List Int)
  | failed (error : EvalError)
  /-- An operation found fewer than two values. -/
  | starved
deriving DecidableEq, Repr

namespace Task

/-- An upper bound on the steps that a task takes. -/
def cost : Task → Nat
  | .visit e => 2 * e.size
  | .combine _ => 1

/-- Works off the tasks, the first one first, on a stack of values. -/
def run (tasks : List Task) (values : List Int) : Outcome :=
  match tasks with
  | [] => .finished values
  | .visit (.literal value) :: rest => run rest (value :: values)
  | .visit (.binary op left right) :: rest =>
    run (.visit left :: .visit right :: .combine op :: rest) values
  | .visit .hole :: _ => .failed (.unsupportedNode .hole)
  | .combine op :: rest =>
    match values with
    | right :: left :: below =>
      match op.apply left right with
      | .ok value => run rest (value :: below)
      | .error error => .failed error
    | _ => .starved
termination_by tasks.foldr (fun task total => task.cost + total) 0
decreasing_by
  all_goals simp only [List.foldr_cons, cost, Expr.size]
  all_goals omega

theorem run_nil (values : List Int) : run [] values = .finished values := by
  rw [run]

theorem run_combine (op : Operator) (rest : List Task) (left right : Int) (below : List Int) :
    run (.combine op :: rest) (right :: left :: below) =
      match op.apply left right with
      | .ok value => run rest (value :: below)
      | .error error => .failed error := by
  rw [run]

/-- A visit puts the value of the expression on the stack, or fails as the expression does. -/
theorem run_visit (e : Expr) (rest : List Task) (values : List Int) :
    run (.visit e :: rest) values =
      match e.value with
      | .ok value => run rest (value :: values)
      | .error error => .failed error := by
  induction e generalizing rest values with
  | literal value => rw [run]; rfl
  | hole => rw [run]; rfl
  | binary op left right ihLeft ihRight =>
    rw [run, ihLeft]
    simp only [Expr.value]
    cases left.value with
    | error error => rfl
    | ok x =>
      simp only [ihRight]
      cases right.value with
      | error error => rfl
      | ok y => exact run_combine op rest x y values

end Task

namespace Outcome

/-- A run has settled when it failed for a reason of the expression or left exactly one value. -/
def Settled : Outcome → Prop
  | .finished [_] => True
  | .failed _ => True
  | _ => False

def result : (outcome : Outcome) → outcome.Settled → Except EvalError Int
  | .finished [value], _ => .ok value
  | .failed error, _ => .error error
  | .finished [], settled => settled.elim
  | .finished (_ :: _ :: _), settled => settled.elim
  | .starved, settled => settled.elim

end Outcome

namespace Expr

theorem settled_run (e : Expr) : (Task.run [.visit e] []).Settled := by
  rw [Task.run_visit]
  cases e.value with
  | error error => trivial
  | ok value => simp only [Task.run_nil]; trivial

/-- The value of an expression, computed on a stack of tasks. -/
def evaluate (e : Expr) : Except EvalError Int :=
  (Task.run [.visit e] []).result e.settled_run

end Expr

end Reckoner
