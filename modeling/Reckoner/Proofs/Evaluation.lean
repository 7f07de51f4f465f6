import Mathlib.Algebra.Ring.Nat
import Reckoner.Error
import Reckoner.Expr.Machine

/-! # The machine computes the value

The machine is looked at one step at a time. What carries a run is `Stacks.Served`: counted
through the tasks to come, every operation finds two values and one value is left at the end. A
step keeps it, keeps what the whole run will find, and uses up some of the cost of the tasks; so
no stack that a run reaches is ever starved, and the run ends as the expression says.
-/

namespace Reckoner

namespace Outcome

/-- The outcome of a run that ends in one value or in an error. -/
def of : Except EvalError Int → Outcome
  | .ok value => .finished [value]
  | .error error => .failed error

theorem of_injective {first second : Except EvalError Int} (same : of first = of second) :
    first = second := by
  cases first <;> cases second <;> simp_all [of]

theorem result_eq_of {outcome : Outcome} {result : Except EvalError Int}
    (settled : outcome.Settled) (made : outcome = of result) : outcome.result settled = result := by
  subst made
  cases result <;> rfl

end Outcome

/-- The two stacks of the machine between steps. -/
structure Stacks where
  tasks : List Task
  values : List Int
deriving DecidableEq, Repr

namespace Stacks

def start (e : Expr) : Stacks :=
  ⟨[.visit e], []⟩

/-- `Step s t` says that working off the first task of `s` leaves `t`. -/
inductive Step : Stacks → Stacks → Prop where
  | literal (value : Int) (rest : List Task) (values : List Int) :
      Step ⟨.visit (.literal value) :: rest, values⟩ ⟨rest, value :: values⟩
  | binary (op : Operator) (left right : Expr) (rest : List Task) (values : List Int) :
      Step ⟨.visit (.binary op left right) :: rest, values⟩
        ⟨.visit left :: .visit right :: .combine op :: rest, values⟩
  | combine {op : Operator} {left right value : Int} (rest : List Task) (below : List Int)
      (applied : op.apply left right = .ok value) :
      Step ⟨.combine op :: rest, right :: left :: below⟩ ⟨rest, value :: below⟩

/-- `Halts s result` says that no step is left and what the machine has found. -/
inductive Halts : Stacks → Except EvalError Int → Prop where
  | finished (value : Int) : Halts ⟨[], [value]⟩ (.ok value)
  | hole (rest : List Task) (values : List Int) :
      Halts ⟨.visit .hole :: rest, values⟩ (.error (.unsupportedNode .hole))
  | combine {op : Operator} {left right : Int} {error : EvalError} (rest : List Task)
      (below : List Int) (failed : op.apply left right = .error error) :
      Halts ⟨.combine op :: rest, right :: left :: below⟩ (.error error)

/-- `After n s t` says that `n` steps lead from `s` to `t`. -/
inductive After : Nat → Stacks → Stacks → Prop where
  | refl (s : Stacks) : After 0 s s
  | step {n : Nat} {s t u : Stacks} (first : Step s t) (rest : After n t u) : After (n + 1) s u

/-- A value is wanted that is not there: two by an operation, or the one that is the result. -/
def Starved (s : Stacks) : Prop :=
  (∃ op rest, s.tasks = .combine op :: rest ∧ s.values.length < 2) ∨
    (s.tasks = [] ∧ s.values = [])

/-- Whether tasks find the values they want when they begin with so many, and leave one. -/
def serves : List Task → Nat → Prop
  | [], count => count = 1
  | .visit _ :: rest, count => serves rest (count + 1)
  | .combine _ :: rest, count => 2 ≤ count ∧ serves rest (count - 1)

/-- The values at hand and those to come are enough for the tasks. -/
def Served (s : Stacks) : Prop :=
  serves s.tasks s.values.length

theorem served_start (e : Expr) : (start e).Served :=
  rfl

theorem Served.step {s t : Stacks} (served : s.Served) (step : Step s t) : t.Served := by
  cases step with
  | literal value rest values => exact served
  | binary op left right rest values =>
    simp only [Served, serves] at served ⊢
    refine ⟨by omega, ?_⟩
    rw [show values.length + 1 + 1 - 1 = values.length + 1 from by omega]
    exact served
  | combine rest below applied =>
    simp only [Served, serves, List.length_cons] at served ⊢
    exact served.2

theorem Served.not_starved {s : Stacks} (served : s.Served) : ¬s.Starved := by
  rintro (⟨op, rest, tasks, few⟩ | ⟨tasks, values⟩)
  · rw [Served, tasks] at served
    exact absurd served.1 (by omega)
  · rw [Served, tasks, values] at served
    exact absurd served Nat.zero_ne_one

/-- Served stacks have a step to make or have come to a result. -/
theorem Served.progress {s : Stacks} (served : s.Served) :
    (∃ t, Step s t) ∨ ∃ result, Halts s result := by
  match s with
  | ⟨.visit (.literal value) :: rest, values⟩ => exact .inl ⟨_, .literal value rest values⟩
  | ⟨.visit (.binary op left right) :: rest, values⟩ =>
    exact .inl ⟨_, .binary op left right rest values⟩
  | ⟨.visit .hole :: rest, values⟩ => exact .inr ⟨_, .hole rest values⟩
  | ⟨.combine op :: rest, right :: left :: below⟩ =>
    cases applied : op.apply left right with
    | ok value => exact .inl ⟨_, .combine rest below applied⟩
    | error error => exact .inr ⟨_, .combine rest below applied⟩
  | ⟨.combine op :: rest, []⟩ => exact absurd served.1 (Nat.not_succ_le_zero 1)
  | ⟨.combine op :: rest, [value]⟩ => exact absurd served.1 (Nat.lt_irrefl 1)
  | ⟨[], values⟩ =>
    obtain ⟨value, rfl⟩ := List.length_eq_one_iff.mp (show values.length = 1 from served)
    exact .inr ⟨_, .finished value⟩

def cost (s : Stacks) : Nat :=
  (s.tasks.map Task.cost).sum

theorem Step.cost_lt {s t : Stacks} (step : Step s t) : t.cost < s.cost := by
  cases step <;> simp only [cost, List.map_cons, List.sum_cons, Task.cost, Expr.size] <;> omega

/-- What the machine finds from these stacks on. -/
def outcome (s : Stacks) : Outcome :=
  Task.run s.tasks s.values

/-- A step is what a run does first. -/
theorem Step.outcome_eq {s t : Stacks} (step : Step s t) : s.outcome = t.outcome := by
  cases step with
  | literal value rest values => rw [outcome, Task.run]; rfl
  | binary op left right rest values => rw [outcome, Task.run]; rfl
  | combine rest below applied => rw [outcome, Task.run_combine, applied]; rfl

theorem Halts.outcome_eq {s : Stacks} {result : Except EvalError Int} (halts : Halts s result) :
    s.outcome = .of result := by
  cases halts with
  | finished value => exact Task.run_nil [value]
  | hole rest values => rw [outcome, Task.run]; rfl
  | combine rest below failed => rw [outcome, Task.run_combine, failed]; rfl

/-- A run from one visit finds what the expression is worth. -/
theorem outcome_start (e : Expr) : (start e).outcome = .of e.value := by
  rw [outcome, start, Task.run_visit]
  cases e.value with
  | error error => rfl
  | ok value => exact Task.run_nil [value]

namespace After

variable {n : Nat} {s t : Stacks}

theorem served (path : After n s t) (served : s.Served) : t.Served := by
  induction path with
  | refl s => exact served
  | step first _ ih => exact ih (served.step first)

theorem outcome_eq (path : After n s t) : s.outcome = t.outcome := by
  induction path with
  | refl s => rfl
  | step first _ ih => exact first.outcome_eq.trans ih

/-- Every step uses up cost, so no run is longer than what its tasks cost. -/
theorem add_cost_le (path : After n s t) : n + t.cost ≤ s.cost := by
  induction path with
  | refl s => exact Nat.le_of_eq (Nat.zero_add _)
  | step first _ ih =>
    have less := first.cost_lt
    omega

end After

theorem Served.halts {s : Stacks} (served : s.Served) :
    ∃ n t result, After n s t ∧ Halts t result := by
  induction cost : s.cost using Nat.strongRecOn generalizing s with
  | ind bound ih =>
    obtain ⟨t, step⟩ | ⟨result, halts⟩ := served.progress
    · obtain ⟨n, u, result, path, halts⟩ := ih t.cost (cost ▸ step.cost_lt) (served.step step) rfl
      exact ⟨n + 1, u, result, .step step path, halts⟩
    · exact ⟨0, s, result, .refl s, halts⟩

end Stacks

namespace Expr

theorem evaluate_eq (e : Expr) : e.evaluate = e.value :=
  Outcome.result_eq_of e.settled_run (Stacks.outcome_start e)

/-- The machine evaluates as the plain recursion does: the left operand, the right one, then the
operation, with the first error met. It halts after a bounded number of steps, and at every step
on the way the values that the next task takes are there. -/
theorem evaluate_refines_value (e : Expr) :
    e.evaluate = e.value ∧
      (∀ rest values, Task.run (.visit e :: rest) values =
        match e.value with
        | .ok value => Task.run rest (value :: values)
        | .error error => .failed error) ∧
      (∃ n last, n ≤ 2 * e.size ∧ Stacks.After n (.start e) last ∧ last.Halts e.value) ∧
      (∀ n s, Stacks.After n (.start e) s →
        s.outcome = Task.run [.visit e] [] ∧ ¬s.Starved ∧
          (s.tasks = [] → ∃ value, s.values = [value] ∧ e.value = .ok value)) ∧
      ∃ error, hole.evaluate = .error error ∧ error.kind = .internal ∧
        error.message = "Unsupported AST node: Expression" := by
  refine ⟨e.evaluate_eq, Task.run_visit e, ?_, ?_, ?_⟩
  · obtain ⟨n, last, result, path, halts⟩ := (Stacks.served_start e).halts
    have found : Outcome.of result = .of e.value := by
      rw [← halts.outcome_eq, ← path.outcome_eq, Stacks.outcome_start]
    obtain rfl := Outcome.of_injective found
    have bounded := path.add_cost_le
    simp only [Stacks.cost, Stacks.start, List.map_cons, List.map_nil, List.sum_cons, List.sum_nil,
      Task.cost] at bounded
    exact ⟨n, last, by omega, path, halts⟩
  · intro n s path
    have served := path.served (Stacks.served_start e)
    refine ⟨path.outcome_eq.symm, served.not_starved, ?_⟩
    intro done
    rw [Stacks.Served, done] at served
    obtain ⟨value, values⟩ := List.length_eq_one_iff.mp (show s.values.length = 1 from served)
    refine ⟨value, values, ?_⟩
    have found : Outcome.of (.ok value) = .of e.value := by
      rw [← Stacks.outcome_start, path.outcome_eq, Stacks.outcome, done, values, Task.run_nil]
      rfl
    exact (Outcome.of_injective found).symm
  · exact ⟨.unsupportedNode .hole, hole.evaluate_eq, rfl, rfl⟩

end Expr

end Reckoner
