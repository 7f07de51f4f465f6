import Reckoner.Event
import Reckoner.Expr.Machine
import Reckoner.Parser.Descent

/-! # Calculating a line

A text is cut into tokens, the tokens are read as an expression, the expression is evaluated and
its value written out; the first step that fails decides the error. Every step leaves its events
in the trace, and the last event always tells the answer.
-/

namespace Reckoner

/-- A computation that records events until it succeeds or fails. -/
structure Traced (α : Type) where
  events : List Event
  answer : Except Error α

namespace Traced

protected def pure {α : Type} (a : α) : Traced α :=
  ⟨[], .ok a⟩

/-- Goes on from a success; the events of both parts stay, in order. -/
protected def bind {α β : Type} (first : Traced α) (next : α → Traced β) : Traced β :=
  match first.answer with
  | .ok a => ⟨first.events ++ (next a).events, (next a).answer⟩
  | .error e => ⟨first.events, .error e⟩

instance : Monad Traced where
  pure := Traced.pure
  bind := Traced.bind

def lift {α : Type} (answer : Except Error α) : Traced α :=
  ⟨[], answer⟩

def note (event : Event) : Traced Unit :=
  ⟨[event], .ok ()⟩

/-- The answers of two parts are chained as if nothing were recorded. -/
theorem answer_bind {α β : Type} (first : Traced α) (next : α → Traced β) :
    (first >>= next).answer = first.answer >>= fun a => (next a).answer := by
  change (Traced.bind first next).answer = _
  unfold Traced.bind
  cases first.answer <;> rfl

/-- The events of two parts follow each other, if the first part succeeds. -/
theorem events_bind {α β : Type} (first : Traced α) (next : α → Traced β) :
    (first >>= next).events =
      first.events ++ match first.answer with
        | .ok a => (next a).events
        | .error _ => [] := by
  change (Traced.bind first next).events = _
  unfold Traced.bind
  cases first.answer <;> simp

@[simp] theorem answer_lift {α : Type} (answer : Except Error α) : (lift answer).answer = answer :=
  rfl

@[simp] theorem events_lift {α : Type} (answer : Except Error α) : (lift answer).events = [] := rfl

@[simp] theorem answer_note (event : Event) : (note event).answer = .ok () := rfl

@[simp] theorem events_note (event : Event) : (note event).events = [event] := rfl

end Traced

def calculate (text : String) : Traced Int := do
  let stream ← .lift ((TokenStream.scan text).mapError .lexical)
  .note (.tokenized stream.size)
  let tree ← .lift (stream.parse.mapError .grammar)
  .note (.parsed tree)
  .lift (tree.evaluate.mapError .evaluation)

theorem answer_calculate (text : String) :
    (calculate text).answer = (do
      let stream ← (TokenStream.scan text).mapError Error.lexical
      let tree ← stream.parse.mapError .grammar
      tree.evaluate.mapError .evaluation) := by
  simp only [calculate, Traced.answer_bind, Traced.answer_lift, Traced.answer_note]
  rfl

def writeResult (value : Int) : Except Error String :=
  match Numeral.write? value with
  | some line => .ok line
  | none => .error .resultTooLong

/-- Calculates a text and writes out its value; the last event tells the answer. -/
def run (text : String) : Traced String :=
  let calculation : Traced String := do
    let value ← calculate text
    .lift (writeResult value)
  let last := match calculation.answer with
    | .ok line => Event.result line
    | .error error => .failed text error
  ⟨calculation.events ++ [last], calculation.answer⟩

/-- The answer to a text is its value, written out. -/
theorem answer_run (text : String) :
    (run text).answer = (calculate text).answer >>= writeResult := by
  simp only [run, Traced.answer_bind, Traced.answer_lift]

/-- The last event of a calculation tells its answer. -/
theorem getLast?_events_run (text : String) :
    (run text).events.getLast? =
      some (match (run text).answer with
        | .ok line => .result line
        | .error error => .failed text error) := by
  simp [run]

/-- Whether a calculation has a result. -/
def Traced.succeeded (calculation : Traced String) : Bool :=
  calculation.answer.isOk

/-- The line that answers a text: its value, or the kind of its error. -/
def Traced.line (calculation : Traced String) : String :=
  match calculation.answer with
  | .ok line => line
  | .error error => error.kind.name

end Reckoner
