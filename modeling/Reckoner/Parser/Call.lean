import Reckoner.Parser.Descent

/-! # Calls on one cursor

The seven ways to use a cursor, as data, so that statements can range over every sequence of
calls. Each call starts from the cursor that the one before it left, whether that succeeded or
failed. How many levels of parentheses a call has room for on the stack is up to its caller.
-/

namespace Reckoner

inductive Call where
  | parse
  | expression
  | term
  | factor
  | advance
  | current
  | expect (wanted : Kind)
deriving DecidableEq, Repr

inductive Found where
  | tree (e : Expr)
  | token (t : Token)
deriving DecidableEq, Repr

/-- Turns what a reply found into something else. -/
def Reply.map {α β : Type} (f : α → β) (reply : Reply α) : Reply β :=
  ⟨reply.answer.map f, reply.cursor⟩

namespace Cursor

/-- The room of a call that is made near the bottom of a stack of a thousand frames. A level of
parentheses takes three of them, and the callers and the innermost operand take ten. -/
def usualRoom : Nat :=
  (1000 - 10) / 3

def call (c : Cursor) (call : Call) (room : Nat := usualRoom) : Reply Found :=
  match call with
  | .parse => c.parse.map .tree
  | .expression => (c.expression room).map .tree
  | .term => (c.term room).map .tree
  | .factor => (c.factor room).map .tree
  | .advance => c.advance.map .token
  | .current => c.current.map .token
  | .expect wanted => (c.expect wanted).map .token

def replies (c : Cursor) (calls : List Call) (room : Nat := usualRoom) : List (Reply Found) :=
  match calls with
  | [] => []
  | call :: rest => let reply := c.call call room; reply :: reply.cursor.replies rest room

def after (c : Cursor) (calls : List Call) (room : Nat := usualRoom) : Cursor :=
  calls.foldl (fun c call => (c.call call room).cursor) c

end Cursor

end Reckoner
