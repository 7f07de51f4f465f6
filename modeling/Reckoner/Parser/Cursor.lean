import Reckoner.Expr

/-! # Cursors

A cursor stands before a token of a stream. It knows the lexemes ahead of it, the end mark that
closes them, how many tokens it has passed and how many parentheses it has entered and not left.
It passes lexemes one at a time and never passes the end mark.

A call on a cursor hands back an answer and the cursor as it then stands. When the call fails the
cursor stays where the fault was met: what was passed is not given back, and the parentheses
entered are not left.
-/

namespace Reckoner

def nestingLimit : Nat := 1000

/-- Why a call on a cursor fails. -/
inductive GrammarError where
  /-- The tokens do not end in an end mark. -/
  | unterminated
  /-- A token of one kind had to come, and another came. -/
  | mismatch (wanted : Kind) (found : Token)
  /-- The expression is complete, and a lexeme follows it. -/
  | trailing (found : Lexeme)
  /-- A parenthesis opens beyond the nesting limit. -/
  | tooDeep (found : Lexeme)
  /-- An operand had to come, and the stream ended. -/
  | endOfInput (found : EndMark)
  /-- An operand had to come, and another lexeme came. -/
  | operandExpected (found : Lexeme)
  /-- The stack has no room for one more parenthesis. -/
  | outOfStack
deriving DecidableEq, Repr

structure Cursor where
  /-- What lies ahead before the end mark. -/
  ahead : List Lexeme
  stop : EndMark
  /-- How many tokens have been passed. -/
  pos : Nat
  /-- How many parentheses have been entered and not left. -/
  depth : Nat
deriving DecidableEq, Repr

structure Reply (α : Type) where
  answer : Except GrammarError α
  cursor : Cursor

namespace Reply

/-- Goes on from a success; a failure stays as it is. -/
def andThen {α β : Type} (reply : Reply α) (next : α → Cursor → Reply β) : Reply β :=
  match reply with
  | ⟨.ok a, c⟩ => next a c
  | ⟨.error e, c⟩ => ⟨.error e, c⟩

@[simp] theorem andThen_ok {α β : Type} (a : α) (c : Cursor) (next : α → Cursor → Reply β) :
    (Reply.mk (.ok a) c).andThen next = next a c := rfl

@[simp] theorem andThen_error {α β : Type} (e : GrammarError) (c : Cursor)
    (next : α → Cursor → Reply β) :
    (Reply.mk (.error e) c).andThen next = ⟨.error e, c⟩ := rfl

end Reply

namespace Cursor

def start (stream : TokenStream) : Cursor :=
  ⟨stream.lexemes, stream.stop, 0, 0⟩

/-- The cursor at the beginning of the stream that a list of tokens holds. -/
def ofTokens (tokens : List Token) : Except GrammarError Cursor :=
  match TokenStream.ofTokens? tokens with
  | some stream => .ok (start stream)
  | none => .error .unterminated

/-- The token that the cursor stands before. -/
def token (c : Cursor) : Token :=
  match c.ahead with
  | [] => .stop c.stop
  | l :: _ => .lexeme l

/-- The cursor past one lexeme; at the end mark it stays. -/
def next (c : Cursor) : Cursor :=
  match c.ahead with
  | [] => c
  | _ :: rest => { c with ahead := rest, pos := c.pos + 1 }

/-- The cursor inside one more parenthesis. -/
def enter (c : Cursor) : Cursor :=
  { c with depth := c.depth + 1 }

/-- The cursor inside one parenthesis less. -/
def leave (c : Cursor) : Cursor :=
  { c with depth := c.depth - 1 }

/-- The token before which the cursor stands, without passing it. -/
def current (c : Cursor) : Reply Token :=
  ⟨.ok c.token, c⟩

def advance (c : Cursor) : Reply Token :=
  ⟨.ok c.token, c.next⟩

/-- Passes one token that has to be of the kind `wanted`. -/
def expect (wanted : Kind) (c : Cursor) : Reply Token :=
  if c.token.kind = wanted then c.advance else ⟨.error (.mismatch wanted c.token), c⟩

theorem next_of_cons {c : Cursor} {l : Lexeme} {rest : List Lexeme} (ahead : c.ahead = l :: rest) :
    c.next = ⟨rest, c.stop, c.pos + 1, c.depth⟩ := by
  simp [next, ahead]

theorem next_of_nil {c : Cursor} (ahead : c.ahead = []) : c.next = c := by
  simp [next, ahead]

theorem length_ahead_next (c : Cursor) : c.next.ahead.length = c.ahead.length - 1 := by
  unfold next
  split <;> simp_all

theorem length_ahead_expect_le (wanted : Kind) (c : Cursor) :
    (c.expect wanted).cursor.ahead.length ≤ c.ahead.length := by
  unfold expect advance
  split
  · simp only [length_ahead_next]
    omega
  · exact Nat.le_refl _

end Cursor

end Reckoner
