import Reckoner.Grammar
import Reckoner.Parser.Cursor

/-! # Reading expressions by descent

An expression is a chain of terms between `+` and `-`, and a term is a chain of factors between `*`
and `/`. There are no unary operators, and parentheses nest at most `nestingLimit` deep.

A parser gives no lexeme back, which is what lets a chain of operands end. Factors are built by
recursion on the levels of parentheses that may still be entered; within one level the two kinds
of chain are the same loop with different operators.

Every level needs some of the stack on which the calls of the descent stand. A whole parse makes
room for all levels that the limit allows. Any other call has the room that its caller leaves it,
and fails inside the first parenthesis that is too much.
-/

namespace Reckoner

/-- A way to read an expression that gives no lexeme back. -/
structure Parser where
  run : Cursor → Reply Expr
  length_ahead_le : ∀ c, (run c).cursor.ahead.length ≤ c.ahead.length

namespace Parser

/-- Reads on after the operand `left` for as long as an operator of the level comes. -/
def chainFrom (operand : Parser) (level : Lexeme → Option Operator) (left : Expr) (c : Cursor) :
    Reply Expr :=
  match _operator : c.ahead.head?.bind level with
  | none => ⟨.ok left, c⟩
  | some op =>
    match _reply : operand.run c.next with
    | ⟨.ok right, c'⟩ => chainFrom operand level (.binary op left right) c'
    | ⟨.error e, c'⟩ => ⟨.error e, c'⟩
termination_by c.ahead.length
decreasing_by
  have shorter := operand.length_ahead_le c.next
  rw [_reply, Cursor.length_ahead_next] at shorter
  have nonempty : c.ahead ≠ [] := by rintro empty; simp [empty] at _operator
  have positive := List.length_pos_iff.mpr nonempty
  simp only at shorter
  omega

/-- A chain ends before a token that is no operator of its level. -/
theorem chainFrom_of_none {operand : Parser} {level : Lexeme → Option Operator} {c : Cursor}
    (stops : c.ahead.head?.bind level = none) (left : Expr) :
    chainFrom operand level left c = ⟨.ok left, c⟩ := by
  rw [chainFrom]
  split
  · rfl
  · simp_all

/-- A chain goes on after an operator of its level with the operand that follows. -/
theorem chainFrom_of_some {operand : Parser} {level : Lexeme → Option Operator} {c : Cursor}
    {op : Operator} (goesOn : c.ahead.head?.bind level = some op) (left : Expr) :
    chainFrom operand level left c =
      (operand.run c.next).andThen fun right =>
        chainFrom operand level (.binary op left right) := by
  rw [chainFrom]
  split
  · simp_all
  · rename_i op' found
    obtain rfl : op' = op := by simpa [found] using goesOn
    split <;> rename_i reply <;> rw [reply] <;> rfl

theorem length_ahead_chainFrom_le (operand : Parser) (level : Lexeme → Option Operator)
    (left : Expr) (c : Cursor) :
    (chainFrom operand level left c).cursor.ahead.length ≤ c.ahead.length := by
  fun_induction chainFrom operand level left c with
  | case1 => exact Nat.le_refl _
  | case2 left c op operator right c' reply ih =>
    have shorter := operand.length_ahead_le c.next
    rw [reply, Cursor.length_ahead_next] at shorter
    simp only at shorter
    omega
  | case3 left c op operator e c' reply =>
    have shorter := operand.length_ahead_le c.next
    rw [reply, Cursor.length_ahead_next] at shorter
    simp only at shorter ⊢
    omega

/-- One operand and then more of them, between operators of one level. -/
def chain (operand : Parser) (level : Lexeme → Option Operator) : Parser where
  run c := (operand.run c).andThen (chainFrom operand level)
  length_ahead_le c := by
    have first := operand.length_ahead_le c
    match reply : operand.run c with
    | ⟨.error e, c'⟩ => rw [reply] at first; exact first
    | ⟨.ok left, c'⟩ =>
      rw [reply] at first
      exact Nat.le_trans (length_ahead_chainFrom_le ..) first

/-- A number, or what `inner` reads between parentheses. Without `inner` no parenthesis may open. -/
def operand (inner : Option Parser) : Parser where
  run c :=
    match c.token with
    | .stop e => ⟨.error (.endOfInput e), c⟩
    | .lexeme (.number value _) => ⟨.ok (.literal value), c.next⟩
    | .lexeme l@(.mark .opening ..) =>
      match inner with
      | none => ⟨.error (.tooDeep l), c⟩
      | some inner =>
        (inner.run c.next.enter).andThen fun e c =>
          (c.expect (.mark .closing)).andThen fun _ c => ⟨.ok e, c.leave⟩
    | .lexeme l => ⟨.error (.operandExpected l), c⟩
  length_ahead_le c := by
    have next := Cursor.length_ahead_next c
    split
    · exact Nat.le_refl _
    · simp only
      omega
    · split
      · exact Nat.le_refl _
      · rename_i inner
        have within := inner.length_ahead_le c.next.enter
        match reply : inner.run c.next.enter with
        | ⟨.error e, c'⟩ =>
          rw [reply] at within
          simp only [Reply.andThen_error, Cursor.enter] at within ⊢
          omega
        | ⟨.ok e, c'⟩ =>
          rw [reply] at within
          have closed := Cursor.length_ahead_expect_le (.mark .closing) c'
          match closing : c'.expect (.mark .closing) with
          | ⟨.error e', c''⟩ =>
            rw [closing] at closed
            simp only [Reply.andThen_ok, closing, Reply.andThen_error, Cursor.enter]
              at within closed ⊢
            omega
          | ⟨.ok t, c''⟩ =>
            rw [closing] at closed
            simp only [Reply.andThen_ok, closing, Cursor.enter, Cursor.leave] at within closed ⊢
            omega
    · exact Nat.le_refl _

/-- The parser that has no stack left to read on. -/
def exhausted : Parser where
  run c := ⟨.error .outOfStack, c⟩
  length_ahead_le _ := Nat.le_refl _

/-- What is met below the deepest level of parentheses that can be read. -/
inductive Bottom where
  /-- The limit on nesting: no further parenthesis may open. -/
  | limit
  /-- The end of the stack: a further parenthesis may open, but nothing be read in it. -/
  | stack
deriving DecidableEq, Repr

/-- What reads between the parentheses below the deepest level. -/
def Bottom.inner : Bottom → Option Parser
  | .limit => none
  | .stack => some exhausted

/-- Reads a factor in which parentheses nest at most `levels` deep. -/
def factor (bottom : Bottom) : (levels : Nat) → Parser
  | 0 => operand bottom.inner
  | levels + 1 =>
    operand (some (chain (chain (factor bottom levels) Lexeme.multiplicative?) Lexeme.additive?))

def term (bottom : Bottom) (levels : Nat) : Parser :=
  chain (factor bottom levels) Lexeme.multiplicative?

def expression (bottom : Bottom) (levels : Nat) : Parser :=
  chain (term bottom levels) Lexeme.additive?

end Parser

namespace Cursor

/-- The levels of parentheses that may still be entered. -/
def levels (c : Cursor) : Nat :=
  nestingLimit - c.depth

/-- What a call meets first that has room on the stack for `room` levels of parentheses. -/
def bottom (c : Cursor) (room : Nat) : Parser.Bottom :=
  if room < c.levels then .stack else .limit

def factor (c : Cursor) (room : Nat) : Reply Expr :=
  (Parser.factor (c.bottom room) (min c.levels room)).run c

def term (c : Cursor) (room : Nat) : Reply Expr :=
  (Parser.term (c.bottom room) (min c.levels room)).run c

def expression (c : Cursor) (room : Nat) : Reply Expr :=
  (Parser.expression (c.bottom room) (min c.levels room)).run c

/-- Reads an expression that has to reach to the end mark, and makes room for it. -/
def parse (c : Cursor) : Reply Expr :=
  (c.expression nestingLimit).andThen fun e c =>
    match c.token with
    | .stop _ => ⟨.ok e, c⟩
    | .lexeme l => ⟨.error (.trailing l), c⟩

end Cursor

def TokenStream.parse (stream : TokenStream) : Except GrammarError Expr :=
  (Cursor.start stream).parse.answer

def parseTokens (tokens : List Token) : Except GrammarError Expr := do
  let c ← Cursor.ofTokens tokens
  c.parse.answer

end Reckoner
