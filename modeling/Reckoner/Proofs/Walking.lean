import Mathlib.Logic.Relation
import Reckoner.Parser.Call
import Reckoner.Proofs.Calls
import Reckoner.Proofs.Nesting

/-! # Where calls take a cursor

A call that reads goes forward one lexeme at a time: past a lexeme that is no parenthesis, into a
parenthesis as long as there is room, out of one that it has entered itself. That holds whether it
returns or fails, so what every step keeps is kept by every call and by every sequence of calls,
also when the sequence goes on from where a failure left the cursor.
-/

namespace Reckoner

namespace Cursor

/-- One step of a cursor that reads. It leaves no parenthesis that was entered at a depth of
`floor` or less. -/
inductive Step (floor : Nat) (c : Cursor) : Cursor → Prop where
  | pass {l : Lexeme} {rest : List Lexeme} (ahead : c.ahead = l :: rest)
      (plain : l.parenthesis? = none) : Step floor c c.next
  | enter {l : Lexeme} {rest : List Lexeme} (ahead : c.ahead = l :: rest)
      (opens : l.kind = .mark .opening) (room : c.depth < nestingLimit) : Step floor c c.next.enter
  | leave {l : Lexeme} {rest : List Lexeme} (ahead : c.ahead = l :: rest)
      (closes : l.kind = .mark .closing) (inside : floor < c.depth) : Step floor c c.next.leave

def Walks (floor : Nat) : Cursor → Cursor → Prop :=
  Relation.ReflTransGen (Step floor)

variable {floor : Nat} {c d : Cursor}

@[simp] theorem depth_enter_next (c : Cursor) : c.next.enter.depth = c.depth + 1 :=
  congrArg (· + 1) c.depth_next

@[simp] theorem depth_leave_next (c : Cursor) : c.next.leave.depth = c.depth - 1 :=
  congrArg (· - 1) c.depth_next

namespace Step

theorem passes (step : c.Step floor d) : ∃ l, c.Passes [l] d := by
  have next {l : Lexeme} {rest : List Lexeme} (ahead : c.ahead = l :: rest) :
      c.Passes [l] c.next := .cons ahead (.refl _)
  cases step with
  | @pass l _ ahead => exact ⟨l, next ahead⟩
  | @enter l _ ahead | @leave l _ ahead =>
    exact ⟨l, (next ahead).ahead, (next ahead).stop, (next ahead).pos⟩

theorem floor_le (step : c.Step floor d) (above : floor ≤ c.depth) : floor ≤ d.depth := by
  cases step with
  | pass => rwa [depth_next]
  | enter =>
    rw [depth_enter_next]
    exact Nat.le_succ_of_le above
  | leave _ _ inside =>
    rw [depth_leave_next]
    exact Nat.le_sub_one_of_lt inside

theorem depth_le (step : c.Step floor d) (within : c.depth ≤ nestingLimit) :
    d.depth ≤ nestingLimit := by
  cases step with
  | pass => rwa [depth_next]
  | enter _ _ room =>
    rw [depth_enter_next]
    exact room
  | leave =>
    rw [depth_leave_next]
    exact (Nat.sub_le ..).trans within

end Step

namespace Walks

theorem passes (walks : Walks floor c d) : ∃ lexemes, c.Passes lexemes d := by
  induction walks with
  | refl => exact ⟨[], .refl c⟩
  | tail _ step ih =>
    obtain ⟨lexemes, before⟩ := ih
    obtain ⟨l, last⟩ := step.passes
    exact ⟨lexemes ++ [l], before.trans last⟩

theorem floor_le (walks : Walks floor c d) (above : floor ≤ c.depth) : floor ≤ d.depth := by
  induction walks with
  | refl => exact above
  | tail _ step ih => exact step.floor_le ih

theorem depth_le (walks : Walks floor c d) (within : c.depth ≤ nestingLimit) :
    d.depth ≤ nestingLimit := by
  induction walks with
  | refl => exact within
  | tail _ step ih => exact step.depth_le ih

end Walks

end Cursor

namespace Parser

/-- With this many levels left, the parser goes forward by steps, whether it returns or fails. -/
def Walking (parser : Parser) (levels : Nat) : Prop :=
  ∀ floor c, floor ≤ c.depth → c.depth + levels ≤ nestingLimit →
    Cursor.Walks floor c (parser.run c).cursor

/-- A parser that returns is at the depth where it began. -/
def Returning (parser : Parser) : Prop :=
  ∀ c e d, parser.run c = ⟨.ok e, d⟩ → d.depth = c.depth

theorem returning_ofRank (rank : Rank) (bottom : Bottom) (levels : Nat) :
    (ofRank rank bottom levels).Returning := by
  intro c e d reply
  obtain ⟨lexemes, -, depth, -⟩ := (run_ofRank_eq_ok_iff rank).mp reply
  exact depth

variable {levels : Nat} {operand : Parser} {level : Lexeme → Option Operator}

/-- The loop of a chain walks when its operands do, since operators are no parentheses. -/
theorem Walking.chainFrom (walking : operand.Walking levels) (returning : operand.Returning)
    (operators : ∀ l op, level l = some op → l.parenthesis? = none) {floor : Nat} {c : Cursor}
    (above : floor ≤ c.depth) (room : c.depth + levels ≤ nestingLimit) (left : Expr) :
    Cursor.Walks floor c (chainFrom operand level left c).cursor := by
  have step {c : Cursor} {op : Operator} (goesOn : c.ahead.head?.bind level = some op) :
      c.Step floor c.next := by
    obtain ⟨l, rest, ahead, operator⟩ := exists_operator goesOn
    exact .pass ahead (operators l op operator)
  fun_induction Parser.chainFrom operand level left c with
  | case1 left c stops => exact .refl
  | case2 left c op goesOn right m reply ih =>
    rw [← c.depth_next] at above room
    have read := walking floor c.next above room
    rw [reply] at read
    have depth := returning c.next right m reply
    rw [← depth] at above room
    exact .head (step goesOn) (read.trans (ih above room))
  | case3 left c op goesOn error m reply =>
    rw [← c.depth_next] at above room
    have read := walking floor c.next above room
    rw [reply] at read
    exact .head (step goesOn) read

theorem Walking.chain (walking : operand.Walking levels) (returning : operand.Returning)
    (operators : ∀ l op, level l = some op → l.parenthesis? = none) :
    (chain operand level).Walking levels := by
  intro floor c above room
  have read := walking floor c above room
  simp only [Parser.chain]
  rcases reply : operand.run c with ⟨error | left, m⟩
  · rw [reply] at read
    exact read
  · rw [reply] at read
    rw [← returning c left m reply] at above room
    exact read.trans (walking.chainFrom returning operators above room left)

/-- An operand walks when what is read between its parentheses does, with one level less. -/
theorem walking_operand {inner : Option Parser}
    (within : ∀ parser, inner = some parser → ∃ deeper, levels = deeper + 1 ∧
      parser.Walking deeper ∧ parser.Returning) : (Parser.operand inner).Walking levels := by
  intro floor c above room
  simp only [Parser.operand]
  rcases ahead : c.ahead with _ | ⟨⟨value, pos⟩ | ⟨mark, spelling, pos⟩, rest⟩
  · simp only [Cursor.token, ahead]
    exact .refl
  · simp only [Cursor.token, ahead]
    exact .single (.pass ahead rfl)
  · cases mark with
    | opening =>
      cases inner with
      | none =>
        simp only [Cursor.token, ahead]
        exact .refl
      | some parser =>
        obtain ⟨deeper, rfl, walking, returning⟩ := within parser rfl
        have entered : c.Step floor c.next.enter := .enter ahead rfl (by omega)
        have read := walking floor c.next.enter (by rw [Cursor.depth_enter_next]; omega)
          (by rw [Cursor.depth_enter_next]; omega)
        simp only [Cursor.token, ahead]
        rcases reply : parser.run c.next.enter with ⟨error | e, m⟩
        · rw [reply] at read
          exact .head entered read
        · rw [reply] at read
          rw [Reply.andThen_ok, Cursor.expect]
          split
          · next closes =>
            have depth : m.depth = c.depth + 1 :=
              (returning _ e m reply).trans c.depth_enter_next
            obtain ⟨back, rest', behind, closing⟩ := exists_closing closes
            have left : m.Step floor m.next.leave := .leave behind closing (by omega)
            exact .head entered (read.tail left)
          · exact .head entered read
    | plus | minus | star | slash | closing | other =>
      simp only [Cursor.token, ahead]
      exact .refl

/-- How many parentheses can be entered below the deepest level. -/
def Bottom.enterable : Bottom → Nat
  | .limit => 0
  | .stack => 1

theorem walking_ofRank (rank : Rank) (bottom : Bottom) (levels : Nat) :
    (ofRank rank bottom levels).Walking (levels + bottom.enterable) := by
  have term {levels more : Nat} (walking : (factor bottom levels).Walking more) :
      (term bottom levels).Walking more :=
    walking.chain (returning_ofRank .factor bottom levels) fun _ _ operator =>
      Lexeme.parenthesis?_of_operator (.inl operator)
  have expression {levels more : Nat} (walking : (factor bottom levels).Walking more) :
      (expression bottom levels).Walking more :=
    (term walking).chain (returning_ofRank .term bottom levels) fun _ _ operator =>
      Lexeme.parenthesis?_of_operator (.inr operator)
  have factor : (factor bottom levels).Walking (levels + bottom.enterable) := by
    induction levels with
    | zero =>
      apply walking_operand
      intro parser given
      cases bottom with
      | limit => cases given
      | stack =>
        cases given
        exact ⟨0, rfl, fun _ _ _ _ => .refl, nofun⟩
    | succ levels ih =>
      apply walking_operand
      rintro parser ⟨⟩
      exact ⟨levels + bottom.enterable, Nat.succ_add .., expression ih,
        returning_ofRank .expression bottom levels⟩
  cases rank with
  | factor => exact factor
  | term => exact term factor
  | expression => exact expression factor

end Parser

end Reckoner
