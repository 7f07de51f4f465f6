import Reckoner.Proofs.Reading

/-! # How far a parser looks

A parser sees the lexemes that it passes and the token at which it stops, and nothing behind that
token. So where the same lexemes lie ahead up to the same token, it gives the same answer and stops
at the same place, whether that is a success or a failure.

The parts of a parser are put together by `Reply.andThen`, and each part sees at least the token
before which it begins; so what the whole sees is what its parts see, one after the other.
-/

namespace Reckoner

namespace Cursor

/-- Seen from `c'`, the way to `d'` is the way from `c` to `d`: the same lexemes and then the same
token, and the same depths at both ends. -/
structure Mirrors (c d c' d' : Cursor) : Prop where
  passes : ∃ lexemes, c.Passes lexemes d ∧ c'.Passes lexemes d'
  entry : c'.depth = c.depth
  exit : d'.depth = d.depth
  token : d'.token = d.token

namespace Mirrors

variable {c d c' d' m : Cursor}

/-- Both ways begin before the same token. -/
theorem token_eq (mirrors : Mirrors c d c' d') : c'.token = c.token := by
  obtain ⟨⟨lexemes, passes, passes'⟩, -, -, same⟩ := mirrors
  cases lexemes with
  | nil =>
    have ahead : c.ahead = d.ahead := passes.ahead
    have ahead' : c'.ahead = d'.ahead := passes'.ahead
    unfold Cursor.token at same ⊢
    rw [ahead, ahead', ← passes.stop, ← passes'.stop, same]
  | cons l rest =>
    unfold Cursor.token
    rw [passes.ahead, passes'.ahead]
    rfl

theorem stay (mirrors : Mirrors c d c' d') (ahead : d.ahead = c.ahead) : c'.Passes [] d' := by
  obtain ⟨⟨lexemes, passes, passes'⟩, -, -, -⟩ := mirrors
  have none : lexemes = [] := by
    have length := congrArg List.length passes.ahead
    rw [ahead, List.length_append] at length
    exact List.length_eq_zero_iff.mp (by omega)
  rwa [none] at passes'

/-- Behind its first lexeme the way is mirrored from there. -/
theorem tail {l : Lexeme} {rest lexemes : List Lexeme} (mirrors : Mirrors c d c' d')
    (ahead : c.ahead = l :: rest) (further : c.next.Passes lexemes d) :
    Mirrors c.next d c'.next d' := by
  obtain ⟨⟨passed, passes, passes'⟩, entry, exit, token⟩ := mirrors
  have same : passed = l :: lexemes := by
    have first := (Passes.cons ahead further).ahead
    rw [passes.ahead] at first
    exact List.append_cancel_right first
  rw [same] at passes'
  refine ⟨⟨lexemes, further, passes'.tail⟩, ?_, exit, token⟩
  rw [depth_next, depth_next, entry]

/-- A way that leads through `m` is mirrored in two parts. -/
theorem split {front back : List Lexeme} (mirrors : Mirrors c d c' d') (before : c.Passes front m)
    (behind : m.Passes back d) : ∃ m', Mirrors c m c' m' ∧ Mirrors m d m' d' := by
  obtain ⟨⟨passed, passes, passes'⟩, entry, exit, token⟩ := mirrors
  have same : passed = front ++ back := by
    have whole := (before.trans behind).ahead
    rw [passes.ahead] at whole
    exact List.append_cancel_right whole
  rw [same] at passes'
  obtain ⟨m', before', behind', depth⟩ := passes'.split m.depth
  have second : Mirrors m d m' d' := ⟨⟨back, behind, behind'⟩, depth, exit, token⟩
  exact ⟨m', ⟨⟨front, before, before'⟩, entry, depth, second.token_eq⟩, second⟩

end Mirrors

/-- The token before a cursor tells the lexeme ahead, if there is one. -/
theorem head?_ahead_eq {c c' : Cursor} (same : c'.token = c.token) :
    c'.ahead.head? = c.ahead.head? := by
  unfold token at same
  rcases ahead : c.ahead with _ | ⟨l, rest⟩ <;> rcases ahead' : c'.ahead with _ | ⟨l', rest'⟩
  all_goals simp_all

/-- From `c` on, the reader sees only the lexemes that it passes and the token at which it
stops. -/
structure LocalAt {α : Type} (read : Cursor → Reply α) (c : Cursor) : Prop where
  passes : ∃ lexemes, c.Passes lexemes (read c).cursor
  mirror : ∀ c' d', Mirrors c (read c).cursor c' d' → read c' = ⟨(read c).answer, d'⟩

namespace LocalAt

variable {α β : Type} {read other : Cursor → Reply α} {c : Cursor}

/-- Only what a reader does before the same token, at the same depth, counts. -/
theorem congr (local' : LocalAt other c)
    (same : ∀ c', c'.token = c.token → c'.depth = c.depth → read c' = other c') :
    LocalAt read c := by
  have here : read c = other c := same c rfl rfl
  refine ⟨by rw [here]; exact local'.passes, ?_⟩
  intro c' d' mirrors
  rw [same c' mirrors.token_eq mirrors.entry, here]
  rw [here] at mirrors
  exact local'.mirror c' d' mirrors

theorem stay (answer : Except GrammarError α) (c : Cursor) : LocalAt (fun c => ⟨answer, c⟩) c := by
  refine ⟨⟨[], .refl c⟩, ?_⟩
  intro c' d' mirrors
  have same : c' = d' := (Passes.refl c').unique (mirrors.stay rfl) (by
    rw [mirrors.entry, mirrors.exit])
  rw [same]

theorem leave (answer : Except GrammarError α) (c : Cursor) :
    LocalAt (fun c => ⟨answer, c.leave⟩) c := by
  refine ⟨⟨[], rfl, rfl, rfl⟩, ?_⟩
  intro c' d' mirrors
  have left : c'.Passes [] c'.leave := ⟨rfl, rfl, rfl⟩
  have same : c'.leave = d' := left.unique (mirrors.stay rfl) (by
    rw [mirrors.exit, Cursor.leave, Cursor.leave, mirrors.entry])
  rw [same]

theorem next {l : Lexeme} {rest : List Lexeme} (ahead : c.ahead = l :: rest)
    (further : LocalAt read c.next) : LocalAt (fun c => read c.next) c := by
  obtain ⟨lexemes, passes⟩ := further.passes
  refine ⟨⟨l :: lexemes, .cons ahead passes⟩, ?_⟩
  intro c' d' mirrors
  exact further.mirror c'.next d' (mirrors.tail ahead passes)

theorem enter (further : LocalAt read c.enter) : LocalAt (fun c => read c.enter) c := by
  obtain ⟨lexemes, passes⟩ := further.passes
  refine ⟨⟨lexemes, passes.ahead, passes.stop, passes.pos⟩, ?_⟩
  intro c' d' mirrors
  obtain ⟨passed, passes, passes'⟩ := mirrors.passes
  apply further.mirror c'.enter d'
  refine ⟨⟨passed, ⟨passes.ahead, passes.stop, passes.pos⟩,
    ⟨passes'.ahead, passes'.stop, passes'.pos⟩⟩, ?_, mirrors.exit, mirrors.token⟩
  exact congrArg (· + 1) mirrors.entry

/-- Where the second reader takes over from the first, both together see what each of them sees. -/
theorem andThen {after : α → Cursor → Reply β} (first : LocalAt read c)
    (second : ∀ a, (read c).answer = .ok a → LocalAt (after a) (read c).cursor) :
    LocalAt (fun c => (read c).andThen after) c := by
  obtain ⟨front, before⟩ := first.passes
  rcases reply : read c with ⟨error | a, m⟩
  · rw [reply] at before
    refine ⟨by simpa only [reply] using ⟨front, before⟩, ?_⟩
    intro c' d' mirrors
    simp only [reply, Reply.andThen_error] at mirrors ⊢
    rw [first.mirror c' d' (by rwa [reply]), reply, Reply.andThen_error]
  · rw [reply] at before second
    obtain ⟨back, behind⟩ := (second a rfl).passes
    refine ⟨by simpa only [reply] using ⟨front ++ back, before.trans behind⟩, ?_⟩
    intro c' d' mirrors
    simp only [reply, Reply.andThen_ok] at mirrors ⊢
    obtain ⟨m', mirrors₁, mirrors₂⟩ := mirrors.split before behind
    rw [first.mirror c' m' (by rwa [reply]), reply, Reply.andThen_ok]
    exact (second a rfl).mirror m' d' mirrors₂

theorem current (c : Cursor) : LocalAt Cursor.current c := by
  refine congr (stay (.ok c.token) c) ?_
  intro c' same _
  rw [Cursor.current, same]

theorem advance (c : Cursor) : LocalAt Cursor.advance c := by
  cases ahead : c.ahead with
  | nil =>
    refine congr (current c) ?_
    intro c' same _
    have ended : c'.ahead = [] := by
      rw [← List.head?_eq_none_iff, head?_ahead_eq same, ahead, List.head?_nil]
    rw [Cursor.advance, Cursor.current, next_of_nil ended]
  | cons l rest =>
    refine congr (next ahead (stay (.ok c.token) c.next)) ?_
    intro c' same _
    rw [Cursor.advance, same]

theorem expect (wanted : Kind) (c : Cursor) : LocalAt (Cursor.expect wanted) c := by
  by_cases found : c.token.kind = wanted
  · refine congr (advance c) ?_
    intro c' same _
    rw [Cursor.expect, same, if_pos found]
  · refine congr (stay (.error (.mismatch wanted c.token)) c) ?_
    intro c' same _
    rw [Cursor.expect, same, if_neg found]

end LocalAt

end Cursor

namespace Parser

open Cursor (LocalAt)

/-- From wherever it begins, the parser sees only what it passes and where it stops. -/
def Local (parser : Parser) : Prop :=
  ∀ c, LocalAt parser.run c

variable {operand : Parser} {level : Lexeme → Option Operator}

/-- Before an operator of its level, a loop sees the operand behind it and what it sees from there
on. -/
theorem localAt_link (sees : operand.Local) {c : Cursor} {op : Operator}
    (goesOn : c.ahead.head?.bind level = some op) (left : Expr)
    (further : ∀ right, (operand.run c.next).answer = .ok right →
      LocalAt (chainFrom operand level (.binary op left right)) (operand.run c.next).cursor) :
    LocalAt (chainFrom operand level left) c := by
  obtain ⟨l, rest, ahead, -⟩ := exists_operator goesOn
  refine .congr (.andThen (.next ahead (sees c.next)) further) ?_
  intro c' same _
  apply chainFrom_of_some
  rwa [Cursor.head?_ahead_eq same]

theorem localAt_chainFrom (sees : operand.Local) (left : Expr) (c : Cursor) :
    LocalAt (chainFrom operand level left) c := by
  -- Along the run of the loop from `c` itself; its mirrors then go round just as often.
  induction left, c using chainFrom.induct operand level with
  | case1 left c stops =>
    refine .congr (.stay (.ok left) c) ?_
    intro c' same _
    apply chainFrom_of_none
    rwa [Cursor.head?_ahead_eq same]
  | case2 left c op goesOn right m reply ih =>
    apply localAt_link sees goesOn
    intro other answer
    rw [reply] at answer ⊢
    cases answer
    exact ih
  | case3 left c op goesOn error m reply =>
    apply localAt_link sees goesOn
    intro right answer
    rw [reply] at answer
    cases answer

theorem Local.chain (sees : operand.Local) : (chain operand level).Local :=
  fun c => .andThen (sees c) fun left _ => localAt_chainFrom sees left _

/-- No operand begins with a lexeme that is neither a number nor an opening parenthesis. -/
theorem operand_eq_expected {inner : Option Parser} {c : Cursor} {l : Lexeme}
    (found : c.token = .lexeme l) (number : l.kind ≠ .number) (opening : l.kind ≠ .mark .opening) :
    (Parser.operand inner).run c = ⟨.error (.operandExpected l), c⟩ := by
  simp only [Parser.operand, found]
  match l with
  | .number .. => exact absurd rfl number
  | .mark .opening .. => exact absurd rfl opening
  | .mark .plus .. | .mark .minus .. | .mark .star .. | .mark .slash .. | .mark .closing ..
  | .mark (.other _) .. => rfl

/-- An operand sees its first token, and what lies between its parentheses. -/
theorem local_operand {inner : Option Parser}
    (within : ∀ parser, inner = some parser → parser.Local) : (Parser.operand inner).Local := by
  intro c
  rcases ahead : c.ahead with _ | ⟨⟨value, pos⟩ | ⟨mark, spelling, pos⟩, rest⟩
  · have found : c.token = .stop c.stop := by rw [Cursor.token, ahead]
    refine .congr (.stay (.error (.endOfInput c.stop)) c) ?_
    intro c' same _
    simp only [Parser.operand, same, found]
  · have found : c.token = .lexeme (.number value pos) := by rw [Cursor.token, ahead]
    refine .congr (.next ahead (.stay (.ok (.literal value)) c.next)) ?_
    intro c' same _
    simp only [Parser.operand, same, found]
  · have found : c.token = .lexeme (.mark mark spelling pos) := by rw [Cursor.token, ahead]
    by_cases opens : mark = .opening
    · subst opens
      cases inner with
      | none =>
        refine .congr (.stay (.error (.tooDeep (.mark .opening spelling pos))) c) ?_
        intro c' same _
        simp only [Parser.operand, same, found]
      | some parser =>
        have inside := within parser rfl
        refine .congr (.andThen (.next ahead (.enter (inside c.next.enter))) fun e _ =>
          .andThen (.expect (.mark .closing) _) fun _ _ => .leave (.ok e) _) ?_
        intro c' same _
        simp only [Parser.operand, same, found]
    · refine .congr (.stay (.error (.operandExpected (.mark mark spelling pos))) c) ?_
      intro c' same _
      exact operand_eq_expected (same.trans found) (by simp [Lexeme.kind])
        (by simpa [Lexeme.kind] using opens)

theorem local_ofRank (rank : Rank) (bottom : Bottom) (levels : Nat) :
    (ofRank rank bottom levels).Local := by
  have factor : (factor bottom levels).Local := by
    induction levels with
    | zero =>
      apply local_operand
      intro parser given
      cases bottom with
      | limit => cases given
      | stack =>
        cases given
        exact .stay (.error .outOfStack)
    | succ levels ih =>
      apply local_operand
      rintro parser ⟨⟩
      exact ih.chain.chain
  cases rank with
  | factor => exact factor
  | term => exact factor.chain
  | expression => exact factor.chain.chain

end Parser

namespace Cursor

theorem localAt_ofRank (rank : Rank) (room : Nat) (c : Cursor) :
    LocalAt (fun c => (Parser.ofRank rank (c.bottom room) (min c.levels room)).run c) c := by
  refine .congr (Parser.local_ofRank rank (c.bottom room) (min c.levels room) c) ?_
  intro c' _ depth
  have left : c'.levels = c.levels := by rw [levels, levels, depth]
  simp only [bottom, left]

theorem localAt_parse (c : Cursor) : LocalAt parse c := by
  have expression : LocalAt (·.expression nestingLimit) c :=
    localAt_ofRank .expression nestingLimit c
  refine expression.andThen ?_
  intro e _
  cases found : (c.expression nestingLimit).cursor.token with
  | stop stop =>
    refine .congr (.stay (.ok e) _) ?_
    intro c' same _
    simp only [same, found]
  | lexeme l =>
    refine .congr (.stay (.error (.trailing l)) _) ?_
    intro c' same _
    simp only [same, found]

end Cursor

end Reckoner
