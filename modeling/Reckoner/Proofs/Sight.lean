import Reckoner.Proofs.Sequences
import Reckoner.Proofs.States

/-! # What a call sees

A call sees the tokens from where the parser stands to the one at which the call stops, and no
others. So in every list that has the same tokens there the call is answered in the same way and
leaves the parser in the same state, however the lists go on and however long they are. Since a
call never goes back, that passes from one call to any sequence of them, also past calls that fail.
-/

namespace Reckoner

/-- What a caller learns from a reply: the answer, and where the parser then stands. -/
def Reply.report {α : Type} (reply : Reply α) : Except GrammarError α × Nat × Nat :=
  (reply.answer, reply.cursor.pos, reply.cursor.depth)

/-- Both lists have the same tokens from one index to another, which is included. -/
def AgreeOn (tokens others : List Token) (p q : Nat) : Prop :=
  ∀ i, p ≤ i → i ≤ q → others[i]? = tokens[i]?

theorem AgreeOn.mono {tokens others : List Token} {p p' q q' : Nat}
    (agree : AgreeOn tokens others p q) (later : p ≤ p') (before : q' ≤ q) :
    AgreeOn tokens others p' q' :=
  fun i from_le le_to => agree i (later.trans from_le) (le_to.trans before)

namespace Cursor

/-- What becomes of an answer has no bearing on what is seen. -/
theorem LocalAt.map {α β : Type} {read : Cursor → Reply α} {c : Cursor} (f : α → β)
    (local' : LocalAt read c) : LocalAt (fun c => (read c).map f) c := by
  refine ⟨local'.passes, ?_⟩
  intro c' d' mirrors
  rw [local'.mirror c' d' mirrors]
  rfl

theorem localAt_call (call : Call) (room : Nat) (c : Cursor) :
    LocalAt (fun c => c.call call room) c := by
  cases call with
  | parse => exact (localAt_parse c).map Found.tree
  | expression => exact (localAt_ofRank .expression room c).map Found.tree
  | term => exact (localAt_ofRank .term room c).map Found.tree
  | factor => exact (localAt_ofRank .factor room c).map Found.tree
  | advance => exact (LocalAt.advance c).map Found.token
  | current => exact (LocalAt.current c).map Found.token
  | expect wanted => exact (LocalAt.expect wanted c).map Found.token

namespace IsAt

variable {c c' : Cursor} {tokens others : List Token} {index depth : Nat}

theorem call (stands : c.IsAt tokens index depth) (call : Call) (room : Nat) :
    let d := (c.call call room).cursor
    d.IsAt tokens d.pos d.depth ∧ index ≤ d.pos := by
  obtain ⟨lexemes, passes⟩ := (localAt_call call room c).passes
  refine ⟨(stands.of_passes passes).1, ?_⟩
  rw [← stands.pos, passes.pos]
  exact Nat.le_add_right ..

theorem after (stands : c.IsAt tokens index depth) (calls : List Call) (room : Nat) :
    let d := c.after calls room
    d.IsAt tokens d.pos d.depth ∧ index ≤ d.pos := by
  induction calls generalizing c index depth with
  | nil =>
    obtain rfl := stands.pos
    obtain rfl := stands.depth
    exact ⟨stands, Nat.le_refl _⟩
  | cons call calls ih =>
    obtain ⟨standing, forward⟩ := stands.call call room
    obtain ⟨ends, further⟩ := ih standing
    exact ⟨ends, forward.trans further⟩

theorem report_call (stands : c.IsAt tokens index depth) (stands' : c'.IsAt others index depth)
    (call : Call) (room : Nat)
    (agree : AgreeOn tokens others index (c.call call room).cursor.pos) :
    let d := (c.call call room).cursor
    (c'.call call room).cursor.IsAt others d.pos d.depth ∧
      (c'.call call room).report = (c.call call room).report := by
  obtain ⟨lexemes, passes⟩ := (localAt_call call room c).passes
  obtain ⟨d', standing, mirrors⟩ := stands.exists_mirrors stands' passes agree
  rw [(localAt_call call room c).mirror c' d' mirrors]
  refine ⟨standing, ?_⟩
  rw [Reply.report, Reply.report, standing.pos, standing.depth]

/-- So is a sequence of calls: each of them sees no further than the last one ends. -/
theorem report_replies (stands : c.IsAt tokens index depth) (stands' : c'.IsAt others index depth)
    (calls : List Call) (room : Nat)
    (agree : AgreeOn tokens others index (c.after calls room).pos) :
    (c'.replies calls room).map Reply.report = (c.replies calls room).map Reply.report := by
  induction calls generalizing c c' index depth with
  | nil => rfl
  | cons call calls ih =>
    obtain ⟨standing, forward⟩ := stands.call call room
    have further := (standing.after calls room).2
    obtain ⟨standing', same⟩ :=
      stands.report_call stands' call room (agree.mono (Nat.le_refl _) further)
    have rest := ih standing standing' (agree.mono forward (Nat.le_refl _))
    exact congrArg₂ List.cons same rest

end IsAt

/-- A whole parse from the beginning of a list ends at its first end mark or before. -/
theorem pos_parse_le {tokens : List Token} {last : EndMark}
    (closed : tokens.getLast? = some (.stop last)) {start : Cursor}
    (started : ofTokens tokens = .ok start) : start.parse.cursor.pos ≤ firstStop tokens := by
  obtain ⟨stream, opens, started'⟩ := TokenStream.exists_start closed
  rw [started] at started'
  cases started'
  exact (opens.standsIn (leadsTo_call (Nat.zero_le _) .parse nestingLimit)).pos_le

end Cursor

/-- From wherever a parser stands, a call sees the tokens up to the one at which it stops, whether
it returns or fails there: in every other list that agrees on them the same call is answered in the
same way, and stops at the same index and depth, given the same room on the stack. So it is with a
sequence of calls. And a whole parse never sees what comes behind the first end mark. -/
theorem calls_see_no_further {tokens others : List Token} {last last' : EndMark}
    (closed : tokens.getLast? = some (.stop last))
    (closed' : others.getLast? = some (.stop last')) :
    (∃ start, Cursor.ofTokens tokens = .ok start ∧ start.IsAt tokens 0 0) ∧
      (∀ index depth, index < tokens.length → ∃ c : Cursor, c.IsAt tokens index depth) ∧
      (∀ (c : Cursor) index depth, c.IsAt tokens index depth →
        (∀ call room,
          let d := (c.call call room).cursor
          d.IsAt tokens d.pos d.depth ∧ index ≤ d.pos ∧
            (AgreeOn tokens others index d.pos →
              (∃ c' : Cursor, c'.IsAt others index depth) ∧
                ∀ c' : Cursor, c'.IsAt others index depth →
                  (c'.call call room).cursor.IsAt others d.pos d.depth ∧
                    (c'.call call room).report = (c.call call room).report)) ∧
        ∀ calls room (c' : Cursor), c'.IsAt others index depth →
          AgreeOn tokens others index (c.after calls room).pos →
            (c'.replies calls room).map Reply.report = (c.replies calls room).map Reply.report) ∧
      (others.take (firstStop tokens + 1) = tokens.take (firstStop tokens + 1) →
        parseTokens others = parseTokens tokens) := by
  refine ⟨Cursor.exists_start_isAt closed, fun _ depth inside =>
    Cursor.exists_isAt closed inside depth, ?_, ?_⟩
  · intro c index depth stands
    refine ⟨?_, fun calls room c' stands' => stands.report_replies stands' calls room⟩
    intro call room d
    obtain ⟨standing, forward⟩ := stands.call call room
    refine ⟨standing, forward, ?_⟩
    intro agree
    have inside : index < others.length := by
      have first := agree index (Nat.le_refl _) forward
      rw [stands.getElem?_eq] at first
      exact (List.getElem?_eq_some_iff.mp first).1
    exact ⟨Cursor.exists_isAt closed' inside depth,
      fun c' stands' => stands.report_call stands' call room agree⟩
  · intro same
    obtain ⟨start, started, stands⟩ := Cursor.exists_start_isAt closed
    obtain ⟨start', started', stands'⟩ := Cursor.exists_start_isAt closed'
    have ends := Cursor.pos_parse_le closed started
    have agree : AgreeOn tokens others 0 start.parse.cursor.pos := by
      intro i _ before
      have taken := congrArg (·[i]?) same
      simpa only [List.getElem?_take, if_pos (Nat.lt_succ_of_le (before.trans ends))] using taken
    obtain ⟨lexemes, passes⟩ := (Cursor.localAt_parse start).passes
    obtain ⟨d', -, mirrors⟩ := stands.exists_mirrors stands' passes agree
    rw [parseTokens_of_start started, parseTokens_of_start started',
      (Cursor.localAt_parse start).mirror start' d' mirrors]

/-- `(1+)` before an end mark. -/
private def shortGroup : List Token :=
  [.lexeme (.mark .opening (some "(") 0), .lexeme (.number 1 1), .lexeme (.mark .plus (some "+") 2),
    .lexeme (.mark .closing (some ")") 3), .stop ⟨none, 4⟩]

/-- Where `(1+)` breaks off within its parentheses, so does every list that begins with it, and a
second call goes on alike from there. -/
theorem calls_see_no_further_in_group :
    let longer := shortGroup.take 4 ++ [.lexeme (.number 7 4), .stop ⟨some "$", 5⟩]
    shortGroup.getLast? = some (.stop ⟨none, 4⟩) ∧
      longer.getLast? = some (.stop ⟨some "$", 5⟩) ∧ AgreeOn shortGroup longer 0 3 ∧
      ∃ c, Cursor.ofTokens shortGroup = .ok c ∧ ∃ c' : Cursor, c'.IsAt longer 0 0 ∧
        (c'.call .expression 5).report =
          (.error (.operandExpected (.mark .closing (some ")") 3)), 3, 1) ∧
        (c'.replies [.expression, .term] 5).map Reply.report =
          (c.replies [.expression, .term] 5).map Reply.report := by
  intro longer
  have closed : shortGroup.getLast? = some (.stop ⟨none, 4⟩) := rfl
  have closed' : longer.getLast? = some (.stop ⟨some "$", 5⟩) := rfl
  have agree : AgreeOn shortGroup longer 0 3 := by
    intro i _ before
    rw [List.getElem?_append_left (by simp [shortGroup]; omega), List.getElem?_take,
      if_pos (by omega)]
  obtain ⟨⟨c, started, stands⟩, -, frame, -⟩ := calls_see_no_further closed closed'
  obtain ⟨single, sequence⟩ := frame c 0 0 stands
  have begins : c = ⟨[.mark .opening (some "(") 0, .number 1 1, .mark .plus (some "+") 2,
      .mark .closing (some ")") 3], ⟨none, 4⟩, 0, 0⟩ := (Except.ok.inj started).symm
  have report : (c.call .expression 5).report =
      (.error (.operandExpected (.mark .closing (some ")") 3)), 3, 1) := by
    rw [begins]
    decide +kernel
  have pos : (c.call .expression 5).cursor.pos = 3 := congrArg (·.2.1) report
  have after : (c.after [.expression, .term] 5).pos = 3 := by
    rw [begins]
    decide +kernel
  obtain ⟨⟨c', stands'⟩, alike⟩ := (single .expression 5).2.2 (by rwa [pos])
  exact ⟨closed, closed', agree, c, started, c', stands', (alike c' stands').2.trans report,
    sequence _ 5 c' stands' (by rwa [after])⟩

end Reckoner
