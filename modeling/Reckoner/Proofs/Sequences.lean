import Reckoner.Error
import Reckoner.Proofs.Walking

/-! # Sequences of calls

A parser may be called again and again, and goes on from where the last call left the cursor, also
when that call failed half-way through an expression. No sequence of calls leads out of the list
of tokens: it leads forward, never less deep, and comes to rest at the first end mark.
-/

namespace Reckoner

namespace Cursor

/-- A call may lead from `c` to `d`: forward, to no smaller depth, and not beyond the limit. -/
structure LeadsTo (c d : Cursor) : Prop where
  passes : ∃ lexemes, c.Passes lexemes d
  depth_le : c.depth ≤ d.depth
  within : c.depth ≤ nestingLimit → d.depth ≤ nestingLimit

namespace LeadsTo

variable {c m d : Cursor}

theorem refl (c : Cursor) : c.LeadsTo c :=
  ⟨⟨[], .refl c⟩, Nat.le_refl _, id⟩

theorem trans (first : c.LeadsTo m) (second : m.LeadsTo d) : c.LeadsTo d := by
  obtain ⟨front, before⟩ := first.passes
  obtain ⟨back, behind⟩ := second.passes
  exact ⟨⟨front ++ back, before.trans behind⟩, first.depth_le.trans second.depth_le,
    second.within ∘ first.within⟩

theorem of_walks (walks : c.Walks c.depth d) : c.LeadsTo d :=
  ⟨walks.passes, walks.floor_le (Nat.le_refl _), walks.depth_le⟩

theorem next (c : Cursor) : c.LeadsTo c.next := by
  match ahead : c.ahead with
  | [] =>
    rw [next_of_nil ahead]
    exact refl c
  | l :: rest =>
    refine ⟨⟨[l], .cons ahead (.refl _)⟩, ?_, ?_⟩
    · rw [depth_next]
    · rw [depth_next]
      exact id

theorem pos_le (leads : c.LeadsTo d) : c.pos ≤ d.pos := by
  obtain ⟨lexemes, passes⟩ := leads.passes
  rw [passes.pos]
  exact Nat.le_add_right ..

end LeadsTo

theorem cursor_parse (c : Cursor) : c.parse.cursor = (c.expression nestingLimit).cursor := by
  rw [parse]
  rcases c.expression nestingLimit with ⟨error | e, m⟩
  · rfl
  · rw [Reply.andThen_ok]
    split <;> rfl

end Cursor

/-- The calls that read an expression or a part of one. -/
def Call.reading : List Call :=
  [.parse, .expression, .term, .factor]

namespace Cursor

variable {c : Cursor}

theorem walks_call (within : c.depth ≤ nestingLimit) {call : Call}
    (reading : call ∈ Call.reading) (room : Nat) :
    c.Walks c.depth (c.call call room).cursor := by
  have walks (rank : Rank) (room : Nat) :
      c.Walks c.depth ((Parser.ofRank rank (c.bottom room) (min c.levels room)).run c).cursor := by
    apply Parser.walking_ofRank rank _ _ c.depth c (Nat.le_refl _)
    rw [bottom]
    split
    · simp only [levels, Parser.Bottom.enterable] at *
      omega
    · simp only [levels, Parser.Bottom.enterable] at *
      omega
  simp only [Call.reading, List.mem_cons, List.not_mem_nil, or_false] at reading
  rcases reading with rfl | rfl | rfl | rfl
  · change c.Walks c.depth c.parse.cursor
    rw [cursor_parse]
    exact walks .expression nestingLimit
  · exact walks .expression room
  · exact walks .term room
  · exact walks .factor room

theorem leadsTo_call (within : c.depth ≤ nestingLimit) (call : Call) (room : Nat) :
    c.LeadsTo (c.call call room).cursor := by
  cases call with
  | parse | expression | term | factor =>
    apply LeadsTo.of_walks
    apply walks_call within
    simp [Call.reading]
  | advance => exact .next c
  | current => exact .refl c
  | expect wanted =>
    change c.LeadsTo (c.expect wanted).cursor
    rw [expect]
    split
    · exact .next c
    · exact .refl c

theorem leadsTo_after (within : c.depth ≤ nestingLimit) (calls : List Call) (room : Nat) :
    c.LeadsTo (c.after calls room) := by
  induction calls generalizing c with
  | nil => exact .refl c
  | cons call calls ih =>
    have first := leadsTo_call within call room
    exact first.trans (ih (first.within within))

/-- A reading call that returns has passed a phrase, so it has moved. -/
theorem pos_lt_of_returns {call : Call} (reading : call ∈ [Call.expression, .term, .factor])
    {room : Nat} {found : Found} (returns : (c.call call room).answer = .ok found) :
    c.pos < (c.call call room).cursor.pos := by
  have moves (rank : Rank) {bottom : Parser.Bottom} {levels : Nat} {found : Found}
      (returns : (((Parser.ofRank rank bottom levels).run c).map Found.tree).answer = .ok found) :
      c.pos < ((Parser.ofRank rank bottom levels).run c).cursor.pos := by
    rcases reply : (Parser.ofRank rank bottom levels).run c with ⟨error | e, d⟩
    · rw [reply] at returns
      cases returns
    · obtain ⟨lexemes, passes, -, phrase, -⟩ := (Parser.run_ofRank_eq_ok_iff rank).mp reply
      have positive := List.length_pos_iff.mpr phrase.ne_nil
      change c.pos < d.pos
      rw [passes.pos]
      omega
  simp only [List.mem_cons, List.not_mem_nil, or_false] at reading
  rcases reading with rfl | rfl | rfl
  · exact moves .expression returns
  · exact moves .term returns
  · exact moves .factor returns

theorem run_ofRank_of_nil (ended : c.ahead = []) (rank : Rank) (bottom : Parser.Bottom)
    (levels : Nat) :
    (Parser.ofRank rank bottom levels).run c = ⟨.error (.endOfInput c.stop), c⟩ := by
  have factor : (Parser.factor bottom levels).run c = ⟨.error (.endOfInput c.stop), c⟩ := by
    cases levels <;> simp only [Parser.factor, Parser.operand, token, ended]
  have term : (Parser.term bottom levels).run c = ⟨.error (.endOfInput c.stop), c⟩ := by
    change ((Parser.factor bottom levels).run c).andThen _ = _
    rw [factor, Reply.andThen_error]
  cases rank with
  | factor => exact factor
  | term => exact term
  | expression =>
    change ((Parser.term bottom levels).run c).andThen _ = _
    rw [term, Reply.andThen_error]

theorem call_of_nil (ended : c.ahead = []) {call : Call} (reading : call ∈ Call.reading)
    (room : Nat) : c.call call room = ⟨.error (.endOfInput c.stop), c⟩ := by
  have fails (rank : Rank) (room : Nat) :=
    run_ofRank_of_nil ended rank (c.bottom room) (min c.levels room)
  simp only [Call.reading, List.mem_cons, List.not_mem_nil, or_false] at reading
  rcases reading with rfl | rfl | rfl | rfl
  · have expression : c.expression nestingLimit = ⟨.error (.endOfInput c.stop), c⟩ :=
      fails .expression nestingLimit
    rw [call, parse, expression]
    rfl
  · exact congrArg (Reply.map Found.tree) (fails .expression room)
  · exact congrArg (Reply.map Found.tree) (fails .term room)
  · exact congrArg (Reply.map Found.tree) (fails .factor room)

theorem after_of_nil (ended : c.ahead = []) (calls : List Call) (room : Nat) :
    c.after calls room = c := by
  have stays (call : Call) : (c.call call room).cursor = c := by
    have next := next_of_nil ended
    cases call with
    | parse | expression | term | factor => rw [call_of_nil ended (by simp [Call.reading])]
    | advance => exact next
    | current => rfl
    | expect wanted =>
      change (c.expect wanted).cursor = c
      rw [expect]
      split
      · exact next
      · rfl
  induction calls with
  | nil => rfl
  | cons call calls ih => rw [after, List.foldl_cons, stays call]; exact ih

/-- The cursor stands before a token of the list, the first end mark or one before it, and no
deeper than the limit. -/
structure StandsIn (c : Cursor) (tokens : List Token) : Prop where
  pos_le : c.pos ≤ firstStop tokens
  token : tokens[c.pos]? = some c.token
  depth_le : c.depth ≤ nestingLimit

end Cursor

namespace TokenStream

/-- Past lexemes of a stream there is another cursor of the stream. -/
theorem eq_cursor_of_passes {stream : TokenStream} {p depth : Nat} {lexemes : List Lexeme}
    {c : Cursor} (before : p ≤ stream.lexemes.length)
    (passes : (stream.cursor p depth).Passes lexemes c) :
    c = stream.cursor c.pos c.depth ∧ c.pos ≤ stream.lexemes.length := by
  by_cases nonempty : lexemes = []
  · subst nonempty
    have pos : c.pos = p := passes.pos
    have ahead : c.ahead = stream.lexemes.drop p := passes.ahead.symm
    refine ⟨?_, by rwa [pos]⟩
    rw [cursor, pos, ← ahead, ← show c.stop = stream.stop from passes.stop, ← pos]
  · obtain ⟨same, inside, -⟩ := (cursor_passes_iff nonempty).mp passes
    exact ⟨same, inside⟩

theorem Opens.standsIn {stream : TokenStream} {tokens : List Token} (opens : stream.Opens tokens)
    {c : Cursor} (leads : (stream.cursor 0 0).LeadsTo c) : c.StandsIn tokens := by
  obtain ⟨lexemes, passes⟩ := leads.passes
  obtain ⟨same, inside⟩ := eq_cursor_of_passes (Nat.zero_le _) passes
  refine ⟨?_, ?_, leads.within (Nat.zero_le _)⟩
  · rwa [opens.firstStop_eq]
  · rw [opens.getElem?_eq inside c.depth, ← same]

end TokenStream

/-- However a parser is called, with whatever room on the stack, and whether its calls return or
fail, it stays within the list of
tokens: it stands before a token up to the first end mark, no deeper than the limit, and so it
does at every step of a call. It never goes back and never to a smaller depth, and a call that
returns an expression or a part of one has moved. At the end mark it rests for good, and there is
nothing to be read. -/
theorem calls_stay_in_tokens {tokens : List Token} {last : EndMark}
    (closed : tokens.getLast? = some (.stop last)) :
    ∃ start, Cursor.ofTokens tokens = .ok start ∧ ∀ calls room,
      let c := start.after calls room
      c.StandsIn tokens ∧
        (∀ more, c.pos ≤ (c.after more room).pos ∧ c.depth ≤ (c.after more room).depth) ∧
        (∀ call ∈ Call.reading, c.Walks c.depth (c.call call room).cursor) ∧
        (∀ m, c.Walks c.depth m → m.StandsIn tokens) ∧
        (∀ call ∈ [Call.expression, .term, .factor], ∀ found,
          (c.call call room).answer = .ok found → c.pos < (c.call call room).cursor.pos) ∧
        ∀ stop, tokens[c.pos]? = some (.stop stop) →
          (∀ more, c.after more room = c) ∧
            ∀ call ∈ Call.reading, (c.call call room).answer = .error (.endOfInput stop) ∧
              (Error.grammar (.endOfInput stop)).kind = .invalidExpression := by
  obtain ⟨stream, opens, started⟩ := TokenStream.exists_start closed
  refine ⟨stream.cursor 0 0, started, ?_⟩
  intro calls room c
  have leads : (stream.cursor 0 0).LeadsTo c := Cursor.leadsTo_after (Nat.zero_le _) calls room
  have stands := opens.standsIn leads
  refine ⟨stands, ?_, fun call reading => Cursor.walks_call stands.depth_le reading room, ?_, ?_,
    ?_⟩
  · intro more
    have further := Cursor.leadsTo_after stands.depth_le more room
    exact ⟨further.pos_le, further.depth_le⟩
  · intro m walks
    exact opens.standsIn (leads.trans (.of_walks walks))
  · intro call reading found returns
    exact Cursor.pos_lt_of_returns reading returns
  · intro stop atEnd
    have token : c.token = .stop stop := Option.some.inj (stands.token.symm.trans atEnd)
    rw [Cursor.token] at token
    cases ahead : c.ahead with
    | nil =>
      rw [ahead] at token
      have same : c.stop = stop := Token.stop.inj token
      refine ⟨fun more => Cursor.after_of_nil ahead more room, ?_⟩
      intro call reading
      rw [Cursor.call_of_nil ahead reading, same]
      exact ⟨rfl, rfl⟩
    | cons l rest =>
      rw [ahead] at token
      cases token

/-- `(7` before two end marks. -/
private def leftOpen : List Token :=
  [.lexeme (.mark .opening (some "(") 0), .lexeme (.number 7 1), .stop ⟨none, 2⟩, .stop ⟨none, 3⟩]

/-- Past both lexemes the parser rests before the first end mark. -/
theorem calls_stay_in_tokens_at_end :
    leftOpen.getLast? = some (.stop ⟨none, 3⟩) ∧
      ∃ start, Cursor.ofTokens leftOpen = .ok start ∧
        ∃ c, c = start.after [.current, .advance, .expect .stop, .advance] 5 ∧ c.pos = 2 ∧
          c.StandsIn leftOpen ∧ c.after [.advance, .factor, .parse, .expect .number] 5 = c ∧
          (c.call .parse 5).answer = .error (.endOfInput ⟨none, 2⟩) := by
  refine ⟨rfl, ?_⟩
  obtain ⟨start, started, kept⟩ := @calls_stay_in_tokens leftOpen ⟨none, 3⟩ rfl
  obtain ⟨stands, -, -, -, -, rests⟩ := kept [.current, .advance, .expect .stop, .advance] 5
  have begins : start = ⟨[.mark .opening (some "(") 0, .number 7 1], ⟨none, 2⟩, 0, 0⟩ :=
    (Except.ok.inj started).symm
  have there : (start.after [.current, .advance, .expect .stop, .advance] 5).pos = 2 := by
    rw [begins]
    rfl
  obtain ⟨still, fails⟩ := rests ⟨none, 2⟩ (by rw [there]; rfl)
  exact ⟨start, started, _, rfl, there, stands, still _, (fails .parse (by simp [Call.reading])).1⟩

end Reckoner
