import Reckoner.Parser.Call
import Reckoner.Proofs.Nesting
import Reckoner.Proofs.Phrases
import Reckoner.Proofs.Reading

/-! # Calls from anywhere in a list of tokens

A list of tokens that ends in an end mark is a stream up to its first one, and the state of a
parser over it is an index up to there and a depth. Here phrases are stretches of such a list: the
tokens from one index on and before another.
-/

namespace Reckoner

/-- The index of the first end mark of a list of tokens. -/
def firstStop (tokens : List Token) : Nat :=
  tokens.findIdx fun token => token.stop?.isSome

/-- The tokens from the index `p` on and before the index `q` are a phrase. -/
def PhraseIn (tokens : List Token) (rank : Rank) (levels p q : Nat) (e : Expr) : Prop :=
  ∃ lexemes, (tokens.take q).drop p = lexemes.map Token.lexeme ∧ Derives rank levels lexemes e

/-- The kinds of token with which a phrase of a rank would go on. -/
def Rank.continuations : Rank → List Kind
  | .factor => []
  | .term => [.mark .star, .mark .slash]
  | .expression => [.mark .star, .mark .slash, .mark .plus, .mark .minus]

/-- A token of none of these kinds stands at an index. -/
def NoneAt (tokens : List Token) (kinds : List Kind) (q : Nat) : Prop :=
  ∃ token, tokens[q]? = some token ∧ token.kind ∉ kinds

theorem Rank.endsBefore_iff (rank : Rank) (c : Cursor) :
    rank.EndsBefore c.ahead ↔ c.token.kind ∉ rank.continuations := by
  rw [Cursor.token]
  rcases c.ahead with _ | ⟨_ | m, _⟩
  · cases rank <;> simp [EndsBefore, continuations, Token.kind]
  · cases rank <;> simp [EndsBefore, continuations, Token.kind, Lexeme.kind,
      Lexeme.multiplicative?, Lexeme.additive?]
  · cases rank <;> cases m <;> simp [EndsBefore, continuations, Token.kind, Lexeme.kind,
      Lexeme.multiplicative?, Lexeme.additive?]

namespace TokenStream

/-- The cursor past `pos` lexemes of a stream and within `depth` parentheses. -/
def cursor (stream : TokenStream) (pos depth : Nat) : Cursor :=
  ⟨stream.lexemes.drop pos, stream.stop, pos, depth⟩

/-- Passing lexemes leads from one cursor of a stream to another. -/
theorem cursor_passes_iff {stream : TokenStream} {p depth : Nat} {lexemes : List Lexeme}
    {c : Cursor} (nonempty : lexemes ≠ []) : (stream.cursor p depth).Passes lexemes c ↔
      c = stream.cursor c.pos c.depth ∧ c.pos ≤ stream.lexemes.length ∧
        (stream.lexemes.take c.pos).drop p = lexemes := by
  constructor
  · rintro ⟨ahead, stop, pos⟩
    simp only [cursor] at ahead stop pos
    have behind : c.ahead = stream.lexemes.drop c.pos := by
      rw [pos, ← List.drop_drop, ahead, List.drop_left]
    have slice : (stream.lexemes.take c.pos).drop p = lexemes := by
      rw [pos, List.drop_take, Nat.add_sub_cancel_left, ahead, List.take_left]
    have inside : c.pos ≤ stream.lexemes.length := by
      have length := congrArg List.length ahead
      have positive := List.length_pos_iff.mpr nonempty
      rw [List.length_drop, List.length_append] at length
      omega
    refine ⟨?_, inside, slice⟩
    rw [cursor, ← behind, ← stop]
  · rintro ⟨same, inside, rfl⟩
    have before : p < c.pos := by
      have positive := List.length_pos_iff.mpr nonempty
      rw [List.length_drop, List.length_take] at positive
      omega
    rw [same]
    refine ⟨?_, rfl, ?_⟩
    · have parts := List.take_append_drop (c.pos - p) (stream.lexemes.drop p)
      rw [List.drop_drop, Nat.add_sub_cancel' (Nat.le_of_lt before)] at parts
      rw [List.drop_take]
      exact parts.symm
    · simp only [cursor, List.length_drop, List.length_take]
      omega

/-- `stream.Opens tokens` says that the list of tokens holds the stream up to its first end
mark. -/
def Opens (stream : TokenStream) (tokens : List Token) : Prop :=
  ∃ tail, tokens = stream.lexemes.map Token.lexeme ++ .stop stream.stop :: tail

/-- A list of tokens that has an end mark opens with a stream. -/
theorem exists_opens {tokens : List Token} {last : EndMark} (member : .stop last ∈ tokens) :
    ∃ stream : TokenStream, stream.Opens tokens := by
  induction tokens with
  | nil => simp at member
  | cons token rest ih =>
    match token with
    | .stop stop => exact ⟨⟨[], stop⟩, rest, rfl⟩
    | .lexeme l =>
      obtain ⟨stream, tail, rfl⟩ := ih (by simpa using member)
      exact ⟨⟨l :: stream.lexemes, stream.stop⟩, tail, rfl⟩

/-- A list of tokens that ends in an end mark can be parsed from its beginning. -/
theorem exists_start {tokens : List Token} {last : EndMark}
    (closed : tokens.getLast? = some (.stop last)) :
    ∃ stream : TokenStream, stream.Opens tokens ∧
      Cursor.ofTokens tokens = .ok (stream.cursor 0 0) := by
  obtain ⟨stream, tail, rfl⟩ := exists_opens (List.mem_of_getLast? closed)
  refine ⟨stream, ⟨tail, rfl⟩, ?_⟩
  have ends : (Token.stop stream.stop :: tail).getLast (by simp) = .stop last := by
    rw [List.getLast?_append_of_ne_nil _ (List.cons_ne_nil _ _)] at closed
    exact List.getLast_of_getLast?_eq_some closed
  rw [Cursor.ofTokens, ofTokens?_append _ _ _ (by rw [ends]; rfl)]
  rfl

namespace Opens

variable {stream : TokenStream} {tokens : List Token} {p q : Nat}

theorem firstStop_eq (opens : stream.Opens tokens) : firstStop tokens = stream.lexemes.length := by
  obtain ⟨tail, rfl⟩ := opens
  induction stream.lexemes with
  | nil => simp [firstStop, List.findIdx_cons, Token.stop?]
  | cons l rest ih => simpa [firstStop, List.findIdx_cons, Token.stop?] using ih

/-- Up to the first end mark, the token at an index is the one before which the cursor stands. -/
theorem getElem?_eq (opens : stream.Opens tokens) (before : q ≤ stream.lexemes.length)
    (depth : Nat) : tokens[q]? = some (stream.cursor q depth).token := by
  obtain ⟨tail, rfl⟩ := opens
  rw [Cursor.token, cursor]
  obtain inside | atEnd := Nat.lt_or_eq_of_le before
  · rw [List.drop_eq_getElem_cons inside, List.getElem?_append_left (by simpa using inside)]
    simp [inside]
  · rw [atEnd, List.drop_length, List.getElem?_append_right (by simp)]
    simp

/-- A stretch of lexemes lies before the first end mark. -/
theorem slice_iff (opens : stream.Opens tokens) (before : p ≤ stream.lexemes.length)
    {lexemes : List Lexeme} : (tokens.take q).drop p = lexemes.map Token.lexeme ↔
      q ≤ stream.lexemes.length ∧ (stream.lexemes.take q).drop p = lexemes := by
  obtain ⟨tail, rfl⟩ := opens
  by_cases inside : q ≤ stream.lexemes.length
  · rw [List.take_append_of_le_length (by simpa using inside), ← List.map_take, ← List.map_drop]
    have injective : Function.Injective Token.lexeme := fun _ _ same => Token.lexeme.inj same
    simp only [inside, true_and]
    exact ⟨fun same => List.map_injective_iff.mpr injective same, fun same => by rw [same]⟩
  · simp only [inside, false_and, iff_false]
    intro same
    have stop :
        (stream.lexemes.map Token.lexeme ++ .stop stream.stop :: tail)[stream.lexemes.length]? =
          some (.stop stream.stop) := by
      rw [List.getElem?_append_right (by simp)]
      simp
    have shown := congrArg (fun slice => slice[stream.lexemes.length - p]?) same
    simp only [List.getElem?_drop, List.getElem?_take, List.getElem?_map] at shown
    rw [show p + (stream.lexemes.length - p) = stream.lexemes.length by omega,
      if_pos (by omega), stop] at shown
    cases found : lexemes[stream.lexemes.length - p]? <;> simp [found] at shown

/-- The parser of a rank reads just the phrases that begin where the cursor stands. -/
theorem run_ofRank_iff (opens : stream.Opens tokens) (before : p ≤ stream.lexemes.length)
    (rank : Rank) (bottom : Parser.Bottom) (levels depth : Nat) (e : Expr) (c : Cursor) :
    (Parser.ofRank rank bottom levels).run (stream.cursor p depth) = ⟨.ok e, c⟩ ↔
      c = stream.cursor c.pos depth ∧ PhraseIn tokens rank levels p c.pos e ∧
        NoneAt tokens rank.continuations c.pos := by
  have noneAt (inside : c.pos ≤ stream.lexemes.length) (same : c = stream.cursor c.pos depth) :
      NoneAt tokens rank.continuations c.pos ↔ rank.EndsBefore c.ahead := by
    rw [rank.endsBefore_iff, NoneAt, opens.getElem?_eq inside depth, ← same]
    simp
  rw [Parser.run_ofRank_eq_ok_iff]
  constructor
  · rintro ⟨lexemes, passes, rfl, phrase, ends⟩
    obtain ⟨same, inside, slice⟩ := (cursor_passes_iff phrase.ne_nil).mp passes
    exact ⟨same, ⟨lexemes, (opens.slice_iff before).mpr ⟨inside, slice⟩, phrase⟩,
      (noneAt inside same).mpr ends⟩
  · rintro ⟨same, ⟨lexemes, slice, phrase⟩, none⟩
    obtain ⟨inside, slice⟩ := (opens.slice_iff before).mp slice
    have depth : c.depth = depth := by rw [same]; rfl
    refine ⟨lexemes, ?_, depth, phrase, (noneAt inside same).mp none⟩
    rw [cursor_passes_iff phrase.ne_nil, depth]
    exact ⟨same, inside, slice⟩

end Opens

end TokenStream

/-- A reply accepts `accepted` at a depth when it returns just the trees and indices of
`accepted`, at that depth, and is an error when there are none. -/
structure Reply.Accepts (reply : Reply Expr) (depth : Nat) (accepted : Nat → Expr → Prop) :
    Prop where
  returns : ∀ q e, (reply.answer = .ok e ∧ reply.cursor.pos = q) ↔ accepted q e
  depth : ∀ e, reply.answer = .ok e → reply.cursor.depth = depth
  raises : (∃ error, reply.answer = .error error) ↔ ∀ q e, ¬accepted q e

namespace TokenStream.Opens

variable {stream : TokenStream} {tokens : List Token} {p depth : Nat}

/-- A reply that is known where it returns is known where it does not. -/
theorem accepts_of_iff (stream : TokenStream) {reply : Reply Expr} {accepted : Nat → Expr → Prop}
    (known : ∀ e c, reply = ⟨.ok e, c⟩ ↔ c = stream.cursor c.pos depth ∧ accepted c.pos e) :
    reply.Accepts depth accepted := by
  have returns (q : Nat) (e : Expr) :
      (reply.answer = .ok e ∧ reply.cursor.pos = q) ↔ accepted q e := by
    constructor
    · rintro ⟨answer, rfl⟩
      exact ((known e reply.cursor).mp (by rw [← answer])).2
    · intro accepts
      rw [(known e (stream.cursor q depth)).mpr ⟨rfl, accepts⟩]
      exact ⟨rfl, rfl⟩
  refine ⟨returns, ?_, ?_⟩
  · intro e answer
    rw [((known e reply.cursor).mp (by rw [← answer])).1]
    rfl
  · constructor
    · rintro ⟨error, answer⟩ q e accepts
      have returned := ((returns q e).mpr accepts).1
      rw [answer] at returned
      cases returned
    · intro nothing
      match answer : reply.answer with
      | .error error => exact ⟨error, rfl⟩
      | .ok e => exact absurd ((returns reply.cursor.pos e).mp ⟨answer, rfl⟩) (nothing _ _)

theorem accepts_ofRank (opens : stream.Opens tokens) (before : p ≤ stream.lexemes.length)
    (rank : Rank) (bottom : Parser.Bottom) (levels : Nat) :
    ((Parser.ofRank rank bottom levels).run (stream.cursor p depth)).Accepts depth fun q e =>
      PhraseIn tokens rank levels p q e ∧ NoneAt tokens rank.continuations q :=
  accepts_of_iff stream (opens.run_ofRank_iff before rank bottom levels depth)

theorem accepts_factor (opens : stream.Opens tokens) (before : p ≤ stream.lexemes.length)
    (bottom : Parser.Bottom) (levels : Nat) :
    ((Parser.factor bottom levels).run (stream.cursor p depth)).Accepts depth fun q e =>
      PhraseIn tokens .factor levels p q e := by
  apply accepts_of_iff stream
  intro e c
  refine (opens.run_ofRank_iff before .factor bottom levels depth e c).trans ?_
  constructor
  · exact fun ⟨same, phrase, _⟩ => ⟨same, phrase⟩
  · rintro ⟨same, phrase⟩
    obtain ⟨lexemes, slice, -⟩ := id phrase
    have inside := ((opens.slice_iff before).mp slice).1
    exact ⟨same, phrase, _, opens.getElem?_eq inside depth, List.not_mem_nil⟩

theorem accepts_parse (opens : stream.Opens tokens) (before : p ≤ stream.lexemes.length) :
    (stream.cursor p depth).parse.Accepts depth fun q e =>
      PhraseIn tokens .expression (nestingLimit - depth) p q e ∧
        ∃ token, tokens[q]? = some token ∧ token.kind = .stop := by
  apply accepts_of_iff stream
  intro e c
  have read := opens.run_ofRank_iff before .expression .limit (nestingLimit - depth) depth e c
  have atEnd (inside : c.pos ≤ stream.lexemes.length) (same : c = stream.cursor c.pos depth) :
      (∃ token, tokens[c.pos]? = some token ∧ token.kind = .stop) ↔ c.ahead = [] := by
    rw [opens.getElem?_eq inside depth, ← same, Cursor.token]
    cases c.ahead with
    | nil => simp [Token.kind]
    | cons l _ => cases l <;> simp [Token.kind, Lexeme.kind]
  rw [Cursor.parse_eq_ok_iff]
  change (Parser.ofRank .expression .limit (nestingLimit - depth)).run _ = _ ∧ _ ↔ _
  constructor
  · rintro ⟨expression, nothing⟩
    obtain ⟨same, phrase, -⟩ := read.mp expression
    obtain ⟨lexemes, slice, -⟩ := id phrase
    have inside := ((opens.slice_iff before).mp slice).1
    exact ⟨same, phrase, (atEnd inside same).mpr nothing⟩
  · rintro ⟨same, phrase, token, stands, stop⟩
    obtain ⟨lexemes, slice, -⟩ := id phrase
    have inside := ((opens.slice_iff before).mp slice).1
    refine ⟨read.mpr ⟨same, phrase, token, stands, ?_⟩,
      (atEnd inside same).mp ⟨token, stands, stop⟩⟩
    simp [stop, Rank.continuations]

end TokenStream.Opens

/-- From every index of a list of tokens up to its first end mark and at every depth, the calls
accept the phrases of the grammar that begin there, nest no deeper than is left and there is room
for, and end before a token that they cannot go on with; a whole parse has room for whatever is
left. The tree of a phrase is unique, groups both levels of operators to the left and knows nothing
of parentheses. -/
theorem calls_accept_phrases {tokens : List Token} {last : EndMark}
    (closed : tokens.getLast? = some (.stop last)) :
    (∃ stream : TokenStream, Cursor.ofTokens tokens = .ok (stream.cursor 0 0) ∧
      ∀ p depth room, p ≤ firstStop tokens →
        (((stream.cursor p depth).factor room).Accepts depth fun q e =>
          PhraseIn tokens .factor (min (nestingLimit - depth) room) p q e) ∧
        (((stream.cursor p depth).term room).Accepts depth fun q e =>
          PhraseIn tokens .term (min (nestingLimit - depth) room) p q e ∧
            NoneAt tokens [.mark .star, .mark .slash] q) ∧
        (((stream.cursor p depth).expression room).Accepts depth fun q e =>
          PhraseIn tokens .expression (min (nestingLimit - depth) room) p q e ∧
            NoneAt tokens [.mark .star, .mark .slash, .mark .plus, .mark .minus] q) ∧
        ((stream.cursor p depth).parse.Accepts depth fun q e =>
          PhraseIn tokens .expression (nestingLimit - depth) p q e ∧
            ∃ token, tokens[q]? = some token ∧ token.kind = .stop)) ∧
      (∀ rank rank' levels levels' lexemes x y,
        Derives rank levels lexemes x → Derives rank' levels' lexemes y → x = y) ∧
      ∀ levels lexemes e,
        (Derives .expression levels lexemes e ↔
          LeftChain Lexeme.additive? (Derives .term levels) lexemes e) ∧
        (Derives .term levels lexemes e ↔
          LeftChain Lexeme.multiplicative? (Derives .factor levels) lexemes e) ∧
        (Derives .factor levels lexemes e ↔
          (∃ value pos, lexemes = [.number value pos] ∧ e = .literal value) ∨
            ∃ deeper front inner back, levels = deeper + 1 ∧
              lexemes = front :: (inner ++ [back]) ∧ front.kind = .mark .opening ∧
              back.kind = .mark .closing ∧ Derives .expression deeper inner e) := by
  refine ⟨?_, ?_, ?_⟩
  · obtain ⟨stream, opens, started⟩ := TokenStream.exists_start closed
    refine ⟨stream, started, ?_⟩
    intro p depth room before
    rw [opens.firstStop_eq] at before
    exact ⟨opens.accepts_factor before _ _, opens.accepts_ofRank before .term _ _,
      opens.accepts_ofRank before .expression _ _, opens.accepts_parse before⟩
  · intro rank rank' levels levels' lexemes x y first second
    exact first.toExpression.unique second.toExpression
  · intro levels lexemes e
    exact ⟨Derives.expression_iff, Derives.term_iff, Derives.factor_iff⟩

/-- `(1+2*3` before a closing parenthesis, an end mark, an unknown mark and another end mark. -/
private def brokenOff : List Token :=
  [.lexeme (.mark .opening (some "(") 0), .lexeme (.number 1 1), .lexeme (.mark .plus (some "+") 2),
    .lexeme (.number 2 3), .lexeme (.mark .star (some "*") 4), .lexeme (.number 3 5),
    .lexeme (.mark .closing (some ")") 6), .stop ⟨none, 7⟩, .lexeme (.mark (.other "CARET") none 8),
    .stop ⟨none, 9⟩]

/-- Within the parentheses, with one more level left and room for two, the whole sum is read. -/
theorem calls_accept_phrases_within :
    brokenOff.getLast? = some (.stop ⟨none, 9⟩) ∧
      ∃ stream : TokenStream, Cursor.ofTokens brokenOff = .ok (stream.cursor 0 0) ∧
        ((stream.cursor 1 999).expression 2).answer =
          .ok (.binary .plus (.literal 1) (.binary .star (.literal 2) (.literal 3))) ∧
        ((stream.cursor 1 999).expression 2).cursor.pos = 6 ∧
        ((stream.cursor 1 999).expression 2).cursor.depth = 999 := by
  refine ⟨rfl, ?_⟩
  obtain ⟨⟨stream, started, calls⟩, -, -⟩ := @calls_accept_phrases brokenOff ⟨none, 9⟩ rfl
  obtain ⟨-, -, accepts, -⟩ := calls 1 999 2 (by decide)
  have product : Derives .term 1 [.number 2 3, .mark .star (some "*") 4, .number 3 5]
      (.binary .star (.literal 2) (.literal 3)) :=
    .product (.ofFactor (.number 2 3)) rfl (.number 3 5)
  have sum : Derives .expression 1
      ([.number 1 1] ++ .mark .plus (some "+") 2 ::
        [.number 2 3, .mark .star (some "*") 4, .number 3 5])
      (.binary .plus (.literal 1) (.binary .star (.literal 2) (.literal 3))) :=
    .sum (.ofTerm (.ofFactor (.number 1 1))) rfl product
  have returned := (accepts.returns 6 _).mpr ⟨⟨_, rfl, sum⟩, _, rfl, by decide⟩
  exact ⟨stream, started, returned.1, returned.2, accepts.depth _ returned.1⟩

/-- The number `1` in so many parentheses. -/
def grouped : (n : Nat) → (pos : Int) → List Lexeme
  | 0, pos => [.number 1 pos]
  | n + 1, pos => .mark .opening (some "(") pos ::
      (grouped n (pos + 1) ++ [.mark .closing (some ")") (pos + 2 * (n + 1))])

theorem derives_grouped (n : Nat) (pos : Int) : Derives .factor n (grouped n pos) (.literal 1) := by
  induction n generalizing pos with
  | zero => exact .number 1 pos
  | succ n ih => exact .group rfl (.ofTerm (.ofFactor (ih _))) rfl

theorem length_grouped (n : Nat) (pos : Int) : (grouped n pos).length = 2 * n + 1 := by
  induction n generalizing pos with
  | zero => rfl
  | succ n ih =>
    rw [grouped, List.length_cons, List.length_append, ih, List.length_singleton]
    omega

/-- Inside the first of several parentheses. -/
theorem next_enter_of_grouped {n : Nat} {pos : Int} {c : Cursor} {rest : List Lexeme}
    (ahead : c.ahead = grouped (n + 1) pos ++ rest) :
    c.next.enter =
      ⟨grouped n (pos + 1) ++ .mark .closing (some ")") (pos + 2 * (n + 1)) :: rest, c.stop,
        c.pos + 1, c.depth + 1⟩ := by
  rw [grouped, List.cons_append, List.append_assoc] at ahead
  rw [Cursor.next_of_cons ahead]
  rfl

/-- A number in more parentheses than there is room for makes the stack give out in the first of
them that is too much. -/
theorem run_factor_grouped {levels n : Nat} (deep : levels < n) (pos : Int) {c : Cursor}
    {rest : List Lexeme} (ahead : c.ahead = grouped n pos ++ rest) :
    ∃ d, (Parser.factor .stack levels).run c = ⟨.error .outOfStack, d⟩ ∧
      d.pos = c.pos + (levels + 1) ∧ d.depth = c.depth + (levels + 1) := by
  induction levels generalizing n pos c rest with
  | zero =>
    obtain ⟨n, rfl⟩ : ∃ m, n = m + 1 := ⟨n - 1, by omega⟩
    refine ⟨c.next.enter, ?_, ?_⟩
    · simp only [Parser.factor, Parser.operand, Cursor.token, ahead, grouped, List.cons_append,
        Parser.Bottom.inner, Parser.exhausted, Reply.andThen_error]
    · rw [next_enter_of_grouped ahead]
      exact ⟨rfl, rfl⟩
  | succ levels ih =>
    obtain ⟨n, rfl⟩ : ∃ m, n = m + 1 := ⟨n - 1, by omega⟩
    have inside := next_enter_of_grouped ahead
    obtain ⟨d, read, at', depth⟩ := ih (by omega) (pos + 1) (congrArg Cursor.ahead inside)
    refine ⟨d, ?_, ?_, ?_⟩
    · simp only [Parser.factor, Parser.operand, Cursor.token, ahead, grouped, List.cons_append,
        Parser.chain, read, Reply.andThen_error]
    · rw [at', inside]
      simp only
      omega
    · rw [depth, inside]
      simp only
      omega

theorem run_ofRank_grouped (rank : Rank) {levels n : Nat} (deep : levels < n) (pos : Int)
    {c : Cursor} {rest : List Lexeme} (ahead : c.ahead = grouped n pos ++ rest) :
    ∃ d, (Parser.ofRank rank .stack levels).run c = ⟨.error .outOfStack, d⟩ ∧
      d.pos = c.pos + (levels + 1) ∧ d.depth = c.depth + (levels + 1) := by
  obtain ⟨d, read, fails⟩ := run_factor_grouped deep pos ahead
  refine ⟨d, ?_, fails⟩
  cases rank with
  | factor => exact read
  | term =>
    change ((Parser.factor .stack levels).run c).andThen _ = _
    rw [read, Reply.andThen_error]
  | expression =>
    change (((Parser.factor .stack levels).run c).andThen _).andThen _ = _
    rw [read, Reply.andThen_error, Reply.andThen_error]

theorem Cursor.expression_of_lt {c : Cursor} {room : Nat} (short : room < c.levels) :
    c.expression room = (Parser.ofRank .expression .stack room).run c := by
  rw [expression, bottom, if_pos short, Nat.min_eq_right (Nat.le_of_lt short)]
  rfl

section Grouped

variable (n : Nat) (stop : EndMark)

theorem ofTokens_grouped :
    Cursor.ofTokens ((grouped n 0).map Token.lexeme ++ [.stop stop]) =
      .ok ⟨grouped n 0, stop, 0, 0⟩ := by
  rw [Cursor.ofTokens, TokenStream.ofTokens?_append _ _ _ rfl]
  rfl

theorem phraseIn_grouped {levels : Nat} (within : n ≤ levels) :
    PhraseIn ((grouped n 0).map Token.lexeme ++ [.stop stop]) .expression levels 0 (2 * n + 1)
      (.literal 1) := by
  refine ⟨grouped n 0, ?_, .ofTerm (.ofFactor ((derives_grouped n 0).mono within))⟩
  rw [List.take_left' (by rw [List.length_map, length_grouped]), List.drop_zero]

theorem getElem?_grouped :
    ((grouped n 0).map Token.lexeme ++ [.stop stop])[2 * n + 1]? = some (.stop stop) := by
  have length : ((grouped n 0).map Token.lexeme).length = 2 * n + 1 := by
    rw [List.length_map, length_grouped]
  rw [List.getElem?_append_right (Nat.le_of_eq length), length, Nat.sub_self]
  rfl

/-- The stack gives out inside the first parenthesis that there is no room for. -/
theorem expression_grouped {room : Nat} (short : room < n) (within : n ≤ nestingLimit) :
    let reply := (⟨grouped n 0, stop, 0, 0⟩ : Cursor).expression room
    reply.answer = .error .outOfStack ∧ reply.cursor.pos = room + 1 ∧
      reply.cursor.depth = room + 1 := by
  intro reply
  have levels : room < Cursor.levels ⟨grouped n 0, stop, 0, 0⟩ := Nat.lt_of_lt_of_le short within
  obtain ⟨d, read, pos, depth⟩ := run_ofRank_grouped .expression short 0
    (c := ⟨grouped n 0, stop, 0, 0⟩) (List.append_nil _).symm
  have outcome : reply = ⟨.error .outOfStack, d⟩ := (Cursor.expression_of_lt levels).trans read
  rw [outcome]
  refine ⟨rfl, ?_, ?_⟩
  · simpa using pos
  · simpa using depth

end Grouped

/-- Four hundred parentheses are an expression that nests within the limit, and there is no room
for them. -/
theorem expression_runs_out_of_stack :
    let tokens := (grouped 400 0).map Token.lexeme ++ [.stop ⟨none, 801⟩]
    let start : Cursor := ⟨grouped 400 0, ⟨none, 801⟩, 0, 0⟩
    let reply := start.expression Cursor.usualRoom
    Cursor.ofTokens tokens = .ok start ∧
      PhraseIn tokens .expression (nestingLimit - 0) 0 801 (.literal 1) ∧
      NoneAt tokens [.mark .star, .mark .slash, .mark .plus, .mark .minus] 801 ∧
      reply.answer = .error .outOfStack ∧ reply.cursor.pos = 331 ∧ reply.cursor.depth = 331 := by
  have within : 400 ≤ nestingLimit := by decide +kernel
  have short : Cursor.usualRoom < 400 := by decide
  exact ⟨ofTokens_grouped 400 _, phraseIn_grouped 400 _ within,
    ⟨_, getElem?_grouped 400 _, by decide⟩, expression_grouped 400 _ short within⟩

end Reckoner
