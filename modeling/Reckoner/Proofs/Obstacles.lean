import Reckoner.Error
import Reckoner.Proofs.States

/-! # Where a parse stops

A parse that fails stops at the first token with which no expression goes on. What it has passed
can be completed to an expression: a failure leaves the beginning of a phrase of the parser's rank,
and that is carried through the parser beside the phrases that it reads. What it has passed
together with the token there cannot: a parser sees nothing behind that token, so whatever follows,
it stops there again. The error tells of that token and of its place.
-/

namespace Reckoner

/-- The error tells of the token at which a parser stops. The only token that has to come, when
another comes, is a closing parenthesis. -/
def GrammarError.Blames (token : Token) : GrammarError → Prop
  | .unterminated | .outOfStack => False
  | .mismatch wanted found => wanted = .mark .closing ∧ found = token
  | .trailing found | .tooDeep found | .operandExpected found => .lexeme found = token
  | .endOfInput found => .stop found = token

theorem GrammarError.Blames.exists_message {error : GrammarError} {token : Token}
    (blames : error.Blames token) :
    ∃ text, error.message = text ++ " at position " ++ Numeral.write token.pos := by
  match error with
  | .unterminated | .outOfStack => exact blames.elim
  | .mismatch wanted found =>
    obtain ⟨-, rfl⟩ := blames
    exact ⟨_, rfl⟩
  | .trailing found | .tooDeep found | .operandExpected found =>
    cases blames
    exact ⟨_, rfl⟩
  | .endOfInput found =>
    cases blames
    exact ⟨_, rfl⟩

theorem GrammarError.Blames.kind_eq {error : GrammarError} {token : Token}
    (blames : error.Blames token) : error.kind = .invalidExpression := by
  cases error with
  | unterminated | outOfStack => exact blames.elim
  | mismatch | trailing | tooDeep | endOfInput | operandExpected => rfl

def Begins (phrase : List Lexeme → Expr → Prop) (front : List Lexeme) : Prop :=
  ∃ back e, phrase (front ++ back) e

namespace Parser

/-- Where the parser fails, it blames the token there, and what it has passed begins a phrase. -/
def Breaks (parser : Parser) (phrase : List Lexeme → Expr → Prop) : Prop :=
  ∀ c error d, parser.run c = ⟨.error error, d⟩ →
    error.Blames d.token ∧ ∃ front, c.Passes front d ∧ Begins phrase front

variable {phrase whole : List Lexeme → Expr → Prop} {ends : List Lexeme → Prop} {operand : Parser}
  {level : Lexeme → Option Operator}

theorem chainFrom_breaks (sound : operand.Sound phrase ends) (breaks : operand.Breaks phrase)
    (extend : ∀ {front l op x back y}, whole front x → level l = some op → phrase back y →
      whole (front ++ l :: back) (.binary op x y))
    {left : Expr} {c d : Cursor} {front : List Lexeme} (before : whole front left)
    {error : GrammarError} (failed : chainFrom operand level left c = ⟨.error error, d⟩) :
    error.Blames d.token ∧ ∃ passed, c.Passes passed d ∧ Begins whole (front ++ passed) := by
  -- `front` holds what the loop has read of the chain; every round adds a link to it.
  fun_induction chainFrom operand level left c generalizing front with
  | case1 left c stops => cases failed
  | case2 left c op goesOn right m reply ih =>
    obtain ⟨l, rest, ahead, operator⟩ := exists_operator goesOn
    obtain ⟨back, passed, -, second, -⟩ := sound _ _ _ reply
    obtain ⟨blames, lexemes, passes, begins⟩ := ih (extend before operator second) failed
    refine ⟨blames, l :: (back ++ lexemes), .cons ahead (passed.trans passes), ?_⟩
    simpa using begins
  | case3 left c op goesOn error' m reply =>
    obtain ⟨l, rest, ahead, operator⟩ := exists_operator goesOn
    cases failed
    obtain ⟨blames, lexemes, passes, back, e, begun⟩ := breaks _ _ _ reply
    refine ⟨blames, l :: lexemes, .cons ahead passes, back, .binary op left e, ?_⟩
    simpa using extend before operator begun

/-- A chain breaks off within an operand, the first or a later one. -/
theorem Breaks.chain (breaks : operand.Breaks phrase) (sound : operand.Sound phrase ends)
    (single : ∀ {lexemes e}, phrase lexemes e → whole lexemes e)
    (extend : ∀ {front l op x back y}, whole front x → level l = some op → phrase back y →
      whole (front ++ l :: back) (.binary op x y)) : (chain operand level).Breaks whole := by
  intro c error d failed
  simp only [Parser.chain] at failed
  rcases reply : operand.run c with ⟨error' | left, m⟩
  · rw [reply, Reply.andThen_error] at failed
    cases failed
    obtain ⟨blames, front, passes, back, e, begun⟩ := breaks _ _ _ reply
    exact ⟨blames, front, passes, back, e, single begun⟩
  · rw [reply, Reply.andThen_ok] at failed
    obtain ⟨front, passed, -, first, -⟩ := sound _ _ _ reply
    obtain ⟨blames, back, passes, begins⟩ :=
      chainFrom_breaks sound breaks extend (single first) failed
    exact ⟨blames, front ++ back, passed.trans passes, begins⟩

/-- How an operand fails: at its first token, between its parentheses, or where they have to
close. -/
theorem operand_eq_error {inner : Option Parser} {c d : Cursor} {error : GrammarError}
    (failed : (Parser.operand inner).run c = ⟨.error error, d⟩) :
    (d = c ∧ error.Blames c.token) ∨
      ∃ parser front rest, inner = some parser ∧ c.ahead = front :: rest ∧
        front.kind = .mark .opening ∧
        (parser.run c.next.enter = ⟨.error error, d⟩ ∨
          ∃ e, parser.run c.next.enter = ⟨.ok e, d⟩ ∧
            error = .mismatch (.mark .closing) d.token) := by
  match found : c.token with
  | .stop stop =>
    simp only [Parser.operand, found] at failed
    cases failed
    exact .inl ⟨rfl, rfl⟩
  | .lexeme (.number value pos) => simp [Parser.operand, found] at failed
  | .lexeme (.mark mark spelling pos) =>
    by_cases opens : mark = .opening
    · subst opens
      obtain ⟨rest, ahead⟩ := Cursor.exists_ahead_of_token found
      cases inner with
      | none =>
        simp only [Parser.operand, found] at failed
        cases failed
        exact .inl ⟨rfl, rfl⟩
      | some parser =>
        refine .inr ⟨parser, _, rest, rfl, ahead, rfl, ?_⟩
        simp only [Parser.operand, found] at failed
        rcases reply : parser.run c.next.enter with ⟨error' | e, m⟩
        · rw [reply, Reply.andThen_error] at failed
          cases failed
          exact .inl rfl
        · rw [reply, Reply.andThen_ok, Cursor.expect] at failed
          split at failed
          · cases failed
          · cases failed
            exact .inr ⟨e, rfl, rfl⟩
    · rw [operand_eq_expected found (by simp [Lexeme.kind]) (by simpa [Lexeme.kind] using opens)]
        at failed
      cases failed
      exact .inl ⟨rfl, rfl⟩

/-- A parser of factors whose inner parser reads expressions breaks off within a factor. -/
theorem breaks_operand {inner : Option Parser} {levels : Nat}
    (within : ∀ parser, inner = some parser → ∃ deeper, levels = deeper + 1 ∧
      parser.Sound (Derives .expression deeper) Rank.expression.EndsBefore ∧
      parser.Breaks (Derives .expression deeper)) :
    (Parser.operand inner).Breaks (Derives .factor levels) := by
  intro c error d failed
  let back : Lexeme := .mark .closing none 0
  obtain ⟨rfl, blames⟩ | ⟨parser, front, rest, given, ahead, opens, inside⟩ :=
    operand_eq_error failed
  · exact ⟨blames, [], .refl _, [.number 0 0], .literal 0, .number 0 0⟩
  · obtain ⟨deeper, rfl, sound, breaks⟩ := within parser given
    have entering {lexemes : List Lexeme} (passes : c.next.enter.Passes lexemes d) :
        c.Passes (front :: lexemes) d := .cons ahead ⟨passes.ahead, passes.stop, passes.pos⟩
    obtain reply | ⟨e, reply, rfl⟩ := inside
    · obtain ⟨blames, lexemes, passes, more, e, begun⟩ := breaks _ _ _ reply
      have whole : Derives .factor (deeper + 1) (front :: (lexemes ++ more ++ [back])) e :=
        .group opens begun rfl
      refine ⟨blames, front :: lexemes, entering passes, more ++ [back], e, ?_⟩
      simpa using whole
    · obtain ⟨lexemes, passes, -, phrase, -⟩ := sound _ _ _ reply
      exact ⟨⟨rfl, rfl⟩, front :: lexemes, entering passes, [back], e, .group opens phrase rfl⟩

/-- Where the parser of a rank fails that only the limit stops, what it has passed begins a phrase
of the rank. -/
theorem breaks_ofRank (rank : Rank) (levels : Nat) :
    (ofRank rank .limit levels).Breaks (Derives rank levels) := by
  have term {levels : Nat} (breaks : (factor .limit levels).Breaks (Derives .factor levels)) :
      (term .limit levels).Breaks (Derives .term levels) :=
    breaks.chain (sound_factor .limit levels) Derives.ofFactor Derives.product
  have expression {levels : Nat}
      (breaks : (factor .limit levels).Breaks (Derives .factor levels)) :
      (expression .limit levels).Breaks (Derives .expression levels) :=
    (term breaks).chain (sound_term (sound_factor .limit levels)) Derives.ofTerm Derives.sum
  have factor : (factor .limit levels).Breaks (Derives .factor levels) := by
    induction levels with
    | zero => exact breaks_operand (by simp [Bottom.inner])
    | succ levels ih =>
      apply breaks_operand
      rintro parser ⟨⟩
      exact ⟨levels, rfl, sound_ofRank .expression .limit levels, expression ih⟩
  cases rank with
  | factor => exact factor
  | term => exact term factor
  | expression => exact expression factor

end Parser

/-- A whole parse that fails blames the token at which it stops, and what it has passed begins an
expression. -/
theorem Cursor.parse_breaks {c d : Cursor} {error : GrammarError}
    (failed : c.parse = ⟨.error error, d⟩) :
    error.Blames d.token ∧
      ∃ front, c.Passes front d ∧ Begins (Derives .expression c.levels) front := by
  rw [parse, expression_nestingLimit] at failed
  rcases reply : (Parser.expression .limit c.levels).run c with ⟨error' | e, m⟩
  · rw [reply, Reply.andThen_error] at failed
    cases failed
    exact Parser.breaks_ofRank .expression c.levels c _ _ reply
  · rw [reply, Reply.andThen_ok] at failed
    obtain ⟨front, passes, -, phrase, -⟩ :=
      Parser.sound_ofRank .expression .limit c.levels c _ _ reply
    cases found : m.token with
    | stop stop => simp [found] at failed
    | lexeme l =>
      simp only [found] at failed
      cases failed
      exact ⟨found.symm, front, passes, [], e, by rwa [List.append_nil]⟩

/-- A stream that is not parsed is no expression, and nothing else is wrong with it. -/
theorem TokenStream.kind_of_parse {stream : TokenStream} {error : GrammarError}
    (failed : stream.parse = .error error) : error.kind = .invalidExpression := by
  let reply := (Cursor.start stream).parse
  have broken : reply = ⟨.error error, reply.cursor⟩ := by
    rw [← show reply.answer = .error error from failed]
  exact (Cursor.parse_breaks broken).1.kind_eq

/-- A list of tokens without an inner end mark is parsed as the stream that it is. -/
theorem parseTokens_append (lexemes : List Lexeme) (stop : EndMark) :
    parseTokens (lexemes.map .lexeme ++ [.stop stop]) = (TokenStream.mk lexemes stop).parse := by
  rw [parseTokens, Cursor.ofTokens, TokenStream.ofTokens?_append _ _ _ rfl]
  rfl

/-- A parse that fails stops before the first token with which no expression goes on, and its
message ends with the place of that token. The tokens before it go on to an expression; but
whatever follows the token itself, the parse stops there again, with the same error. -/
theorem parse_stops_at_obstacle {tokens : List Token} {last : EndMark}
    (closed : tokens.getLast? = some (.stop last)) {error : GrammarError}
    (fails : parseTokens tokens = .error error) :
    ∃ start token, Cursor.ofTokens tokens = .ok start ∧ start.parse.answer = .error error ∧
      let k := start.parse.cursor.pos
      tokens[k]? = some token ∧ error.Blames token ∧
        (∃ text, error.message = text ++ " at position " ++ Numeral.write token.pos) ∧
        (∃ more stop e, parseTokens (tokens.take k ++ more ++ [.stop stop]) = .ok e) ∧
        ∀ more stop, (tokens.take (k + 1) ++ more).getLast? = some (.stop stop) →
          parseTokens (tokens.take (k + 1) ++ more) = .error error := by
  obtain ⟨start, started, stands⟩ := Cursor.exists_start_isAt closed
  have answer : start.parse.answer = .error error := (parseTokens_of_start started).symm.trans fails
  obtain ⟨blames, front, passes, more, e, begun⟩ :=
    Cursor.parse_breaks (show start.parse = ⟨.error error, start.parse.cursor⟩ by rw [← answer])
  obtain ⟨standing, slice⟩ := stands.of_passes passes
  have levels : start.levels = nestingLimit := by rw [Cursor.levels, stands.depth]; rfl
  rw [levels] at begun
  refine ⟨start, _, started, answer, standing.getElem?_eq, blames, blames.exists_message, ?_, ?_⟩
  · refine ⟨more.map .lexeme, ⟨none, 0⟩, e, ?_⟩
    rw [List.drop_zero] at slice
    rw [slice, ← List.map_append, parseTokens_append]
    exact TokenStream.parse_eq_ok_iff.mpr begun
  · intro more stop closed'
    obtain ⟨start', started', stands'⟩ := Cursor.exists_start_isAt closed'
    have inside := (List.getElem?_eq_some_iff.mp standing.getElem?_eq).1
    have agree : ∀ i, 0 ≤ i → i ≤ start.parse.cursor.pos →
        (tokens.take (start.parse.cursor.pos + 1) ++ more)[i]? = tokens[i]? := by
      intro i _ before
      rw [List.getElem?_append_left (by rw [List.length_take]; omega), List.getElem?_take,
        if_pos (Nat.lt_succ_of_le before)]
    obtain ⟨d', -, mirrors⟩ := stands.exists_mirrors stands' passes agree
    rw [parseTokens_of_start started', (Cursor.localAt_parse start).mirror start' d' mirrors]
    exact answer

/-- `(2*)` before two end marks. -/
private def missingOperand : List Token :=
  [.lexeme (.mark .opening (some "(") 0), .lexeme (.number 2 1), .lexeme (.mark .star (some "*") 2),
    .lexeme (.mark .closing (some ")") 3), .stop ⟨none, 4⟩, .stop ⟨none, 5⟩]

/-- The parse stops before the closing parenthesis, whatever comes behind it; but `(2*` can be
completed. -/
theorem parse_stops_at_obstacle_in_group :
    missingOperand.getLast? = some (.stop ⟨none, 5⟩) ∧
      parseTokens missingOperand = .error (.operandExpected (.mark .closing (some ")") 3)) ∧
      (∃ text, GrammarError.message (.operandExpected (.mark .closing (some ")") 3)) =
        text ++ " at position " ++ Numeral.write 3) ∧
      (∃ more stop e, parseTokens (missingOperand.take 3 ++ more ++ [.stop stop]) = .ok e) ∧
      parseTokens (missingOperand.take 4 ++ [.lexeme (.number 7 4), .stop ⟨none, 5⟩]) =
        .error (.operandExpected (.mark .closing (some ")") 3)) := by
  have closed : missingOperand.getLast? = some (.stop ⟨none, 5⟩) := rfl
  have fails : parseTokens missingOperand =
      .error (.operandExpected (.mark .closing (some ")") 3)) := by decide +kernel
  obtain ⟨start, token, started, -, found, -, ⟨text, message⟩, begins, stops⟩ :=
    parse_stops_at_obstacle closed fails
  have pos : start.parse.cursor.pos = 3 := by
    rw [← Except.ok.inj started]
    decide +kernel
  rw [pos] at found begins stops
  obtain rfl : token = .lexeme (.mark .closing (some ")") 3) := (Option.some.inj found).symm
  exact ⟨closed, fails, ⟨text, message⟩, begins, stops _ _ rfl⟩

end Reckoner
