import Reckoner.Parser.Descent

/-! # The parser reads exactly the phrases of the grammar

One direction follows the run of the parser, by induction on the levels of parentheses and, within
a level, along the chain. The other follows the derivation. A derivation of a chain ends with its
last operand, but the parser meets the first operand first; so a derivation is not said to be
read, but to bring the loop of its chain to where it ends, with its tree in hand.

A chain has to end before a lexeme that cannot go on with it, and that is the only condition that
the lexemes behind a phrase have to meet.
-/

namespace Reckoner

namespace Cursor

@[simp] theorem depth_next (c : Cursor) : c.next.depth = c.depth := by
  unfold next
  split <;> rfl

/-- `c.Passes lexemes d` says that `d` stands past these lexemes, seen from `c`. -/
structure Passes (c : Cursor) (lexemes : List Lexeme) (d : Cursor) : Prop where
  ahead : c.ahead = lexemes ++ d.ahead
  stop : d.stop = c.stop
  pos : d.pos = c.pos + lexemes.length

namespace Passes

variable {c d m : Cursor} {front back lexemes : List Lexeme} {l : Lexeme}

theorem refl (c : Cursor) : c.Passes [] c :=
  ⟨rfl, rfl, rfl⟩

theorem trans (first : c.Passes front m) (second : m.Passes back d) :
    c.Passes (front ++ back) d where
  ahead := by rw [first.ahead, second.ahead, List.append_assoc]
  stop := second.stop.trans first.stop
  pos := by rw [second.pos, first.pos, List.length_append, Nat.add_assoc]

/-- The way past a lexeme leads on from the next cursor. -/
theorem cons {rest : List Lexeme} (ahead : c.ahead = l :: rest)
    (passes : c.next.Passes lexemes d) : c.Passes (l :: lexemes) d := by
  rw [next_of_cons ahead] at passes
  have first : c.Passes [l] ⟨rest, c.stop, c.pos + 1, c.depth⟩ := ⟨ahead, rfl, rfl⟩
  exact first.trans passes

theorem tail (passes : c.Passes (l :: lexemes) d) : c.next.Passes lexemes d := by
  have pos := passes.pos
  rw [List.length_cons] at pos
  rw [next_of_cons passes.ahead]
  exact ⟨rfl, passes.stop, by simp only; omega⟩

/-- A way can be cut at any lexeme; the cursor there may be as deep as one likes. -/
theorem split (passes : c.Passes (front ++ back) d) (depth : Nat) :
    ∃ m, c.Passes front m ∧ m.Passes back d ∧ m.depth = depth := by
  refine ⟨⟨back ++ d.ahead, c.stop, c.pos + front.length, depth⟩, ?_, ?_, rfl⟩
  · exact ⟨by rw [passes.ahead, List.append_assoc], rfl, rfl⟩
  · exact ⟨rfl, passes.stop, by rw [passes.pos, List.length_append, Nat.add_assoc]⟩

/-- The lexemes passed and the depth determine the cursor. -/
theorem unique {d' : Cursor} (first : c.Passes lexemes d) (second : c.Passes lexemes d')
    (depth : d.depth = d'.depth) : d = d' := by
  have ahead : d.ahead = d'.ahead := List.append_cancel_left (first.ahead.symm.trans second.ahead)
  have stop : d.stop = d'.stop := first.stop.trans second.stop.symm
  have pos : d.pos = d'.pos := first.pos.trans second.pos.symm
  cases d
  cases d'
  simp_all

end Passes

end Cursor

/-- Whether a phrase of this rank ends before these lexemes: none of them, or a first one that
cannot go on with a chain of the rank. -/
def Rank.EndsBefore : Rank → List Lexeme → Prop
  | .factor, _ => True
  | .term, ahead => ahead.head?.bind Lexeme.multiplicative? = none
  | .expression, ahead =>
    ahead.head?.bind Lexeme.multiplicative? = none ∧ ahead.head?.bind Lexeme.additive? = none

/-- A lexeme that is an operator of sums is none of products. -/
theorem Lexeme.multiplicative?_of_additive? {l : Lexeme} {op : Operator}
    (additive : l.additive? = some op) : l.multiplicative? = none := by
  match l with
  | .mark .plus .. | .mark .minus .. => rfl
  | .number .. | .mark .star .. | .mark .slash .. | .mark .opening .. | .mark .closing ..
  | .mark (.other _) .. => simp [additive?] at additive

theorem Rank.endsBefore_of_closing {l : Lexeme} (closes : l.kind = .mark .closing) (rank : Rank)
    (rest : List Lexeme) : rank.EndsBefore (l :: rest) := by
  match l with
  | .mark m spelling pos =>
    obtain rfl : m = .closing := by simpa [Lexeme.kind] using closes
    cases rank
    · trivial
    · rfl
    · exact ⟨rfl, rfl⟩
  | .number .. => simp [Lexeme.kind] at closes

namespace Parser

def ofRank : Rank → Bottom → (levels : Nat) → Parser
  | .factor => factor
  | .term => term
  | .expression => expression

/-- Whatever the parser reads satisfies `phrase`, at the depth where it began, and ends before
lexemes that satisfy `ends`. -/
def Sound (parser : Parser) (phrase : List Lexeme → Expr → Prop) (ends : List Lexeme → Prop) :
    Prop :=
  ∀ c e d, parser.run c = ⟨.ok e, d⟩ →
    ∃ lexemes, c.Passes lexemes d ∧ d.depth = c.depth ∧ phrase lexemes e ∧ ends d.ahead

variable {phrase whole : List Lexeme → Expr → Prop} {ends : List Lexeme → Prop} {operand : Parser}
  {level : Lexeme → Option Operator} {bottom : Bottom} {levels : Nat}

/-- Where a chain goes on, an operator of its level lies ahead. -/
theorem exists_operator {ahead : List Lexeme} {op : Operator}
    (goesOn : ahead.head?.bind level = some op) :
    ∃ l rest, ahead = l :: rest ∧ level l = some op := by
  obtain ⟨l, first, operator⟩ := Option.bind_eq_some_iff.mp goesOn
  obtain ⟨rest, rfl⟩ := List.head?_eq_some_iff.mp first
  exact ⟨l, rest, rfl, operator⟩

/-- The loop of a chain extends what stands before it, one operator and operand at a time. -/
theorem chainFrom_sound (sound : operand.Sound phrase ends)
    (extend : ∀ {front l op x back y}, whole front x → level l = some op → phrase back y →
      whole (front ++ l :: back) (.binary op x y))
    {left : Expr} {c : Cursor} {front : List Lexeme} (before : whole front left)
    (ended : ends c.ahead) {e : Expr} {d : Cursor}
    (read : chainFrom operand level left c = ⟨.ok e, d⟩) :
    ∃ lexemes, c.Passes lexemes d ∧ d.depth = c.depth ∧ whole (front ++ lexemes) e ∧
      ends d.ahead ∧ d.ahead.head?.bind level = none := by
  fun_induction chainFrom operand level left c generalizing front with
  | case1 left c stops =>
    cases read
    exact ⟨[], .refl _, rfl, by rwa [List.append_nil], ended, stops⟩
  | case2 left c op goesOn right m reply ih =>
    obtain ⟨l, rest, ahead, operator⟩ := exists_operator goesOn
    obtain ⟨back, passed, sameDepth, second, ended⟩ := sound _ _ _ reply
    obtain ⟨lexemes, passes, depth, chain, ends⟩ := ih (extend before operator second) ended read
    rw [Cursor.depth_next] at sameDepth
    exact ⟨l :: (back ++ lexemes), .cons ahead (passed.trans passes), depth.trans sameDepth,
      by simpa using chain, ends⟩
  | case3 left c op goesOn error m reply => cases read

theorem Sound.chain (sound : operand.Sound phrase ends)
    (single : ∀ {lexemes e}, phrase lexemes e → whole lexemes e)
    (extend : ∀ {front l op x back y}, whole front x → level l = some op → phrase back y →
      whole (front ++ l :: back) (.binary op x y)) :
    (chain operand level).Sound whole
      (fun ahead => ends ahead ∧ ahead.head?.bind level = none) := by
  intro c e d read
  simp only [Parser.chain] at read
  rcases reply : operand.run c with ⟨error | left, m⟩
  · rw [reply, Reply.andThen_error] at read
    cases read
  · rw [reply, Reply.andThen_ok] at read
    obtain ⟨front, passed, sameDepth, first, ended⟩ := sound _ _ _ reply
    obtain ⟨back, passes, depth, chain, ends⟩ :=
      chainFrom_sound sound extend (single first) ended read
    exact ⟨front ++ back, passed.trans passes, depth.trans sameDepth, chain, ends⟩

theorem exists_closing {m : Cursor} (closes : m.token.kind = .mark .closing) :
    ∃ back rest, m.ahead = back :: rest ∧ back.kind = .mark .closing := by
  rw [Cursor.token] at closes
  cases behind : m.ahead with
  | nil => simp [behind, Token.kind] at closes
  | cons back rest =>
    rw [behind] at closes
    exact ⟨back, rest, rfl, closes⟩

/-- What an operand is: a number, or what the inner parser reads before a closing parenthesis. -/
theorem operand_eq_ok {inner : Option Parser} {c d : Cursor} {e : Expr}
    (read : (Parser.operand inner).run c = ⟨.ok e, d⟩) :
    (∃ value pos rest, c.ahead = .number value pos :: rest ∧ e = .literal value ∧ d = c.next) ∨
      ∃ parser m front back rest rest', inner = some parser ∧ c.ahead = front :: rest ∧
        front.kind = .mark .opening ∧ parser.run c.next.enter = ⟨.ok e, m⟩ ∧
        m.ahead = back :: rest' ∧ back.kind = .mark .closing ∧ d = m.next.leave := by
  simp only [Parser.operand] at read
  rcases ahead : c.ahead with _ | ⟨⟨value, pos⟩ | ⟨mark, spelling, pos⟩, rest⟩
  · simp [Cursor.token, ahead] at read
  · simp only [Cursor.token, ahead, Reply.mk.injEq, Except.ok.injEq] at read
    exact .inl ⟨value, pos, rest, rfl, read.1.symm, read.2.symm⟩
  · cases mark with
    | opening =>
      cases inner with
      | none => simp [Cursor.token, ahead] at read
      | some parser =>
        simp only [Cursor.token, ahead] at read
        rcases reply : parser.run c.next.enter with ⟨error | inside, m⟩
        · simp [reply] at read
        · rw [reply, Reply.andThen_ok, Cursor.expect] at read
          split at read
          · next closes =>
            simp only [Cursor.advance, Reply.andThen_ok, Reply.mk.injEq, Except.ok.injEq] at read
            obtain ⟨rfl, rfl⟩ := read
            obtain ⟨back, rest', behind, closing⟩ := exists_closing closes
            exact .inr
              ⟨parser, m, _, back, rest, rest', rfl, rfl, rfl, reply, behind, closing, rfl⟩
          · simp at read
    | plus | minus | star | slash | closing | other => simp [Cursor.token, ahead] at read

/-- A parser of factors whose inner parser reads expressions reads factors. -/
theorem sound_operand {inner : Option Parser} {levels : Nat}
    (within : ∀ parser, inner = some parser → parser.Sound
      (fun lexemes e => ∃ deeper, levels = deeper + 1 ∧ Derives .expression deeper lexemes e)
      Rank.expression.EndsBefore) :
    (Parser.operand inner).Sound (Derives .factor levels) Rank.factor.EndsBefore := by
  intro c e d read
  obtain ⟨value, pos, rest, ahead, rfl, rfl⟩ |
    ⟨parser, m, front, back, rest, rest', given, ahead, opens, reply, behind, closes, rfl⟩ :=
    operand_eq_ok read
  · exact ⟨[.number value pos], .cons ahead (.refl _), c.depth_next, .number value pos, trivial⟩
  · obtain ⟨lexemes, passes, depth, ⟨deeper, rfl, phrase⟩, -⟩ := within parser given _ _ _ reply
    have inside : c.next.Passes lexemes m := ⟨passes.ahead, passes.stop, passes.pos⟩
    have closing : m.Passes [back] m.next := .cons behind (.refl _)
    have whole : c.Passes (front :: (lexemes ++ [back])) m.next :=
      .cons ahead (inside.trans closing)
    refine ⟨_, ⟨whole.ahead, whole.stop, whole.pos⟩, ?_, .group opens phrase closes, trivial⟩
    simp only [Cursor.leave, Cursor.depth_next, depth, Cursor.enter]
    omega

theorem sound_term
    (sound : (factor bottom levels).Sound (Derives .factor levels) Rank.factor.EndsBefore) :
    (term bottom levels).Sound (Derives .term levels) Rank.term.EndsBefore := by
  intro c e d read
  obtain ⟨lexemes, passes, depth, phrase, -, ends⟩ :=
    sound.chain Derives.ofFactor Derives.product c e d read
  exact ⟨lexemes, passes, depth, phrase, ends⟩

theorem sound_expression
    (sound : (term bottom levels).Sound (Derives .term levels) Rank.term.EndsBefore) :
    (expression bottom levels).Sound (Derives .expression levels) Rank.expression.EndsBefore :=
  sound.chain Derives.ofTerm Derives.sum

theorem sound_factor (bottom : Bottom) (levels : Nat) :
    (factor bottom levels).Sound (Derives .factor levels) Rank.factor.EndsBefore := by
  induction levels with
  | zero =>
    apply sound_operand
    intro parser given
    cases bottom with
    | limit => cases given
    | stack =>
      cases given
      rintro c e d ⟨⟩
  | succ levels ih =>
    apply sound_operand
    rintro parser ⟨⟩ c e d read
    obtain ⟨lexemes, passes, depth, phrase, ends⟩ := sound_expression (sound_term ih) c e d read
    exact ⟨lexemes, passes, depth, ⟨levels, rfl, phrase⟩, ends⟩

theorem sound_ofRank (rank : Rank) (bottom : Bottom) (levels : Nat) :
    (ofRank rank bottom levels).Sound (Derives rank levels) rank.EndsBefore := by
  cases rank with
  | factor => exact sound_factor bottom levels
  | term => exact sound_term (sound_factor bottom levels)
  | expression => exact sound_expression (sound_term (sound_factor bottom levels))

/-- What a phrase of a rank does to the parser of the rank, at the cursor where the phrase begins:
a factor is read, and a chain is read up to where the phrase ends. -/
def Brings (bottom : Bottom) : Rank → (levels : Nat) → Cursor → Expr → Cursor → Prop
  | .factor, levels, c, e, d => (factor bottom levels).run c = ⟨.ok e, d⟩
  | .term, levels, c, e, d =>
    (term bottom levels).run c = chainFrom (factor bottom levels) Lexeme.multiplicative? e d
  | .expression, levels, c, e, d => d.ahead.head?.bind Lexeme.multiplicative? = none →
    (expression bottom levels).run c = chainFrom (term bottom levels) Lexeme.additive? e d

theorem operand_number {inner : Option Parser} {c : Cursor} {value pos : Int} {rest : List Lexeme}
    (ahead : c.ahead = .number value pos :: rest) :
    (Parser.operand inner).run c = ⟨.ok (.literal value), c.next⟩ := by
  simp [Parser.operand, Cursor.token, ahead]

theorem operand_group {inner : Parser} {c m : Cursor} {e : Expr} {front back : Lexeme}
    {rest rest' : List Lexeme} (ahead : c.ahead = front :: rest)
    (opens : front.kind = .mark .opening) (within : inner.run c.next.enter = ⟨.ok e, m⟩)
    (behind : m.ahead = back :: rest') (closes : back.kind = .mark .closing) :
    (Parser.operand (some inner)).run c = ⟨.ok e, m.next.leave⟩ := by
  have closing : m.token.kind = .mark .closing := by rw [Cursor.token, behind]; exact closes
  match front with
  | .number .. => simp [Lexeme.kind] at opens
  | .mark mark spelling pos =>
    obtain rfl : mark = .opening := by simpa [Lexeme.kind] using opens
    simp only [Parser.operand, Cursor.token, ahead]
    rw [within, Reply.andThen_ok, Cursor.expect, if_pos closing, Cursor.advance, Reply.andThen_ok]

theorem brings_of_derives {rank : Rank} {levels : Nat} {lexemes : List Lexeme} {e : Expr}
    (phrase : Derives rank levels lexemes e) {c d : Cursor} (passes : c.Passes lexemes d)
    (depth : d.depth = c.depth) : Brings bottom rank levels c e d := by
  induction phrase generalizing c d with
  | @number levels value pos =>
    have same : c.next = d := by
      refine Cursor.Passes.unique (.cons passes.ahead (.refl _)) passes ?_
      rw [Cursor.depth_next, depth]
    rw [← same]
    cases levels <;> exact operand_number passes.ahead
  | @group levels front back inner e opens within closes ih =>
    obtain ⟨m, inside, behind, entered⟩ := passes.tail.split (c.depth + 1)
    have entering : c.next.enter.Passes inner m := ⟨inside.ahead, inside.stop, inside.pos⟩
    have deeper : m.depth = c.next.enter.depth := by
      rw [entered, Cursor.enter, Cursor.depth_next]
    have ends : Rank.expression.EndsBefore m.ahead := by
      rw [behind.ahead]
      exact Rank.endsBefore_of_closing closes .expression d.ahead
    have read : (expression bottom levels).run c.next.enter = ⟨.ok e, m⟩ :=
      (ih entering deeper ends.1).trans (chainFrom_of_none ends.2 e)
    have left : m.next.leave = d := by
      have left : m.Passes [back] m.next.leave := by
        have next : m.Passes [back] m.next := .cons behind.ahead (.refl _)
        exact ⟨next.ahead, next.stop, next.pos⟩
      refine left.unique behind ?_
      rw [Cursor.leave, Cursor.depth_next, entered, depth, Nat.add_sub_cancel]
    rw [← left]
    exact operand_group passes.ahead opens read behind.ahead closes
  | ofFactor _ ih =>
    change ((factor bottom _).run c).andThen (chainFrom _ _) = _
    rw [ih passes depth, Reply.andThen_ok]
  | @product levels left right l op x y _ operator _ ihFirst ihSecond =>
    obtain ⟨m, before, behind, same⟩ := passes.split c.depth
    have goesOn : m.ahead.head?.bind Lexeme.multiplicative? = some op := by
      rw [behind.ahead]
      exact operator
    have second := ihSecond behind.tail (by rw [depth, Cursor.depth_next, same])
    change (term bottom levels).run c = _
    rw [ihFirst before same, chainFrom_of_some goesOn, second, Reply.andThen_ok]
  | ofTerm _ ih =>
    intro ends
    change ((term bottom _).run c).andThen (chainFrom _ _) = _
    rw [ih passes depth, chainFrom_of_none ends, Reply.andThen_ok]
  | @sum levels left right l op x y _ operator _ ihFirst ihSecond =>
    intro ends
    obtain ⟨m, before, behind, same⟩ := passes.split c.depth
    have goesOn : m.ahead.head?.bind Lexeme.additive? = some op := by
      rw [behind.ahead]
      exact operator
    have stops : m.ahead.head?.bind Lexeme.multiplicative? = none := by
      rw [behind.ahead]
      exact Lexeme.multiplicative?_of_additive? operator
    have second := ihSecond behind.tail (by rw [depth, Cursor.depth_next, same])
    have read : (term bottom levels).run m.next = ⟨.ok y, d⟩ :=
      second.trans (chainFrom_of_none ends y)
    rw [ihFirst before same stops, chainFrom_of_some goesOn, read, Reply.andThen_ok]

/-- The parser of a rank reads just the phrases of the rank, as long as they end. -/
theorem run_ofRank_eq_ok_iff (rank : Rank) {c d : Cursor} {e : Expr} :
    (ofRank rank bottom levels).run c = ⟨.ok e, d⟩ ↔
      ∃ lexemes, c.Passes lexemes d ∧ d.depth = c.depth ∧ Derives rank levels lexemes e ∧
        rank.EndsBefore d.ahead := by
  constructor
  · exact sound_ofRank rank bottom levels c e d
  · rintro ⟨lexemes, passes, depth, phrase, ends⟩
    have brings : Brings bottom rank levels c e d := brings_of_derives phrase passes depth
    cases rank with
    | factor => exact brings
    | term => exact brings.trans (chainFrom_of_none ends e)
    | expression => exact (brings ends.1).trans (chainFrom_of_none ends.2 e)

end Parser

/-- Lexemes have at most one tree at a rank, whatever the nesting allowed. -/
theorem Derives.unique {rank : Rank} {levels more : Nat} {lexemes : List Lexeme} {x y : Expr}
    (first : Derives rank levels lexemes x) (second : Derives rank more lexemes y) : x = y := by
  have ends : rank.EndsBefore [] := by
    cases rank
    · trivial
    · rfl
    · exact ⟨rfl, rfl⟩
  let c : Cursor := ⟨lexemes, ⟨none, 0⟩, 0, 0⟩
  let d : Cursor := ⟨[], ⟨none, 0⟩, lexemes.length, 0⟩
  have passes : c.Passes lexemes d := ⟨by simp [c, d], rfl, by simp [c, d]⟩
  have read (e : Expr) (phrase : Derives rank (max levels more) lexemes e) :
      (Parser.ofRank rank .limit (max levels more)).run c = ⟨.ok e, d⟩ :=
    (Parser.run_ofRank_eq_ok_iff rank).mpr ⟨lexemes, passes, rfl, phrase, ends⟩
  have same := (read x (first.mono (Nat.le_max_left ..))).symm.trans
    (read y (second.mono (Nat.le_max_right ..)))
  simpa using same

theorem Cursor.expression_nestingLimit (c : Cursor) :
    c.expression nestingLimit = (Parser.expression .limit c.levels).run c := by
  have room : c.levels ≤ nestingLimit := Nat.sub_le ..
  rw [expression, bottom, if_neg (Nat.not_lt.mpr room), Nat.min_eq_left room]

/-- A whole parse reads an expression that ends at the end mark. -/
theorem Cursor.parse_eq_ok_iff {c d : Cursor} {e : Expr} :
    c.parse = ⟨.ok e, d⟩ ↔
      (Parser.ofRank .expression .limit c.levels).run c = ⟨.ok e, d⟩ ∧ d.ahead = [] := by
  rw [parse, expression_nestingLimit]
  change _ ↔ (Parser.expression .limit c.levels).run c = _ ∧ _
  rcases (Parser.expression .limit c.levels).run c with ⟨error | inside, m⟩
  · simp
  · rw [Reply.andThen_ok, token]
    cases behind : m.ahead with
    | nil =>
      simp only [Reply.mk.injEq, Except.ok.injEq]
      constructor
      · rintro ⟨rfl, rfl⟩
        exact ⟨⟨rfl, rfl⟩, behind⟩
      · exact And.left
    | cons l rest =>
      simp only [Reply.mk.injEq, Except.ok.injEq, reduceCtorEq, false_and, false_iff]
      rintro ⟨⟨rfl, rfl⟩, nothing⟩
      cases behind.symm.trans nothing

/-- A stream is parsed to a tree when it is an expression with that tree, and not otherwise. -/
theorem TokenStream.parse_eq_ok_iff {stream : TokenStream} {e : Expr} :
    stream.parse = .ok e ↔ Derives .expression nestingLimit stream.lexemes e := by
  let c := Cursor.start stream
  constructor
  · intro parsed
    have read : c.parse = ⟨.ok e, c.parse.cursor⟩ := by
      rw [← show c.parse.answer = .ok e from parsed]
    obtain ⟨expression, nothing⟩ := Cursor.parse_eq_ok_iff.mp read
    obtain ⟨lexemes, passes, -, phrase, -⟩ :=
      (Parser.run_ofRank_eq_ok_iff .expression).mp expression
    have whole : stream.lexemes = lexemes := by
      have ahead := passes.ahead
      rw [nothing, List.append_nil] at ahead
      exact ahead
    rw [whole]
    exact phrase
  · intro phrase
    have passes : c.Passes stream.lexemes ⟨[], stream.stop, stream.lexemes.length, 0⟩ :=
      ⟨by simp [c, Cursor.start], rfl, by simp [c, Cursor.start]⟩
    have read : c.parse = ⟨.ok e, ⟨[], stream.stop, stream.lexemes.length, 0⟩⟩ :=
      Cursor.parse_eq_ok_iff.mpr ⟨(Parser.run_ofRank_eq_ok_iff .expression).mpr
        ⟨stream.lexemes, passes, rfl, phrase, rfl, rfl⟩, rfl⟩
    exact congrArg Reply.answer read

end Reckoner
