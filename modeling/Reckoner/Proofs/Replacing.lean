import Reckoner.Proofs.Spacing

/-! # Replacing what stands in parentheses

A phrase closes the parentheses that it opens and no others. So where an expression stands in
parentheses within a phrase, no part of the phrase begins or ends between them: together they are
a factor of it, whatever stands around. Another expression can take the place of the first, and
when it has the same value, so has the whole.
-/

namespace Reckoner

section

variable {whole before inner after left right : List Lexeme} {l front back last : Lexeme}

/-- Closed lexemes do not end within a group. -/
theorem Closed.not_within (outer : Closed (before ++ front :: inner))
    (opens : front.kind = .mark .opening) (nonneg : 0 ≤ surplus inner) : False := by
  have first := outer.nonneg before (List.prefix_append ..)
  have settled := outer.settled
  rw [surplus_append, ← List.singleton_append, surplus_append, surplus_opening opens] at settled
  omega

theorem Lexeme.kind_ne_of_plain (plain : l.parenthesis? = none) :
    l.kind ≠ .mark .opening ∧ l.kind ≠ .mark .closing := by
  constructor <;> intro kind <;> simp [parenthesis?, kind] at plain

/-- A group stands on one side of a lexeme that is no parenthesis, if what that has on its left is
closed. -/
theorem Closed.side_of_group (outer : Closed left) (within : Closed inner)
    (opens : front.kind = .mark .opening) (closes : back.kind = .mark .closing)
    (plain : l.parenthesis? = none)
    (same : left ++ l :: right = before ++ front :: (inner ++ back :: after)) :
    (∃ more, left = before ++ front :: (inner ++ back :: more) ∧ after = more ++ l :: right) ∨
      ∃ more, right = more ++ front :: (inner ++ back :: after) ∧ before = left ++ l :: more := by
  rcases List.append_eq_append_iff.mp same with ⟨more, rfl, behind⟩ | ⟨more, rfl, behind⟩
  · rcases List.cons_eq_append_iff.mp behind with ⟨rfl, first⟩ | ⟨more, rfl, right⟩
    · obtain rfl : front = l := (List.cons.inj first).1
      exact absurd opens (Lexeme.kind_ne_of_plain plain).1
    · exact .inr ⟨more, right, rfl⟩
  · rcases List.cons_eq_append_iff.mp behind with ⟨rfl, first⟩ | ⟨part, rfl, inside⟩
    · obtain rfl : l = front := (List.cons.inj first).1
      exact absurd opens (Lexeme.kind_ne_of_plain plain).1
    · rcases List.append_eq_append_iff.mp inside with ⟨rest, rfl, further⟩ | ⟨rest, rfl, -⟩
      · rcases List.cons_eq_append_iff.mp further with ⟨rfl, first⟩ | ⟨more, rfl, rfl⟩
        · obtain rfl : l = back := (List.cons.inj first).1
          exact absurd closes (Lexeme.kind_ne_of_plain plain).2
        · exact .inl ⟨more, rfl, rfl⟩
      · exact (outer.not_within opens (within.nonneg part (List.prefix_append ..))).elim

/-- A group at the beginning of a group is the whole of it. -/
theorem Closed.eq_of_group (outer : Closed whole) (within : Closed inner)
    (closes : back.kind = .mark .closing) (same : whole ++ [last] = inner ++ back :: after) :
    whole = inner ∧ after = [] := by
  rcases List.append_eq_append_iff.mp same with ⟨rest, rfl, behind⟩ | ⟨rest, rfl, behind⟩
  · rcases List.cons_eq_append_iff.mp behind with ⟨rfl, first⟩ | ⟨more, -, nothing⟩
    · rw [List.append_nil]
      exact ⟨rfl, (List.cons.inj first).2⟩
    · simp at nothing
  · rcases List.cons_eq_append_iff.mp behind with ⟨rfl, first⟩ | ⟨more, rfl, -⟩
    · rw [List.append_nil]
      exact ⟨rfl, (List.cons.inj first).2.symm⟩
    · have nonneg := outer.nonneg (inner ++ [back]) ⟨more, by simp⟩
      rw [surplus_append, within.settled, surplus_closing closes] at nonneg
      exact absurd nonneg (by decide)

/-- Any other group within a group stands inside. -/
theorem Closed.inside_of_group (outer : Closed whole) (within : Closed inner)
    (opens : front.kind = .mark .opening)
    (same : whole ++ [last] = before ++ front :: (inner ++ back :: after)) :
    ∃ more, whole = before ++ front :: (inner ++ back :: more) ∧ after = more ++ [last] := by
  rcases List.eq_nil_or_concat after with rfl | ⟨more, other, rfl⟩
  · have parts : whole ++ [last] = (before ++ front :: inner) ++ [back] := by simpa using same
    obtain ⟨rfl, -⟩ := List.append_inj' parts rfl
    exact (outer.not_within opens (Int.le_of_eq within.settled.symm)).elim
  · have parts : whole ++ [last] = (before ++ front :: (inner ++ back :: more)) ++ [other] := by
      simpa using same
    obtain ⟨rfl, one⟩ := List.append_inj' parts rfl
    obtain rfl := (List.cons.inj one).1
    exact ⟨more, rfl, List.concat_eq_append⟩

end

section

variable {inner other : List Lexeme} {front back : Lexeme}

/-- If a group can be replaced in the operands of an operation, it can be in the whole: it stands
in one of them, and the other one stays. -/
theorem Closed.replace_operand {left right before after : List Lexeme} {l : Lexeme} {op : Operator}
    {u v : Expr} {first second : List Lexeme → Expr → Prop} (outer : Closed left)
    (within : Closed inner) (opens : front.kind = .mark .opening)
    (closes : back.kind = .mark .closing) (plain : l.parenthesis? = none)
    (same : left ++ l :: right = before ++ front :: (inner ++ back :: after))
    (holdsFirst : first left u) (holdsSecond : second right v)
    (replaceFirst : ∀ {before after}, left = before ++ front :: (inner ++ back :: after) →
      ∃ u', first (before ++ front :: (other ++ back :: after)) u' ∧ u'.value = u.value)
    (replaceSecond : ∀ {before after}, right = before ++ front :: (inner ++ back :: after) →
      ∃ v', second (before ++ front :: (other ++ back :: after)) v' ∧ v'.value = v.value) :
    ∃ left' right' u' v',
      before ++ front :: (other ++ back :: after) = left' ++ l :: right' ∧ first left' u' ∧
        second right' v' ∧ (Expr.binary op u' v').value = (Expr.binary op u v).value := by
  rcases outer.side_of_group within opens closes plain same with
    ⟨more, inLeft, rfl⟩ | ⟨more, inRight, rfl⟩
  · obtain ⟨u', holds, value⟩ := replaceFirst inLeft
    refine ⟨_, right, u', v, ?_, holds, holdsSecond, ?_⟩
    · simp
    · simp only [Expr.value, value]
  · obtain ⟨v', holds, value⟩ := replaceSecond inRight
    refine ⟨left, _, u, v', ?_, holdsFirst, holds, ?_⟩
    · simp
    · simp only [Expr.value, value]

/-- What stands in parentheses within a phrase may be replaced by another expression of the same
value: that gives a phrase of the same value. -/
theorem Derives.replace {rank : Rank} {levels deeper : Nat} {lexemes before after : List Lexeme}
    {e x y : Expr} (phrase : Derives rank levels lexemes e) (opens : front.kind = .mark .opening)
    (closes : back.kind = .mark .closing) (within : Derives .expression deeper inner x)
    (instead : Derives .expression deeper other y) (alike : y.value = x.value)
    (same : lexemes = before ++ front :: (inner ++ back :: after)) :
    ∃ e', Derives rank (levels + deeper) (before ++ front :: (other ++ back :: after)) e' ∧
      e'.value = e.value := by
  induction phrase generalizing before after with
  | number value pos =>
    have lengths := congrArg List.length same
    simp only [List.length_append, List.length_cons, List.length_nil] at lengths
    omega
  | @group levels first last whole e opensWhole phrase closesWhole ih =>
    rcases List.cons_eq_append_iff.mp same with ⟨rfl, whole⟩ | ⟨before, rfl, further⟩
    · obtain ⟨rfl, rest⟩ := List.cons.inj whole
      obtain ⟨rfl, rfl⟩ := phrase.closed.eq_of_group within.closed closes rest.symm
      obtain rfl := phrase.unique within
      exact ⟨y, (Derives.group opens instead closes).mono (by omega), alike⟩
    · obtain ⟨more, inside, rfl⟩ := phrase.closed.inside_of_group within.closed opens further
      obtain ⟨e', replaced, value⟩ := ih inside
      refine ⟨e', ?_, value⟩
      rw [Nat.add_right_comm]
      simpa using Derives.group opensWhole replaced closesWhole
  | ofFactor _ ih =>
    obtain ⟨e', replaced, value⟩ := ih same
    exact ⟨e', .ofFactor replaced, value⟩
  | ofTerm _ ih =>
    obtain ⟨e', replaced, value⟩ := ih same
    exact ⟨e', .ofTerm replaced, value⟩
  | product first operator second ihFirst ihSecond =>
    obtain ⟨left, right, u, v, parts, first, second, value⟩ :=
      first.closed.replace_operand within.closed opens closes
        (Lexeme.parenthesis?_of_operator (.inl operator)) same (first.mono (Nat.le_add_right ..))
        (second.mono (Nat.le_add_right ..)) ihFirst ihSecond
    rw [parts]
    exact ⟨_, .product first operator second, value⟩
  | sum first operator second ihFirst ihSecond =>
    obtain ⟨left, right, u, v, parts, first, second, value⟩ :=
      first.closed.replace_operand within.closed opens closes
        (Lexeme.parenthesis?_of_operator (.inr operator)) same (first.mono (Nat.le_add_right ..))
        (second.mono (Nat.le_add_right ..)) ihFirst ihSecond
    rw [parts]
    exact ⟨_, .sum first operator second, value⟩

end

/-- A text between parentheses, with other texts around it. -/
def inParentheses (before text after : String) : String :=
  before ++ "(" ++ text ++ ")" ++ after

/-- The lexemes of an expression in parentheses, with others around them. -/
def groupWithin (before inner after : List Lexeme) : List Lexeme :=
  before ++ .mark .opening none 0 :: (inner ++ .mark .closing none 0 :: after)

/-- The outline of a text is cut at parentheses. -/
theorem outline_inParentheses (before text after : String) :
    outline (inParentheses before text after).toList = (do
      let front ← outline before.toList
      let inner ← outline text.toList
      let back ← outline after.toList
      return groupWithin front inner back) := by
  have parts : (inParentheses before text after).toList =
      before.toList ++ '(' :: (text.toList ++ ')' :: after.toList) := by
    simp [inParentheses]
  rw [parts, outline_append_mark (show Mark.ofChar? '(' = some .opening from rfl),
    outline_append_mark (show Mark.ofChar? ')' = some .closing from rfl)]
  cases outline before.toList with
  | error kind => rfl
  | ok front =>
    cases outline text.toList with
    | error kind => rfl
    | ok inner => cases outline after.toList <;> rfl

/-- The parentheses of a text are those of its outline. -/
theorem parentheses_outline {text : List Char} {lexemes : List Lexeme}
    (read : outline text = .ok lexemes) : parentheses lexemes = text.filter isParenthesis := by
  rw [outline] at read
  cases scanned : TokenStream.scanFrom 0 text with
  | error error =>
    rw [scanned] at read
    cases read
  | ok stream =>
    rw [scanned] at read
    obtain rfl := Except.ok.inj read
    have bare (l : Lexeme) : l.bare.parenthesis? = l.parenthesis? := by
      rw [Lexeme.parenthesis?, Lexeme.kind_bare, Lexeme.parenthesis?]
    rw [← parentheses_scanFrom scanned, parentheses, List.filterMap_map, parentheses]
    exact List.filterMap_congr fun l _ => bare l

/-- In a text too, what stands in parentheses may be replaced, if the new text does not nest too
deep. -/
theorem Derives.replace_in_text {text : String} {before inner other after : List Lexeme}
    {e x y : Expr} (phrase : Derives .expression nestingLimit (groupWithin before inner after) e)
    (within : Derives .expression nestingLimit inner x)
    (instead : Derives .expression nestingLimit other y) (alike : y.value = x.value)
    (read : outline text.toList = .ok (groupWithin before other after))
    (nests : NestsWithin nestingLimit text.toList) :
    ∃ e', Derives .expression nestingLimit (groupWithin before other after) e' ∧
      e'.value = e.value := by
  obtain ⟨e', replaced, value⟩ := phrase.replace rfl rfl within instead alike rfl
  refine ⟨e', replaced.of_nestsWithin ?_, value⟩
  rw [← NestsWithin.filter_iff, ← parentheses_outline read] at nests
  exact nests

/-- The text is an expression, and this is what becomes of evaluating it. -/
def Reckons (text : String) (result : Except EvalError Int) : Prop :=
  ∃ stream e, TokenStream.scan text = .ok stream ∧ stream.parse = .ok e ∧ e.evaluate = result

theorem reckons_iff {text : String} {result : Except EvalError Int} :
    Reckons text result ↔ ∃ e, HasTree text.toList e ∧ e.value = result := by
  simp only [hasTree_iff, ← Expr.evaluate_eq, Reckons]
  constructor
  · rintro ⟨stream, e, scanned, parsed, value⟩
    exact ⟨e, ⟨stream, scanned, parsed⟩, value⟩
  · rintro ⟨e, ⟨stream, scanned, parsed⟩, value⟩
    exact ⟨stream, e, scanned, parsed, value⟩

/-- An expression in parentheses may be replaced by another one that evaluates alike, in any
surroundings, be they an expression or not, as long as neither text opens too many parentheses. -/
theorem replaced_answered_alike {first second : String} {result : Except EvalError Int}
    (reckonsFirst : Reckons first result) (reckonsSecond : Reckons second result)
    (before after : String)
    (nestsFirst : NestsWithin nestingLimit (inParentheses before first after).toList)
    (nestsSecond : NestsWithin nestingLimit (inParentheses before second after).toList) :
    AnsweredAlike (inParentheses before first after) (inParentheses before second after) := by
  obtain ⟨x, treeFirst, valueFirst⟩ := reckons_iff.mp reckonsFirst
  obtain ⟨y, treeSecond, valueSecond⟩ := reckons_iff.mp reckonsSecond
  obtain ⟨inner, readFirst, within⟩ := exists_outline_of_hasTree treeFirst
  obtain ⟨other, readSecond, instead⟩ := exists_outline_of_hasTree treeSecond
  have alike : y.value = x.value := valueSecond.trans valueFirst.symm
  have wholeFirst := outline_inParentheses before first after
  have wholeSecond := outline_inParentheses before second after
  rw [readFirst] at wholeFirst
  rw [readSecond] at wholeSecond
  match readBefore : outline before.toList, readAfter : outline after.toList with
  | .error kind, _ =>
    rw [readBefore] at wholeFirst wholeSecond
    exact .of_error wholeFirst wholeSecond
  | .ok front, .error kind =>
    rw [readBefore, readAfter] at wholeFirst wholeSecond
    exact .of_error wholeFirst wholeSecond
  | .ok front, .ok back =>
    rw [readBefore, readAfter] at wholeFirst wholeSecond
    apply AnsweredAlike.of_trees wholeFirst wholeSecond
    · intro e phrase
      exact phrase.replace_in_text within instead alike wholeSecond nestsSecond
    · intro e phrase
      exact phrase.replace_in_text instead within alike.symm wholeFirst nestsFirst

/-- A quotient and its value may replace each other, also where the whole is no expression. -/
theorem replaced_answered_alike_quotient :
    Reckons "6/4" (.ok 1) ∧ Reckons "1" (.ok 1) ∧
      NestsWithin nestingLimit (inParentheses "8*" "6/4" "-)").toList ∧
      NestsWithin nestingLimit (inParentheses "8*" "1" "-)").toList ∧
      AnsweredAlike (inParentheses "8*" "6/4" "-)") (inParentheses "8*" "1" "-)") := by
  have quotient : Reckons "6/4" (.ok 1) :=
    ⟨⟨[.number 6 0, .mark .slash (some "/") 1, .number 4 2], ⟨none, 3⟩⟩,
      .binary .slash (.literal 6) (.literal 4), by decide +kernel, by decide +kernel,
      by decide +kernel⟩
  have value : Reckons "1" (.ok 1) :=
    ⟨⟨[.number 1 0], ⟨none, 1⟩⟩, .literal 1, by decide +kernel, by decide +kernel,
      by decide +kernel⟩
  have nests : NestsWithin nestingLimit (inParentheses "8*" "6/4" "-)").toList :=
    .of_count_le (by decide)
  have nestsValue : NestsWithin nestingLimit (inParentheses "8*" "1" "-)").toList :=
    .of_count_le (by decide)
  exact ⟨quotient, value, nests, nestsValue,
    replaced_answered_alike quotient value "8*" "-)" nests nestsValue⟩

end Reckoner
