import Mathlib.Data.List.Chain
import Reckoner.Grammar

/-! # What phrases look like

The derivations of the grammar, read in other ways: a chain of operands is its first operand and a
list of links, grouped to the left; where one operand has ended no other begins; and neither the
place nor the spelling of a lexeme bears on the trees it is part of.
-/

namespace Reckoner

/-- An operator and the operand behind it, with the tree of the operand. -/
structure Link where
  lexeme : Lexeme
  op : Operator
  operand : List Lexeme
  tree : Expr

/-- The lexemes are operands between operators of one level, and the tree groups them to the
left: every link takes all that stands before it as its left operand. -/
def LeftChain (level : Lexeme → Option Operator) (operand : List Lexeme → Expr → Prop)
    (lexemes : List Lexeme) (e : Expr) : Prop :=
  ∃ first x, ∃ links : List Link, operand first x ∧
    (∀ link ∈ links, level link.lexeme = some link.op ∧ operand link.operand link.tree) ∧
    lexemes = first ++ links.flatMap (fun link => link.lexeme :: link.operand) ∧
    e = links.foldl (fun left link => .binary link.op left link.tree) x

namespace LeftChain

variable {level : Lexeme → Option Operator} {operand : List Lexeme → Expr → Prop}

theorem single {lexemes : List Lexeme} {e : Expr} (only : operand lexemes e) :
    LeftChain level operand lexemes e :=
  ⟨lexemes, e, [], only, by simp, by simp, rfl⟩

theorem extend {front back : List Lexeme} {l : Lexeme} {op : Operator} {x y : Expr}
    (chain : LeftChain level operand front x) (operator : level l = some op)
    (last : operand back y) : LeftChain level operand (front ++ l :: back) (.binary op x y) := by
  obtain ⟨first, z, links, begins, linked, rfl, rfl⟩ := chain
  refine ⟨first, z, links ++ [⟨l, op, back, y⟩], begins, ?_, by simp, by simp⟩
  intro link member
  obtain member | member := List.mem_append.mp member
  · exact linked link member
  · obtain rfl := List.mem_singleton.mp member
    exact ⟨operator, last⟩

/-- What holds of an operand and passes from a chain to a longer one holds of every chain. -/
theorem rec_left {whole : List Lexeme → Expr → Prop} {lexemes : List Lexeme} {e : Expr}
    (single : ∀ {lexemes e}, operand lexemes e → whole lexemes e)
    (extend : ∀ {front l op x back y}, whole front x → level l = some op → operand back y →
      whole (front ++ l :: back) (.binary op x y))
    (chain : LeftChain level operand lexemes e) : whole lexemes e := by
  obtain ⟨first, x, links, begins, linked, rfl, rfl⟩ := chain
  have before : whole first x := single begins
  clear begins
  induction links generalizing first x with
  | nil => simpa using before
  | cons link links ih =>
    obtain ⟨operator, last⟩ := linked link (List.mem_cons_self ..)
    have longer := ih (first ++ link.lexeme :: link.operand) (.binary link.op x link.tree)
      (fun other member => linked other (List.mem_cons_of_mem _ member))
      (extend before operator last)
    simpa using longer

end LeftChain

namespace Derives

variable {rank : Rank} {levels : Nat} {lexemes : List Lexeme} {e : Expr}

theorem term_iff : Derives .term levels lexemes e ↔
    LeftChain Lexeme.multiplicative? (Derives .factor levels) lexemes e := by
  constructor
  · intro phrase
    generalize same : Rank.term = rank at phrase
    induction phrase with
    | number | group | ofTerm | sum => cases same
    | ofFactor phrase => exact .single phrase
    | product _ operator second ihFirst => exact (ihFirst rfl).extend operator second
  · exact LeftChain.rec_left .ofFactor .product

theorem expression_iff : Derives .expression levels lexemes e ↔
    LeftChain Lexeme.additive? (Derives .term levels) lexemes e := by
  constructor
  · intro phrase
    generalize same : Rank.expression = rank at phrase
    induction phrase with
    | number | group | ofFactor | product => cases same
    | ofTerm phrase => exact .single phrase
    | sum _ operator second ihFirst => exact (ihFirst rfl).extend operator second
  · exact LeftChain.rec_left .ofTerm .sum

/-- A factor is a number or an expression in parentheses, which leave no trace in the tree. -/
theorem factor_iff : Derives .factor levels lexemes e ↔
    (∃ value pos, lexemes = [.number value pos] ∧ e = .literal value) ∨
      ∃ deeper front inner back, levels = deeper + 1 ∧ lexemes = front :: (inner ++ [back]) ∧
        front.kind = .mark .opening ∧ back.kind = .mark .closing ∧
        Derives .expression deeper inner e := by
  constructor
  · intro phrase
    cases phrase with
    | number value pos => exact .inl ⟨value, pos, rfl, rfl⟩
    | group opens within closes => exact .inr ⟨_, _, _, _, rfl, rfl, opens, closes, within⟩
  · rintro (⟨value, pos, rfl, rfl⟩ | ⟨deeper, front, inner, back, rfl, rfl, opens, closes, within⟩)
    · exact .number value pos
    · exact .group opens within closes

theorem toExpression (phrase : Derives rank levels lexemes e) :
    Derives .expression levels lexemes e := by
  cases rank with
  | factor => exact .ofTerm (.ofFactor phrase)
  | term => exact .ofTerm phrase
  | expression => exact phrase

end Derives

namespace Lexeme

/-- Whether an operand may begin with the lexeme. -/
def BeginsOperand (l : Lexeme) : Prop :=
  l.kind = .number ∨ l.kind = .mark .opening

/-- Whether an operand may end with the lexeme. -/
def EndsOperand (l : Lexeme) : Prop :=
  l.kind = .number ∨ l.kind = .mark .closing

/-- Where an operand has ended, no other begins. -/
def MayPrecede (l next : Lexeme) : Prop :=
  l.EndsOperand → ¬next.BeginsOperand

theorem isOperator_of_level {l : Lexeme} {op : Operator}
    (operator : l.multiplicative? = some op ∨ l.additive? = some op) :
    ¬l.BeginsOperand ∧ ¬l.EndsOperand := by
  unfold BeginsOperand EndsOperand
  rcases operator with product | sum
  · rcases kind_of_multiplicative? product with ⟨kind, -⟩ | ⟨kind, -⟩
    all_goals simp [kind]
  · rcases kind_of_additive? sum with ⟨kind, -⟩ | ⟨kind, -⟩
    all_goals simp [kind]

end Lexeme

namespace Derives

variable {rank : Rank} {levels : Nat} {lexemes : List Lexeme} {e : Expr}

/-- Two phrases with an operator between them meet at no two operands. -/
private theorem isChain_join {left right : List Lexeme} {l : Lexeme} {op : Operator}
    (operator : l.multiplicative? = some op ∨ l.additive? = some op)
    (before : left.IsChain Lexeme.MayPrecede) (behind : right.IsChain Lexeme.MayPrecede) :
    (left ++ l :: right).IsChain Lexeme.MayPrecede := by
  obtain ⟨noBegin, noEnd⟩ := Lexeme.isOperator_of_level operator
  refine List.isChain_append.mpr ⟨before, List.isChain_cons.mpr ⟨?_, behind⟩, ?_⟩
  · intro next _ ended
    exact absurd ended noEnd
  · rintro last _ next ⟨⟩ _
    exact noBegin

theorem beginsOperand (phrase : Derives rank levels lexemes e) :
    ∀ l ∈ lexemes.head?, l.BeginsOperand := by
  induction phrase with
  | number value pos =>
    rintro l ⟨⟩
    exact .inl rfl
  | group opens =>
    rintro l ⟨⟩
    exact .inr opens
  | ofFactor _ ih | ofTerm _ ih => exact ih
  | product first _ _ ihFirst | sum first _ _ ihFirst =>
    rwa [List.head?_append_of_ne_nil _ first.ne_nil]

/-- Nowhere in a phrase does an operand begin where another has ended. -/
theorem isChain (phrase : Derives rank levels lexemes e) :
    lexemes.IsChain Lexeme.MayPrecede := by
  induction phrase with
  | number value pos => exact .singleton _
  | @group _ front back inner _ opens _ closes ih =>
    have noEnd : ¬front.EndsOperand := by simp [Lexeme.EndsOperand, opens]
    have noBegin : ¬back.BeginsOperand := by simp [Lexeme.BeginsOperand, closes]
    refine List.isChain_cons.mpr ⟨?_, List.isChain_append.mpr ⟨ih, .singleton _, ?_⟩⟩
    · intro next _ ended
      exact absurd ended noEnd
    · rintro last _ next ⟨⟩ _
      exact noBegin
  | ofFactor _ ih | ofTerm _ ih => exact ih
  | product _ operator _ ihFirst ihSecond => exact isChain_join (.inl operator) ihFirst ihSecond
  | sum _ operator _ ihFirst ihSecond => exact isChain_join (.inr operator) ihFirst ihSecond

end Derives

namespace Lexeme

/-- The lexeme without its place and its spelling. -/
def bare : Lexeme → Lexeme
  | .number value _ => .number value 0
  | .mark m _ _ => .mark m none 0

@[simp] theorem kind_bare (l : Lexeme) : l.bare.kind = l.kind := by
  cases l <;> rfl

theorem kind_eq_of_bare_eq {l l' : Lexeme} (same : l.bare = l'.bare) : l.kind = l'.kind := by
  rw [← kind_bare l, same, kind_bare]

@[simp] theorem multiplicative?_bare (l : Lexeme) : l.bare.multiplicative? = l.multiplicative? := by
  match l with
  | .number .. => rfl
  | .mark m .. => cases m <;> rfl

@[simp] theorem additive?_bare (l : Lexeme) : l.bare.additive? = l.additive? := by
  match l with
  | .number .. => rfl
  | .mark m .. => cases m <;> rfl

end Lexeme

/-- Lexemes that differ in places and spellings alone are phrases of the same trees. -/
theorem Derives.of_bare {rank : Rank} {levels : Nat} {lexemes others : List Lexeme} {e : Expr}
    (phrase : Derives rank levels lexemes e)
    (same : others.map Lexeme.bare = lexemes.map Lexeme.bare) : Derives rank levels others e := by
  induction phrase generalizing others with
  | number value pos =>
    obtain ⟨l, rest, rfl, isNumber, nothing⟩ := List.map_eq_cons_iff.mp same
    obtain rfl := List.map_eq_nil_iff.mp nothing
    match l with
    | .number value' pos' =>
      obtain rfl : value' = value := by simpa [Lexeme.bare] using isNumber
      exact .number value' pos'
    | .mark .. => cases isNumber
  | group opens _ closes ih =>
    obtain ⟨front, rest, rfl, sameFront, sameRest⟩ := List.map_eq_cons_iff.mp same
    rw [List.map_append] at sameRest
    obtain ⟨inner, last, rfl, sameInner, sameLast⟩ := List.map_eq_append_iff.mp sameRest
    obtain ⟨back, rest, rfl, sameBack, nothing⟩ := List.map_eq_cons_iff.mp sameLast
    obtain rfl := List.map_eq_nil_iff.mp nothing
    exact .group ((Lexeme.kind_eq_of_bare_eq sameFront).trans opens) (ih sameInner)
      ((Lexeme.kind_eq_of_bare_eq sameBack).trans closes)
  | ofFactor _ ih => exact .ofFactor (ih same)
  | ofTerm _ ih => exact .ofTerm (ih same)
  | product _ operator _ ihFirst ihSecond =>
    rw [List.map_append] at same
    obtain ⟨left, rest, rfl, sameLeft, sameRest⟩ := List.map_eq_append_iff.mp same
    obtain ⟨l, right, rfl, sameLexeme, sameRight⟩ := List.map_eq_cons_iff.mp sameRest
    refine .product (ihFirst sameLeft) ?_ (ihSecond sameRight)
    rw [← Lexeme.multiplicative?_bare, sameLexeme, Lexeme.multiplicative?_bare, operator]
  | sum _ operator _ ihFirst ihSecond =>
    rw [List.map_append] at same
    obtain ⟨left, rest, rfl, sameLeft, sameRest⟩ := List.map_eq_append_iff.mp same
    obtain ⟨l, right, rfl, sameLexeme, sameRight⟩ := List.map_eq_cons_iff.mp sameRest
    refine .sum (ihFirst sameLeft) ?_ (ihSecond sameRight)
    rw [← Lexeme.additive?_bare, sameLexeme, Lexeme.additive?_bare, operator]

end Reckoner
