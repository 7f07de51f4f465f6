import Reckoner.Expr.Print
import Reckoner.Proofs.Scanning

/-! # How deep parentheses nest

In a phrase every parenthesis that opens is closed, and the parentheses of a text are those of its
lexemes. So the levels that a derivation needs can be counted along the text.
-/

namespace Reckoner

def isParenthesis (c : Char) : Bool :=
  c = '(' || c = ')'

/-- Whether as many parentheses are closed as have been opened. -/
def Balanced (text : List Char) : Prop :=
  text.count '(' = text.count ')'

namespace NestsWithin

variable {levels : Nat} {text front back inner : List Char}

theorem filter_iff : NestsWithin levels (text.filter isParenthesis) ↔ NestsWithin levels text := by
  have kept (part : List Char) : (part.filter isParenthesis).count '(' = part.count '(' ∧
      (part.filter isParenthesis).count ')' = part.count ')' :=
    ⟨List.count_filter rfl, List.count_filter rfl⟩
  constructor
  · intro nests front leading
    have bound := nests _ (leading.filter isParenthesis)
    rwa [(kept front).1, (kept front).2] at bound
  · intro nests front leading
    obtain ⟨whole, leads, rfl⟩ := List.prefix_filter_iff.mp leading
    rw [(kept whole).1, (kept whole).2]
    exact nests whole leads

/-- A text nests no deeper than it opens parentheses. -/
theorem of_count_le (few : text.count '(' ≤ levels) : NestsWithin levels text := by
  intro front leading
  exact (leading.sublist.count_le '(').trans (few.trans (Nat.le_add_left ..))

/-- Behind balanced parentheses the count begins anew. -/
theorem append_iff (balanced : Balanced front) :
    NestsWithin levels (front ++ back) ↔ NestsWithin levels front ∧ NestsWithin levels back := by
  constructor
  · intro nests
    refine ⟨fun part leading => nests part (leading.trans (List.prefix_append ..)), ?_⟩
    intro part leading
    have bound := nests (front ++ part) ((List.prefix_append_right_inj front).mpr leading)
    rw [List.count_append, List.count_append, balanced] at bound
    omega
  · rintro ⟨first, second⟩ part leading
    obtain within | beyond := List.prefix_or_prefix_of_prefix leading (List.prefix_append ..)
    · exact first part within
    · obtain ⟨rest, rfl⟩ := beyond
      have bound := second rest ((List.prefix_append_right_inj front).mp leading)
      rw [List.count_append, List.count_append, balanced]
      omega

theorem opening_iff :
    NestsWithin levels ('(' :: text) ↔ ∃ deeper, levels = deeper + 1 ∧ NestsWithin deeper text := by
  have counts (part : List Char) : ('(' :: part).count '(' = part.count '(' + 1 ∧
      ('(' :: part).count ')' = part.count ')' :=
    ⟨List.count_cons_self, List.count_cons_of_ne (by decide)⟩
  constructor
  · intro nests
    have first := nests ['('] ⟨text, rfl⟩
    rw [(counts []).1, (counts []).2] at first
    refine ⟨levels - 1, by simp at first; omega, ?_⟩
    intro part leading
    have bound := nests ('(' :: part) (List.cons_prefix_cons.mpr ⟨rfl, leading⟩)
    rw [(counts part).1, (counts part).2] at bound
    omega
  · rintro ⟨deeper, rfl, nests⟩ part leading
    obtain rfl | ⟨rest, rfl, leads⟩ := List.prefix_cons_iff.mp leading
    · exact Nat.zero_le _
    · have bound := nests rest leads
      rw [(counts rest).1, (counts rest).2]
      omega

/-- Parentheses around a balanced text take one level more than the text. -/
theorem group_iff (balanced : Balanced inner) :
    NestsWithin levels ('(' :: (inner ++ [')'])) ↔
      ∃ deeper, levels = deeper + 1 ∧ NestsWithin deeper inner := by
  have closing (deeper : Nat) : NestsWithin deeper [')'] := of_count_le (Nat.zero_le _)
  rw [opening_iff]
  constructor
  · rintro ⟨deeper, same, nests⟩
    exact ⟨deeper, same, ((append_iff balanced).mp nests).1⟩
  · rintro ⟨deeper, same, nests⟩
    exact ⟨deeper, same, (append_iff balanced).mpr ⟨nests, closing deeper⟩⟩

end NestsWithin

/-- The parenthesis that a lexeme stands for. -/
def Lexeme.parenthesis? (l : Lexeme) : Option Char :=
  match l.kind with
  | .mark .opening => some '('
  | .mark .closing => some ')'
  | _ => none

def parentheses (lexemes : List Lexeme) : List Char :=
  lexemes.filterMap Lexeme.parenthesis?

theorem parentheses_append (front back : List Lexeme) :
    parentheses (front ++ back) = parentheses front ++ parentheses back :=
  List.filterMap_append

theorem parentheses_number (value pos : Int) : parentheses [.number value pos] = [] := rfl

theorem parentheses_group {front back : Lexeme} (opens : front.kind = .mark .opening)
    (closes : back.kind = .mark .closing) (inner : List Lexeme) :
    parentheses (front :: (inner ++ [back])) = '(' :: (parentheses inner ++ [')']) := by
  have first : front.parenthesis? = some '(' := by rw [Lexeme.parenthesis?, opens]
  have last : back.parenthesis? = some ')' := by rw [Lexeme.parenthesis?, closes]
  simp [parentheses, List.filterMap_append, first, last]

theorem Lexeme.parenthesis?_of_operator {l : Lexeme} {op : Operator}
    (operator : l.multiplicative? = some op ∨ l.additive? = some op) : l.parenthesis? = none := by
  unfold parenthesis?
  rcases operator with product | sum
  · rcases kind_of_multiplicative? product with ⟨kind, -⟩ | ⟨kind, -⟩
    all_goals rw [kind]
  · rcases kind_of_additive? sum with ⟨kind, -⟩ | ⟨kind, -⟩
    all_goals rw [kind]

theorem parentheses_operator {l : Lexeme} {op : Operator}
    (operator : l.multiplicative? = some op ∨ l.additive? = some op) (left right : List Lexeme) :
    parentheses (left ++ l :: right) = parentheses left ++ parentheses right := by
  simp [parentheses, List.filterMap_append, Lexeme.parenthesis?_of_operator operator]

namespace Derives

variable {rank : Rank} {levels deeper : Nat} {lexemes : List Lexeme} {e : Expr}

theorem balanced (phrase : Derives rank levels lexemes e) : Balanced (parentheses lexemes) := by
  induction phrase with
  | number value pos => rfl
  | group opens _ closes ih =>
    rw [parentheses_group opens closes]
    simpa [Balanced] using ih
  | ofFactor _ ih | ofTerm _ ih => exact ih
  | product _ operator _ ihFirst ihSecond =>
    rw [parentheses_operator (.inl operator), Balanced, List.count_append, List.count_append,
      ihFirst, ihSecond]
  | sum _ operator _ ihFirst ihSecond =>
    rw [parentheses_operator (.inr operator), Balanced, List.count_append, List.count_append,
      ihFirst, ihSecond]

theorem nestsWithin (phrase : Derives rank levels lexemes e) :
    NestsWithin levels (parentheses lexemes) := by
  induction phrase with
  | number value pos =>
    intro part leading
    rw [List.prefix_nil.mp leading]
    exact Nat.zero_le _
  | group opens within closes ih =>
    rw [parentheses_group opens closes]
    exact (NestsWithin.group_iff within.balanced).mpr ⟨_, rfl, ih⟩
  | ofFactor _ ih | ofTerm _ ih => exact ih
  | product first operator _ ihFirst ihSecond =>
    rw [parentheses_operator (.inl operator)]
    exact (NestsWithin.append_iff first.balanced).mpr ⟨ihFirst, ihSecond⟩
  | sum first operator _ ihFirst ihSecond =>
    rw [parentheses_operator (.inr operator)]
    exact (NestsWithin.append_iff first.balanced).mpr ⟨ihFirst, ihSecond⟩

/-- A phrase needs no more levels than its parentheses nest. -/
theorem of_nestsWithin (phrase : Derives rank deeper lexemes e)
    (nests : NestsWithin levels (parentheses lexemes)) : Derives rank levels lexemes e := by
  induction phrase generalizing levels with
  | number value pos => exact .number value pos
  | group opens within closes ih =>
    rw [parentheses_group opens closes] at nests
    obtain ⟨fewer, rfl, inside⟩ := (NestsWithin.group_iff within.balanced).mp nests
    exact .group opens (ih inside) closes
  | ofFactor _ ih => exact .ofFactor (ih nests)
  | product first operator _ ihFirst ihSecond =>
    rw [parentheses_operator (.inl operator)] at nests
    obtain ⟨left, right⟩ := (NestsWithin.append_iff first.balanced).mp nests
    exact .product (ihFirst left) operator (ihSecond right)
  | ofTerm _ ih => exact .ofTerm (ih nests)
  | sum first operator _ ihFirst ihSecond =>
    rw [parentheses_operator (.inr operator)] at nests
    obtain ⟨left, right⟩ := (NestsWithin.append_iff first.balanced).mp nests
    exact .sum (ihFirst left) operator (ihSecond right)

end Derives

def surplus (lexemes : List Lexeme) : Int :=
  ((parentheses lexemes).count '(' : Int) - (parentheses lexemes).count ')'

theorem surplus_append (front back : List Lexeme) :
    surplus (front ++ back) = surplus front + surplus back := by
  rw [surplus, parentheses_append, List.count_append, List.count_append, surplus, surplus]
  omega

theorem surplus_cons (l : Lexeme) (rest : List Lexeme) :
    surplus (l :: rest) = surplus [l] + surplus rest :=
  surplus_append [l] rest

theorem surplus_plain {l : Lexeme} (plain : l.parenthesis? = none) : surplus [l] = 0 := by
  simp [surplus, parentheses, plain]

theorem surplus_opening {l : Lexeme} (opens : l.kind = .mark .opening) : surplus [l] = 1 := by
  simp [surplus, parentheses, Lexeme.parenthesis?, opens]

theorem surplus_closing {l : Lexeme} (closes : l.kind = .mark .closing) : surplus [l] = -1 := by
  simp [surplus, parentheses, Lexeme.parenthesis?, closes]

/-- The lexemes close the parentheses that they open, and no others. -/
structure Closed (lexemes : List Lexeme) : Prop where
  settled : surplus lexemes = 0
  nonneg : ∀ part, part <+: lexemes → 0 ≤ surplus part

namespace Closed

variable {left right inner : List Lexeme} {l front back : Lexeme}

theorem plain (plain : l.parenthesis? = none) : Closed [l] := by
  refine ⟨surplus_plain plain, ?_⟩
  intro part leading
  rcases List.prefix_cons_iff.mp leading with rfl | ⟨rest, rfl, nothing⟩
  · exact Int.le_refl _
  · obtain rfl := List.prefix_nil.mp nothing
    exact Int.le_of_eq (surplus_plain plain).symm

theorem append (first : Closed left) (second : Closed right) : Closed (left ++ right) := by
  refine ⟨?_, ?_⟩
  · rw [surplus_append, first.settled, second.settled, Int.add_zero]
  · intro part leading
    obtain within | beyond := List.prefix_or_prefix_of_prefix leading (List.prefix_append ..)
    · exact first.nonneg part within
    · obtain ⟨rest, rfl⟩ := beyond
      rw [surplus_append, first.settled, Int.zero_add]
      exact second.nonneg rest ((List.prefix_append_right_inj left).mp leading)

theorem group (opens : front.kind = .mark .opening) (within : Closed inner)
    (closes : back.kind = .mark .closing) : Closed (front :: (inner ++ [back])) := by
  have settled : surplus (front :: (inner ++ [back])) = 0 := by
    rw [surplus_cons, surplus_opening opens, surplus_append, within.settled,
      surplus_closing closes]
    rfl
  refine ⟨settled, ?_⟩
  intro part leading
  rcases List.prefix_cons_iff.mp leading with rfl | ⟨rest, rfl, further⟩
  · exact Int.le_refl _
  · rcases List.prefix_concat_iff.mp further with rfl | inside
    · exact Int.le_of_eq settled.symm
    · rw [surplus_cons, surplus_opening opens]
      have nonneg := within.nonneg rest inside
      omega

end Closed

theorem Derives.closed {rank : Rank} {levels : Nat} {lexemes : List Lexeme} {e : Expr}
    (phrase : Derives rank levels lexemes e) : Closed lexemes := by
  induction phrase with
  | number value pos => exact .plain rfl
  | group opens _ closes ih => exact .group opens ih closes
  | ofFactor _ ih | ofTerm _ ih => exact ih
  | product _ operator _ ihFirst ihSecond =>
    exact ihFirst.append ((Closed.plain (Lexeme.parenthesis?_of_operator (.inl operator))).append
      ihSecond)
  | sum _ operator _ ihFirst ihSecond =>
    exact ihFirst.append ((Closed.plain (Lexeme.parenthesis?_of_operator (.inr operator))).append
      ihSecond)

/-- What is put in front of a stream was read in front of it. -/
theorem exists_of_map_prepend {new : List Lexeme} {read : Except LexicalError TokenStream}
    {stream : TokenStream} (prepended : read.map (TokenStream.prepend new) = .ok stream) :
    ∃ rest, read = .ok rest ∧ stream.lexemes = new ++ rest.lexemes := by
  match read with
  | .error error => cases prepended
  | .ok rest =>
    cases prepended
    exact ⟨rest, rfl, rfl⟩

theorem parentheses_mark {c : Char} {m : Mark} (mark : Mark.ofChar? c = some m)
    (spelling : Option String) (pos : Int) :
    parentheses [.mark m spelling pos] = [c].filter isParenthesis := by
  have each : ∀ pair ∈ Mark.characters,
      parentheses [.mark pair.2 spelling pos] = [pair.1].filter isParenthesis := by
    simp [Mark.characters, parentheses, Lexeme.parenthesis?, Lexeme.kind, isParenthesis]
  exact each _ (Mark.ofChar?_eq_some_iff.mp mark)

theorem parentheses_scanFrom {pos : Nat} {text : List Char} {stream : TokenStream}
    (read : TokenStream.scanFrom pos text = .ok stream) :
    parentheses stream.lexemes = text.filter isParenthesis := by
  induction text using scanInduction generalizing pos stream with
  | nil =>
    rw [TokenStream.scanFrom_nil] at read
    cases read
    rfl
  | space rest ih =>
    rw [TokenStream.scanFrom_space] at read
    exact ih read
  | mark c m rest mark ih =>
    rw [TokenStream.scanFrom_mark mark] at read
    obtain ⟨tail, readTail, lexemes⟩ := exists_of_map_prepend read
    rw [lexemes, parentheses_append, parentheses_mark mark, ih readTail, ← List.filter_append]
    rfl
  | run run rest nonempty digits maximal ih =>
    rw [TokenStream.scanFrom_run nonempty digits maximal] at read
    split at read
    · cases read
    · obtain ⟨tail, readTail, lexemes⟩ := exists_of_map_prepend read
      have none : run.filter isParenthesis = [] := by
        rw [List.filter_eq_nil_iff]
        intro c member parenthesis
        have digit := digits c member
        obtain rfl | rfl : c = '(' ∨ c = ')' := by simpa [isParenthesis] using parenthesis
        all_goals cases digit
      rw [lexemes, parentheses_append, parentheses_number, ih readTail, List.filter_append, none]
  | illegal c rest outside =>
    rw [scanFrom_outside outside] at read
    cases read

/-- An expression needs just the levels within which the parentheses of its text nest. -/
theorem nestsWithin_iff_derives {text : String} {stream : TokenStream} {e : Expr} {deeper : Nat}
    (read : TokenStream.scan text = .ok stream)
    (phrase : Derives .expression deeper stream.lexemes e) (levels : Nat) :
    NestsWithin levels text.toList ↔ Derives .expression levels stream.lexemes e := by
  rw [← NestsWithin.filter_iff, ← parentheses_scanFrom read]
  exact ⟨phrase.of_nestsWithin, Derives.nestsWithin⟩

end Reckoner
