import Reckoner.Expr

/-! # The grammar

    expression := term   | expression ("+" | "-") term
    term       := factor | term ("*" | "/") factor
    factor     := number | "(" expression ")"

Both levels of operators group to the left, and parentheses leave no trace in the tree. The
relation `Derives` says which lexemes are a phrase and of which tree; it does not say how to find
that out.
-/

namespace Reckoner

/-- The ranks of phrases, the tightest first. -/
inductive Rank where
  | factor
  | term
  | expression
deriving DecidableEq, Repr

/-- The operator of sums that a lexeme stands for. -/
def Lexeme.additive? : Lexeme → Option Operator
  | .mark .plus .. => some .plus
  | .mark .minus .. => some .minus
  | _ => none

/-- The operator of products that a lexeme stands for. -/
def Lexeme.multiplicative? : Lexeme → Option Operator
  | .mark .star .. => some .star
  | .mark .slash .. => some .slash
  | _ => none

theorem Lexeme.kind_of_additive? {l : Lexeme} {op : Operator} (operator : l.additive? = some op) :
    l.kind = .mark .plus ∧ op = .plus ∨ l.kind = .mark .minus ∧ op = .minus := by
  match l with
  | .mark .plus .. => exact .inl ⟨rfl, (Option.some.inj operator).symm⟩
  | .mark .minus .. => exact .inr ⟨rfl, (Option.some.inj operator).symm⟩
  | .number .. | .mark .star .. | .mark .slash .. | .mark .opening .. | .mark .closing ..
  | .mark (.other _) .. => simp [additive?] at operator

theorem Lexeme.kind_of_multiplicative? {l : Lexeme} {op : Operator}
    (operator : l.multiplicative? = some op) :
    l.kind = .mark .star ∧ op = .star ∨ l.kind = .mark .slash ∧ op = .slash := by
  match l with
  | .mark .star .. => exact .inl ⟨rfl, (Option.some.inj operator).symm⟩
  | .mark .slash .. => exact .inr ⟨rfl, (Option.some.inj operator).symm⟩
  | .number .. | .mark .plus .. | .mark .minus .. | .mark .opening .. | .mark .closing ..
  | .mark (.other _) .. => simp [multiplicative?] at operator

/-- `Derives rank levels lexemes e` says that the lexemes are a phrase of this rank, that `e` is
its tree, and that its parentheses nest at most `levels` deep. -/
inductive Derives : Rank → Nat → List Lexeme → Expr → Prop where
  | number {levels : Nat} (value pos : Int) :
      Derives .factor levels [.number value pos] (.literal value)
  | group {levels : Nat} {front back : Lexeme} {inner : List Lexeme} {e : Expr}
      (opens : front.kind = .mark .opening) (within : Derives .expression levels inner e)
      (closes : back.kind = .mark .closing) :
      Derives .factor (levels + 1) (front :: (inner ++ [back])) e
  | ofFactor {levels : Nat} {lexemes : List Lexeme} {e : Expr}
      (phrase : Derives .factor levels lexemes e) : Derives .term levels lexemes e
  | product {levels : Nat} {left right : List Lexeme} {l : Lexeme} {op : Operator} {x y : Expr}
      (first : Derives .term levels left x) (operator : l.multiplicative? = some op)
      (second : Derives .factor levels right y) :
      Derives .term levels (left ++ l :: right) (.binary op x y)
  | ofTerm {levels : Nat} {lexemes : List Lexeme} {e : Expr}
      (phrase : Derives .term levels lexemes e) : Derives .expression levels lexemes e
  | sum {levels : Nat} {left right : List Lexeme} {l : Lexeme} {op : Operator} {x y : Expr}
      (first : Derives .expression levels left x) (operator : l.additive? = some op)
      (second : Derives .term levels right y) :
      Derives .expression levels (left ++ l :: right) (.binary op x y)

namespace Derives

theorem ne_nil {rank : Rank} {levels : Nat} {lexemes : List Lexeme} {e : Expr}
    (phrase : Derives rank levels lexemes e) : lexemes ≠ [] := by
  induction phrase with
  | ofFactor _ ih | ofTerm _ ih => exact ih
  | _ => simp

theorem mono {rank : Rank} {levels more : Nat} {lexemes : List Lexeme} {e : Expr}
    (phrase : Derives rank levels lexemes e) (deeper : levels ≤ more) :
    Derives rank more lexemes e := by
  induction phrase generalizing more with
  | number value pos => exact .number value pos
  | group opens _ closes ih =>
    obtain ⟨more, rfl⟩ : ∃ n, more = n + 1 := ⟨more - 1, by omega⟩
    exact .group opens (ih (by omega)) closes
  | ofFactor _ ih => exact .ofFactor (ih deeper)
  | product _ operator _ ihFirst ihSecond =>
    exact .product (ihFirst deeper) operator (ihSecond deeper)
  | ofTerm _ ih => exact .ofTerm (ih deeper)
  | sum _ operator _ ihFirst ihSecond => exact .sum (ihFirst deeper) operator (ihSecond deeper)

end Derives

end Reckoner
