import Reckoner.Token.Scan

/-! # What stands in a text

Which lexemes and which faults a text has, said place by place: a number is a maximal run of
digits, a mark is one character, and a fault is a character outside the alphabet or a maximal run
of digits that is too long. Nothing here says in which order a text is read.
-/

namespace Reckoner

/-- `RunAt text run pos` says that `run` is a maximal run of digits of the text and that it begins
at character `pos`. -/
def RunAt (text run : List Char) (pos : Nat) : Prop :=
  run ≠ [] ∧ (∀ c ∈ run, c.isDigit = true) ∧
    ∃ before after, text = before ++ (run ++ after) ∧ before.length = pos ∧
      (∀ c ∈ before.getLast?, c.isDigit = false) ∧ ∀ c ∈ after.head?, c.isDigit = false

/-- Whether a character may stand in a line of arithmetic. -/
def InAlphabet (c : Char) : Prop :=
  c.isDigit = true ∨ c = ' ' ∨ (Mark.ofChar? c).isSome = true

instance (c : Char) : Decidable (InAlphabet c) :=
  inferInstanceAs (Decidable (_ ∨ _ ∨ _))

def Lexeme.StandsIn (text : List Char) : Lexeme → Prop
  | .number value pos => ∃ run start, RunAt text run start ∧ run.length ≤ Numeral.digitLimit ∧
      value = Numeral.value run ∧ pos = (start : Nat)
  | .mark m spelling pos => ∃ c start, text[start]? = some c ∧ Mark.ofChar? c = some m ∧
      spelling = some c.toString ∧ pos = (start : Nat)

namespace LexicalError

def pos : LexicalError → Nat
  | .illegalCharacter _ pos => pos
  | .literalTooLong pos => pos

def StandsIn (text : List Char) : LexicalError → Prop
  | .illegalCharacter c pos => text[pos]? = some c ∧ ¬InAlphabet c
  | .literalTooLong pos => ∃ run, RunAt text run pos ∧ Numeral.digitLimit < run.length

end LexicalError

example : InAlphabet '7' ∧ InAlphabet ')' ∧ ¬InAlphabet '.' ∧ ¬InAlphabet '\t' := by decide

end Reckoner
