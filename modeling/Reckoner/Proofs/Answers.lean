import Reckoner.Calculation
import Reckoner.Proofs.Evaluation
import Reckoner.Proofs.Printing
import Reckoner.Proofs.Worth

/-! # What a text is answered

The answer to a text, said without the scanner, the parser and the machine: by what stands in the
text, by the grammar, and by arithmetic on exact integers. `run` gives this answer to every text
and no other, so of the failures of evaluation a text meets only division by zero.
-/

namespace Reckoner

theorem writeResult_of_short {v : Int} (short : v.natAbs < 10 ^ Numeral.digitLimit) :
    writeResult v = .ok (Numeral.write v) := by
  delta writeResult
  rw [Numeral.write?_of_short short]

theorem writeResult_of_long {v : Int} (long : 10 ^ Numeral.digitLimit ≤ v.natAbs) :
    writeResult v = .error .resultTooLong := by
  delta writeResult
  rw [Numeral.write?_of_long long]

/-- The text has no fault, and its lexemes are an expression with this tree. -/
structure HasTree (text : List Char) (e : Expr) : Prop where
  faultless : ∀ error : LexicalError, ¬error.StandsIn text
  phrase : ∃ lexemes, AreLexemesOf text lexemes ∧ Derives .expression nestingLimit lexemes e

/-- `Answers text succeeds line` says that the text is answered with this line: its value, or the
name of an error. The first fault decides, wherever it stands; a text without faults is answered
for not being an expression, or for what its tree is worth. -/
inductive Answers (text : List Char) : Bool → String → Prop where
  | illegalCharacter {c : Char} {pos : Nat}
      (first : (LexicalError.illegalCharacter c pos).IsFirstIn text) :
      Answers text false "IllegalCharacter"
  | literalTooLong {pos : Nat} (first : (LexicalError.literalTooLong pos).IsFirstIn text) :
      Answers text false "SyntaxError"
  | noExpression (faultless : ∀ error : LexicalError, ¬error.StandsIn text)
      (none : ∀ e, ¬HasTree text e) : Answers text false "SyntaxError"
  | zeroDivisor {e : Expr} (tree : HasTree text e) (meets : e.MeetsZeroDivisor) :
      Answers text false "ZeroDivisionError"
  | resultTooLong {e : Expr} {v : Int} (tree : HasTree text e) (worth : e.Worth v)
      (long : 10 ^ Numeral.digitLimit ≤ v.natAbs) : Answers text false "SyntaxError"
  | result {e : Expr} {v : Int} (tree : HasTree text e) (worth : e.Worth v)
      (short : v.natAbs < 10 ^ Numeral.digitLimit) : Answers text true (Numeral.write v)

/-- A text has the tree that it is parsed to. -/
theorem hasTree_iff {text : String} {e : Expr} : HasTree text.toList e ↔
    ∃ stream, TokenStream.scan text = .ok stream ∧ stream.parse = .ok e := by
  constructor
  · rintro ⟨faultless, lexemes, cut, phrase⟩
    match read : TokenStream.scan text with
    | .error error => exact absurd (scan_eq_error_iff.mp read).1 (faultless error)
    | .ok stream =>
      obtain rfl := (scan_eq_ok_iff.mp read).2.1.unique cut
      exact ⟨stream, rfl, TokenStream.parse_eq_ok_iff.mpr phrase⟩
  · rintro ⟨stream, read, parsed⟩
    obtain ⟨faultless, cut, -⟩ := scan_eq_ok_iff.mp read
    exact ⟨faultless, stream.lexemes, cut, TokenStream.parse_eq_ok_iff.mp parsed⟩

theorem HasTree.legible {text : String} {e : Expr} (tree : HasTree text.toList e) : e.Legible := by
  obtain ⟨stream, read, parsed⟩ := hasTree_iff.mp tree
  exact (TokenStream.parse_eq_ok_iff.mp parsed).legible (legible_of_scan read)

/-- A text that is the written form of a tree has this tree, if its parentheses nest within the
limit. -/
theorem hasTree_of_spaced {text : String} {e : Expr} (legible : e.Legible)
    (spaced : Spaced e.pieces text.toList) (nests : NestsWithin nestingLimit text.toList) :
    HasTree text.toList e := by
  obtain ⟨stream, read, -, derives⟩ := scan_of_spaced legible spaced
  exact hasTree_iff.mpr
    ⟨stream, read, TokenStream.parse_eq_ok_iff.mpr ((derives nestingLimit).mpr nests)⟩

section

variable {text : String} {e : Expr}

/-- How far the steps from a text to its value get. -/
theorem calculate_cases (text : String) :
    (∃ fault, TokenStream.scan text = .error fault ∧
      (calculate text).answer = .error (.lexical fault)) ∨
      (∃ stream fault, TokenStream.scan text = .ok stream ∧ stream.parse = .error fault ∧
        (calculate text).answer = .error (.grammar fault)) ∨
      ∃ stream e, TokenStream.scan text = .ok stream ∧ stream.parse = .ok e ∧
        (calculate text).answer = e.value.mapError .evaluation := by
  rw [answer_calculate]
  match TokenStream.scan text with
  | .error fault => exact .inl ⟨fault, rfl, rfl⟩
  | .ok stream =>
    match parsed : stream.parse with
    | .error fault =>
      refine .inr (.inl ⟨stream, fault, rfl, parsed, ?_⟩)
      simp only [Except.mapError, bind, Except.bind, parsed]
    | .ok e =>
      refine .inr (.inr ⟨stream, e, rfl, parsed, ?_⟩)
      simp only [Except.mapError, bind, Except.bind, parsed, Expr.evaluate_eq]

theorem answer_run_of_first {error : LexicalError} (first : error.IsFirstIn text.toList) :
    (run text).answer = .error (.lexical error) := by
  rw [answer_run, answer_calculate, scan_eq_error_iff.mpr first]
  rfl

theorem answer_run_of_hasTree (tree : HasTree text.toList e) :
    (run text).answer = e.value.mapError .evaluation >>= writeResult := by
  obtain ⟨stream, read, parsed⟩ := hasTree_iff.mp tree
  rw [answer_run, answer_calculate, read]
  simp only [Except.mapError, bind, Except.bind, parsed, Expr.evaluate_eq]

theorem answer_run_of_zeroDivisor (tree : HasTree text.toList e) (meets : e.MeetsZeroDivisor) :
    (run text).answer = .error (.evaluation .divisionByZero) := by
  rw [answer_run_of_hasTree tree, (Expr.value_eq_error_iff tree.legible).mpr ⟨meets, rfl⟩]
  rfl

theorem answer_run_of_worth {v : Int} (tree : HasTree text.toList e) (worth : e.Worth v) :
    (run text).answer = writeResult v := by
  rw [answer_run_of_hasTree tree, Expr.value_eq_ok_iff.mpr worth]
  simp only [Except.mapError, bind, Except.bind]

theorem run_of_error {error : Error} (answer : (run text).answer = .error error) :
    (run text).succeeded = false ∧ (run text).line = error.kind.name := by
  rw [Traced.succeeded, Traced.line, answer]
  exact ⟨rfl, rfl⟩

theorem run_of_noExpression (faultless : ∀ error : LexicalError, ¬error.StandsIn text.toList)
    (none : ∀ e, ¬HasTree text.toList e) :
    (run text).succeeded = false ∧ (run text).line = "SyntaxError" := by
  match read : TokenStream.scan text with
  | .error error => exact absurd (scan_eq_error_iff.mp read).1 (faultless error)
  | .ok stream =>
    match parsed : stream.parse with
    | .ok e => exact absurd (hasTree_iff.mpr ⟨stream, read, parsed⟩) (none e)
    | .error error =>
      have answer : (run text).answer = .error (.grammar error) := by
        rw [answer_run, answer_calculate, read]
        simp only [Except.mapError, bind, Except.bind, parsed]
      obtain ⟨failed, line⟩ := run_of_error answer
      rw [Error.kind, TokenStream.kind_of_parse parsed] at line
      exact ⟨failed, line⟩

theorem run_of_ok {line : String} (answer : (run text).answer = .ok line) :
    (run text).succeeded = true ∧ (run text).line = line := by
  rw [Traced.succeeded, Traced.line, answer]
  exact ⟨rfl, rfl⟩

theorem answer_of_succeeded (succeeded : (run text).succeeded = true) :
    (run text).answer = .ok (run text).line := by
  cases answer : (run text).answer with
  | ok line => rw [(run_of_ok answer).2]
  | error error =>
    rw [(run_of_error answer).1] at succeeded
    cases succeeded

theorem exists_error_of_failed (failed : (run text).succeeded = false) :
    ∃ error, (run text).answer = .error error ∧ (run text).line = error.kind.name := by
  cases answer : (run text).answer with
  | ok line =>
    rw [(run_of_ok answer).1] at failed
    cases failed
  | error error => exact ⟨error, rfl, (run_of_error answer).2⟩

end

/-- What a text is answered, `run` gives. -/
theorem run_of_answers {text : String} {succeeds : Bool} {line : String}
    (answers : Answers text.toList succeeds line) :
    (run text).succeeded = succeeds ∧ (run text).line = line := by
  cases answers with
  | illegalCharacter first => exact run_of_error (answer_run_of_first first)
  | literalTooLong first => exact run_of_error (answer_run_of_first first)
  | noExpression faultless none => exact run_of_noExpression faultless none
  | zeroDivisor tree meets => exact run_of_error (answer_run_of_zeroDivisor tree meets)
  | resultTooLong tree worth long =>
    exact run_of_error ((answer_run_of_worth tree worth).trans (writeResult_of_long long))
  | result tree worth short =>
    exact run_of_ok ((answer_run_of_worth tree worth).trans (writeResult_of_short short))

theorem exists_answers (text : String) :
    ∃ succeeds line, Answers text.toList succeeds line := by
  match read : TokenStream.scan text with
  | .error error =>
    have first := scan_eq_error_iff.mp read
    match error with
    | .illegalCharacter c pos => exact ⟨_, _, .illegalCharacter first⟩
    | .literalTooLong pos => exact ⟨_, _, .literalTooLong first⟩
  | .ok stream =>
    have faultless := (scan_eq_ok_iff.mp read).1
    by_cases expression : ∃ e, HasTree text.toList e
    · obtain ⟨e, tree⟩ := expression
      match found : e.value with
      | .error error =>
        have failed := (Expr.value_eq_error_iff tree.legible).mp found
        exact ⟨_, _, .zeroDivisor tree failed.1⟩
      | .ok v =>
        have worth := Expr.value_eq_ok_iff.mp found
        rcases Nat.lt_or_ge v.natAbs (10 ^ Numeral.digitLimit) with short | long
        · exact ⟨_, _, .result tree worth short⟩
        · exact ⟨_, _, .resultTooLong tree worth long⟩
    · exact ⟨_, _, .noExpression faultless (not_exists.mp expression)⟩

/-- Every text is answered as it should be, and in no other way. A text never leads to the errors
that tell of a fault in the program. -/
theorem run_eq_iff_answers (text : String) :
    (∀ succeeds line, (run text).succeeded = succeeds ∧ (run text).line = line ↔
      Answers text.toList succeeds line) ∧
      ∀ error, (run text).answer = .error error → error.kind ≠ .internal := by
  obtain ⟨succeeds, line, answers⟩ := exists_answers text
  obtain ⟨succeeded, answered⟩ := run_of_answers answers
  constructor
  · intro other otherLine
    refine ⟨?_, run_of_answers⟩
    rintro ⟨rfl, rfl⟩
    rw [succeeded, answered]
    exact answers
  · intro error answer internal
    obtain ⟨failed, named⟩ := run_of_error answer
    rw [answered, internal] at named
    rw [succeeded] at failed
    cases answers with
    | illegalCharacter | literalTooLong | noExpression | zeroDivisor | resultTooLong =>
      exact absurd named (by decide)
    | result => cases failed

end Reckoner
