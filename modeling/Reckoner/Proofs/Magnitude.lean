import Mathlib.Algebra.BigOperators.Group.List.Basic
import Mathlib.Tactic.Ring
import Reckoner.Proofs.Answers

/-! # How large a value can be

The literals of a tree are the numbers of its text, each once and in order. An operation on two
values leads no further than the product of what bounds each of them, so a value has no more
digits than the text has. A text with few digits meets neither the limit for literals nor the one
for results.
-/

namespace Reckoner

def Expr.literals : Expr → List Int
  | .literal value => [value]
  | .binary _ left right => left.literals ++ right.literals
  | .hole => []

def Lexeme.number? : Lexeme → Option Int
  | .number value _ => some value
  | .mark .. => none

def numbers (lexemes : List Lexeme) : List Int :=
  lexemes.filterMap Lexeme.number?

theorem numbers_append (front back : List Lexeme) :
    numbers (front ++ back) = numbers front ++ numbers back :=
  List.filterMap_append

theorem numbers_mark {l : Lexeme} {m : Mark} (mark : l.kind = .mark m) (rest : List Lexeme) :
    numbers (l :: rest) = numbers rest := by
  match l with
  | .mark .. => rfl
  | .number .. => cases mark

/-- No number of a phrase is lost, and none counts twice. -/
theorem Derives.literals_eq {rank : Rank} {levels : Nat} {lexemes : List Lexeme} {e : Expr}
    (phrase : Derives rank levels lexemes e) : e.literals = numbers lexemes := by
  induction phrase with
  | number value pos => rfl
  | group opens _ closes ih =>
    rw [numbers_mark opens, numbers_append, numbers_mark closes, ih]
    exact (List.append_nil _).symm
  | ofFactor _ ih | ofTerm _ ih => exact ih
  | product _ operator _ ihFirst ihSecond =>
    rw [Expr.literals, ihFirst, ihSecond, numbers_append]
    rcases Lexeme.kind_of_multiplicative? operator with ⟨mark, -⟩ | ⟨mark, -⟩
    all_goals rw [numbers_mark mark]
  | sum _ operator _ ihFirst ihSecond =>
    rw [Expr.literals, ihFirst, ihSecond, numbers_append]
    rcases Lexeme.kind_of_additive? operator with ⟨mark, -⟩ | ⟨mark, -⟩
    all_goals rw [numbers_mark mark]

/-- A bound for what the four operations make of some values, each used once. -/
def reach (values : List Int) : Nat :=
  (values.map fun v => v.natAbs + 1).prod

theorem reach_append (front back : List Int) :
    reach (front ++ back) = reach front * reach back := by
  simp [reach]

theorem add_lt_mul {m n a b : Nat} (left : m < a) (right : n < b) : m + n < a * b := by
  calc
    m + n < m * n + m + n + 1 := by omega
    _ = (m + 1) * (n + 1) := by ring
    _ ≤ a * b := Nat.mul_le_mul left right

/-- What a tree is worth lies within the reach of its literals. -/
theorem Expr.Worth.natAbs_lt {e : Expr} {v : Int} (worth : e.Worth v) :
    v.natAbs < reach e.literals := by
  induction worth with
  | literal v => simp [reach, literals]
  | @sum x y v w _ _ left right =>
    rw [literals, reach_append]
    exact (Int.natAbs_add_le v w).trans_lt (add_lt_mul left right)
  | @difference x y v w _ _ left right =>
    rw [literals, reach_append]
    exact (Int.natAbs_sub_le v w).trans_lt (add_lt_mul left right)
  | product _ _ left right =>
    rw [literals, reach_append, Int.natAbs_mul]
    exact Nat.mul_lt_mul'' left right
  | @quotient x y v w _ _ _ left right =>
    rw [literals, reach_append]
    have smaller := (Int.natAbs_tdiv_le_natAbs v w).trans_lt left
    exact smaller.trans_le (Nat.le_mul_of_pos_right _ (Nat.zero_lt_of_lt right))

def digitCount (text : List Char) : Nat :=
  text.countP Char.isDigit

theorem digitCount_append (front back : List Char) :
    digitCount (front ++ back) = digitCount front + digitCount back :=
  List.countP_append

theorem digitCount_run {run : List Char} (digits : ∀ c ∈ run, c.isDigit = true) :
    digitCount run = run.length :=
  List.countP_eq_length.mpr digits

theorem digitCount_cons {c : Char} (digit : c.isDigit = false) (text : List Char) :
    digitCount (c :: text) = digitCount text :=
  List.countP_cons_of_neg (by simp [digit])

/-- The numbers of a scanned text reach below the power of ten for its digits. -/
theorem reach_scanFrom {pos : Nat} {text : List Char} {stream : TokenStream}
    (read : TokenStream.scanFrom pos text = .ok stream) :
    reach (numbers stream.lexemes) ≤ 10 ^ digitCount text := by
  induction text using scanInduction generalizing pos stream with
  | nil =>
    rw [TokenStream.scanFrom_nil] at read
    cases read
    exact Nat.le_refl 1
  | space rest ih =>
    rw [TokenStream.scanFrom_space] at read
    rw [digitCount_cons rfl]
    exact ih read
  | mark c m rest mark ih =>
    rw [TokenStream.scanFrom_mark mark] at read
    obtain ⟨tail, readTail, lexemes⟩ := exists_of_map_prepend read
    rw [lexemes, List.singleton_append, numbers_mark rfl,
      digitCount_cons (isDigit_eq_false_of_mark mark)]
    exact ih readTail
  | run run rest nonempty digits maximal ih =>
    rw [TokenStream.scanFrom_run nonempty digits maximal] at read
    split at read
    · cases read
    · obtain ⟨tail, readTail, lexemes⟩ := exists_of_map_prepend read
      have here : reach (numbers [.number (Numeral.value run) pos]) ≤ 10 ^ run.length := by
        simpa [numbers, reach, Lexeme.number?, Nat.succ_le_iff] using Numeral.value_lt digits
      rw [lexemes, numbers_append, reach_append, digitCount_append, digitCount_run digits,
        Nat.pow_add]
      exact Nat.mul_le_mul here (ih readTail)
  | illegal c rest outside =>
    rw [scanFrom_outside outside] at read
    cases read

/-- A run of digits is no longer than the text has digits. -/
theorem RunAt.length_le {text run : List Char} {pos : Nat} (stands : RunAt text run pos) :
    run.length ≤ digitCount text := by
  obtain ⟨-, digits, before, after, rfl, -, -, -⟩ := stands
  rw [digitCount_append, digitCount_append, digitCount_run digits]
  omega

section

variable {text : String}

/-- A text that has a value is an expression that is worth it. -/
theorem exists_of_calculated {v : Int} (calculated : (calculate text).answer = .ok v) :
    ∃ stream e, TokenStream.scan text = .ok stream ∧
      Derives .expression nestingLimit stream.lexemes e ∧ e.Worth v := by
  obtain ⟨fault, -, answer⟩ | ⟨stream, fault, -, -, answer⟩ | ⟨stream, e, read, parsed, answer⟩ :=
    calculate_cases text
  · rw [calculated] at answer
    cases answer
  · rw [calculated] at answer
    cases answer
  · refine ⟨stream, e, read, TokenStream.parse_eq_ok_iff.mp parsed, ?_⟩
    rw [← Expr.value_eq_ok_iff]
    rw [calculated] at answer
    cases found : e.value with
    | error fault =>
      rw [found] at answer
      cases answer
    | ok w =>
      rw [found] at answer
      cases answer
      rfl

theorem natAbs_lt_of_calculated {v : Int} (calculated : (calculate text).answer = .ok v) :
    v.natAbs < 10 ^ digitCount text.toList := by
  obtain ⟨stream, e, read, phrase, worth⟩ := exists_of_calculated calculated
  have below := worth.natAbs_lt
  rw [phrase.literals_eq] at below
  exact below.trans_le (reach_scanFrom read)

/-- A text with few digits has no literal that is too long. -/
theorem scan_ne_literalTooLong (few : digitCount text.toList ≤ Numeral.digitLimit) (pos : Nat) :
    TokenStream.scan text ≠ .error (.literalTooLong pos) := by
  intro refused
  obtain ⟨⟨run, stands, long⟩, -⟩ := scan_eq_error_iff.mp refused
  have short := stands.length_le
  omega

/-- Only the writing of a result can fail for its length. -/
theorem answer_calculate_ne_resultTooLong (text : String) :
    (calculate text).answer ≠ .error .resultTooLong := by
  obtain ⟨fault, -, answer⟩ | ⟨stream, fault, -, -, answer⟩ | ⟨stream, e, -, -, answer⟩ :=
    calculate_cases text
  · simp [answer]
  · simp [answer]
  · rw [answer]
    cases e.value <;> simp [Except.mapError]

/-- A text with few digits has no result that is too long. -/
theorem answer_run_ne_resultTooLong (few : digitCount text.toList ≤ Numeral.digitLimit) :
    (run text).answer ≠ .error .resultTooLong := by
  intro tooLong
  rw [answer_run] at tooLong
  match calculated : (calculate text).answer with
  | .error error =>
    rw [calculated] at tooLong
    obtain rfl : error = .resultTooLong := Except.error.inj tooLong
    exact answer_calculate_ne_resultTooLong text calculated
  | .ok v =>
    have powers : 10 ^ digitCount text.toList ≤ 10 ^ Numeral.digitLimit :=
      Nat.pow_le_pow_right (by decide) few
    have short := (natAbs_lt_of_calculated calculated).trans_le powers
    simp only [calculated, bind, Except.bind, writeResult_of_short short] at tooLong
    cases tooLong

end

/-- Whether a text begins with another letter than the message of a result that is too long. -/
def beginsOtherwise (text : String) : Bool :=
  text.toList.head?.any (· != 'R')

theorem beginsOtherwise_append {front back : String} (first : beginsOtherwise front = true) :
    beginsOtherwise (front ++ back) = true := by
  rw [beginsOtherwise] at first
  rw [beginsOtherwise, String.toList_append]
  cases letters : front.toList with
  | nil =>
    rw [letters] at first
    cases first
  | cons c rest =>
    rw [letters] at first
    exact first

/-- The messages of the other errors begin with other letters. -/
theorem Error.beginsOtherwise_message {error : Error} (other : error ≠ .resultTooLong) :
    beginsOtherwise error.message = true := by
  have more {front back : String} := @beginsOtherwise_append front back
  cases error with
  | resultTooLong => exact absurd rfl other
  | lexical error =>
    cases error with
    | illegalCharacter c pos => exact more (more (more (by decide)))
    | literalTooLong pos => exact more (more (by decide))
  | grammar error =>
    cases error with
    | unterminated => decide
    | mismatch wanted found => exact more (more (more (more (more (by decide)))))
    | trailing found => exact more (more (more (by decide)))
    | tooDeep found => exact more (more (more (by decide)))
    | endOfInput found => exact more (more (by decide))
    | operandExpected found => exact more (more (more (by decide)))
    | outOfStack => decide
  | evaluation error =>
    cases error with
    | divisionByZero => decide
    | unknownOperator op => exact more (by decide)
    | unsupportedNode node => exact more (by decide)

theorem Error.eq_resultTooLong_of_message {error : Error}
    (same : error.message = "Result has too many digits to print") : error = .resultTooLong := by
  by_contra other
  have begins := beginsOtherwise_message other
  rw [same] at begins
  exact absurd begins (by decide)

/-- The value of a text has no more digits than the text: it is smaller than the power of ten for
them. So a text that has no more digits than a numeral may have is never answered for the length of
a literal or of its result. -/
theorem value_has_no_more_digits_than_text (text : String) :
    (∀ v, (calculate text).answer = .ok v → v.natAbs < 10 ^ digitCount text.toList) ∧
      (digitCount text.toList ≤ Numeral.digitLimit →
        (∀ pos, TokenStream.scan text ≠ .error (.literalTooLong pos)) ∧
          ∀ error, (run text).answer = .error error →
            error.message ≠ "Result has too many digits to print") := by
  refine ⟨fun v => natAbs_lt_of_calculated, ?_⟩
  intro few
  refine ⟨scan_ne_literalTooLong few, ?_⟩
  intro error failed same
  obtain rfl := Error.eq_resultTooLong_of_message same
  exact answer_run_ne_resultTooLong few failed

/-- `(12-345)*6` has six digits, and its value has four. -/
theorem value_of_product_has_no_more_digits :
    (calculate "(12-345)*6").answer = .ok (-1998) ∧ (1998 : Nat) < 10 ^ 6 ∧
      (run "(12-345)*6").answer ≠ .error .resultTooLong := by
  have calculated : (calculate "(12-345)*6").answer = .ok (-1998) := by decide +kernel
  have six : digitCount "(12-345)*6".toList = 6 := by decide +kernel
  obtain ⟨below, short⟩ := value_has_no_more_digits_than_text "(12-345)*6"
  rw [six] at below short
  refine ⟨calculated, below _ calculated, ?_⟩
  intro failed
  exact (short (by decide)).2 _ failed rfl

end Reckoner
