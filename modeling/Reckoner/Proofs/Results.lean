import Reckoner.Proofs.Spacing

/-! # Results are texts again

A result is written as a numeral within the limit for literals, the sign not counted; so it can be
read again. There is no unary minus: a negative result is no expression until a zero stands before
it.
-/

namespace Reckoner

theorem writeResult_eq_ok_iff {v : Int} :
    (∃ line, writeResult v = .ok line) ↔ v.natAbs < 10 ^ Numeral.digitLimit := by
  rcases Nat.lt_or_ge v.natAbs (10 ^ Numeral.digitLimit) with short | long
  · simp only [writeResult_of_short short, short, iff_true]
    exact ⟨_, rfl⟩
  · simp [writeResult_of_long long, Nat.not_lt_of_le long]

theorem outline_digits_eq_ok_iff (n : Nat) :
    (∃ lexemes, outline (Numeral.digits n) = .ok lexemes) ↔ n < 10 ^ Numeral.digitLimit := by
  rw [outline_run (Numeral.digits_ne_nil n) fun c => Numeral.isDigit_of_mem_digits,
    ← Numeral.length_digits_le_iff (by decide)]
  split
  · next long => simp [Nat.not_le_of_lt long]
  · next short => simp [Nat.le_of_not_lt short]

/-- The digits of a negative result stand behind a minus sign. -/
theorem outline_write_of_neg {v : Int} (negative : v < 0) :
    outline (Numeral.write v).toList = (do
      let number ← outline (Numeral.digits v.natAbs)
      return .mark .minus none 0 :: number) := by
  have parts : (Numeral.write v).toList = [] ++ '-' :: Numeral.digits v.natAbs :=
    Numeral.toList_write_of_neg negative
  rw [parts, outline_append_mark (show Mark.ofChar? '-' = some .minus from rfl), outline_nil]
  rfl

/-- A value can be written just when its written form can be scanned. -/
theorem writeResult_iff_scan (v : Int) :
    (∃ line, writeResult v = .ok line) ↔
      ∃ stream, TokenStream.scan (Numeral.write v) = .ok stream := by
  have scans : (∃ stream, TokenStream.scan (Numeral.write v) = .ok stream) ↔
      ∃ lexemes, outline (Numeral.write v).toList = .ok lexemes := by
    constructor
    · rintro ⟨stream, scanned⟩
      exact ⟨_, outline_of_scan scanned⟩
    · rintro ⟨lexemes, read⟩
      obtain ⟨stream, scanned, -⟩ := exists_of_outline read
      exact ⟨stream, scanned⟩
  rw [scans, writeResult_eq_ok_iff, ← outline_digits_eq_ok_iff]
  rcases Int.lt_or_le v 0 with negative | nonneg
  · rw [outline_write_of_neg negative]
    cases outline (Numeral.digits v.natAbs) with
    | error kind => simp [bind, Except.bind]
    | ok number => simp [bind, Except.bind, pure, Except.pure]
  · rw [Numeral.toList_write_of_nonneg nonneg]

theorem exists_of_succeeded {text : String} (succeeded : (run text).succeeded = true) :
    ∃ v, (calculate text).answer = .ok v ∧ v.natAbs < 10 ^ Numeral.digitLimit ∧
      (run text).line = Numeral.write v := by
  have answer := answer_run text
  rw [answer_of_succeeded succeeded] at answer
  match calculated : (calculate text).answer with
  | .error error =>
    rw [calculated] at answer
    cases answer
  | .ok v =>
    simp only [calculated, bind, Except.bind] at answer
    rcases Nat.lt_or_ge v.natAbs (10 ^ Numeral.digitLimit) with short | long
    · rw [writeResult_of_short short] at answer
      exact ⟨v, rfl, short, Except.ok.inj answer⟩
    · rw [writeResult_of_long long] at answer
      cases answer

theorem nestsWithin_of_digits {text : List Char} (digits : ∀ c ∈ text, c.isDigit ∨ c = '-')
    (levels : Nat) : NestsWithin levels text := by
  have none : text.count '(' = 0 := by
    rw [List.count_eq_zero]
    intro member
    rcases digits '(' member with digit | minus
    · cases digit
    · cases minus
  apply NestsWithin.of_count_le
  omega

variable {v : Int}

theorem legible_literal (nonneg : 0 ≤ v) (short : v.natAbs < 10 ^ Numeral.digitLimit) :
    (Expr.literal v).Legible :=
  ⟨nonneg, (Numeral.natAbs_lt_limit_iff nonneg).mp short⟩

theorem run_write_of_nonneg (nonneg : 0 ≤ v) (short : v.natAbs < 10 ^ Numeral.digitLimit) :
    (run (Numeral.write v)).succeeded = true ∧
      (run (Numeral.write v)).line = Numeral.write v := by
  have spaced : Spaced (Expr.literal v).pieces (Numeral.write v).toList := by
    simpa [Expr.pieces] using Spaced.flatten (Expr.literal v).pieces
  have nests : NestsWithin nestingLimit (Numeral.write v).toList := by
    apply nestsWithin_of_digits
    rw [Numeral.toList_write_of_nonneg nonneg]
    exact fun c member => .inl (Numeral.isDigit_of_mem_digits member)
  have tree := hasTree_of_spaced (legible_literal nonneg short) spaced nests
  exact run_of_ok ((answer_run_of_worth tree (.literal v)).trans (writeResult_of_short short))

theorem run_zero_write_of_neg (negative : v < 0) (short : v.natAbs < 10 ^ Numeral.digitLimit) :
    (run ("0" ++ Numeral.write v)).succeeded = true ∧
      (run ("0" ++ Numeral.write v)).line = Numeral.write v := by
  let e : Expr := .binary .minus (.literal 0) (.literal (-v))
  have legible : e.Legible := by
    refine ⟨by decide, legible_literal (Int.le_refl 0) ?_, legible_literal (by omega) ?_⟩
    · exact Nat.pow_pos (by decide)
    · rwa [Int.natAbs_neg]
  have parts : ("0" ++ Numeral.write v).toList = '0' :: '-' :: Numeral.digits v.natAbs := by
    rw [String.toList_append, Numeral.toList_write_of_neg negative]
    rfl
  have pieces : e.pieces = [['0'], ['-'], Numeral.digits v.natAbs] := by
    have magnitude : (Numeral.write (-v)).toList = Numeral.digits v.natAbs := by
      rw [Numeral.toList_write_of_nonneg (by omega), Int.natAbs_neg]
    rw [← magnitude]
    rfl
  have spaced : Spaced e.pieces ("0" ++ Numeral.write v).toList := by
    rw [pieces, parts]
    simpa using Spaced.flatten [['0'], ['-'], Numeral.digits v.natAbs]
  have nests : NestsWithin nestingLimit ("0" ++ Numeral.write v).toList := by
    apply nestsWithin_of_digits
    rw [parts]
    intro c member
    simp only [List.mem_cons] at member
    rcases member with rfl | rfl | digit
    · exact .inl rfl
    · exact .inr rfl
    · exact .inl (Numeral.isDigit_of_mem_digits digit)
  have tree : HasTree ("0" ++ Numeral.write v).toList e := hasTree_of_spaced legible spaced nests
  have worth : e.Worth v := by
    have difference : e.Worth (0 - -v) := .difference (.literal 0) (.literal (-v))
    rwa [Int.sub_neg, Int.zero_add] at difference
  exact run_of_ok ((answer_run_of_worth tree worth).trans (writeResult_of_short short))

/-- A negative result is no expression: there is no unary minus. -/
theorem run_write_of_neg (negative : v < 0) (short : v.natAbs < 10 ^ Numeral.digitLimit) :
    (run (Numeral.write v)).succeeded = false ∧
      (run (Numeral.write v)).line = "SyntaxError" := by
  obtain ⟨number, read⟩ := (outline_digits_eq_ok_iff v.natAbs).mpr short
  have whole := outline_write_of_neg negative
  rw [read] at whole
  apply run_of_outline_noTree whole
  intro e phrase
  have begins := phrase.beginsOperand _ rfl
  simp [Lexeme.BeginsOperand, Lexeme.kind] at begins

/-- Results can be read again. The line that answers a text is a numeral in canonical form that
denotes the value of the text. Without a minus sign it is a text that is answered with itself; with
one it is no expression, but answered with itself behind a zero. And whatever value can be written
within the limit for results can be scanned within the limit for literals. -/
theorem results_are_read_back :
    (∀ text, (run text).succeeded = true →
      let line := (run text).line
      Numeral.IsCanonical line.toList ∧
        (calculate text).answer = .ok (Numeral.denoted line.toList) ∧
        (line.toList.head? ≠ some '-' → (run line).succeeded = true ∧ (run line).line = line) ∧
        (line.toList.head? = some '-' →
          ((run line).succeeded = false ∧ (run line).line = "SyntaxError") ∧
            (run ("0" ++ line)).succeeded = true ∧ (run ("0" ++ line)).line = line)) ∧
      ∀ v : Int, (∃ line, writeResult v = .ok line) ↔
        ∃ stream, TokenStream.scan (Numeral.write v) = .ok stream := by
  refine ⟨?_, writeResult_iff_scan⟩
  intro text succeeded line
  obtain ⟨v, calculated, short, written⟩ := exists_of_succeeded succeeded
  have same : line = Numeral.write v := written
  clear_value line
  subst same
  refine ⟨Numeral.isCanonical_write short, ?_, ?_, ?_⟩
  · rw [Numeral.denoted_write, calculated]
  · intro noMinus
    rcases Int.lt_or_le v 0 with negative | nonneg
    · rw [Numeral.toList_write_of_neg negative] at noMinus
      exact absurd rfl noMinus
    · exact run_write_of_nonneg nonneg short
  · intro minus
    rcases Int.lt_or_le v 0 with negative | nonneg
    · exact ⟨run_write_of_neg negative short, run_zero_write_of_neg negative short⟩
    · obtain ⟨rest, parts⟩ := List.head?_eq_some_iff.mp minus
      rw [Numeral.toList_write_of_nonneg nonneg] at parts
      have digit : '-'.isDigit = true := by
        apply Numeral.isDigit_of_mem_digits (n := v.natAbs)
        rw [parts]
        exact List.mem_cons_self ..
      cases digit

/-- The result of `5-10` is read behind a zero. -/
theorem results_are_read_back_behind_zero :
    (run "5-10").succeeded = true ∧ (run "5-10").line = "-5" ∧
      (run "-5").line = "SyntaxError" ∧ (run ("0" ++ "-5")).line = "-5" := by
  have succeeded : (run "5-10").succeeded = true := by decide +kernel
  have line : (run "5-10").line = "-5" := by decide +kernel
  obtain ⟨-, -, -, negative⟩ := results_are_read_back.1 "5-10" succeeded
  rw [line] at negative
  obtain ⟨refused, answered⟩ := negative (by decide)
  exact ⟨succeeded, line, refused.2, answered.2⟩

end Reckoner
