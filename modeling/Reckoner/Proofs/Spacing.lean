import Reckoner.Proofs.Answers
import Reckoner.Proofs.Cutting

/-! # Spaces between the lexemes

A text is answered by its outline alone: by the kind of its first fault, or by the trees of its
bare lexemes. Spaces leave no trace in the outline, unless they part the digits of a number; and
then two numbers stand side by side, which no expression has.
-/

namespace Reckoner

/-- Both texts are answered with the same line, as results or as failures. -/
def AnsweredAlike (text other : String) : Prop :=
  (run text).succeeded = (run other).succeeded ∧ (run text).line = (run other).line

section

variable {text other : String} {lexemes others : List Lexeme}

/-- A text whose outline is a fault is answered with the kind of the fault. -/
theorem run_of_outline_error {kind : ErrorKind} (read : outline text.toList = .error kind) :
    (run text).succeeded = false ∧ (run text).line = kind.name := by
  rw [outline] at read
  cases scanned : TokenStream.scan text with
  | ok stream =>
    rw [show TokenStream.scanFrom 0 text.toList = .ok stream from scanned] at read
    cases read
  | error error =>
    rw [show TokenStream.scanFrom 0 text.toList = .error error from scanned] at read
    obtain rfl : error.kind = kind := Except.error.inj read
    exact run_of_error (answer_run_of_first (scan_eq_error_iff.mp scanned))

theorem outline_of_scan {stream : TokenStream} (scanned : TokenStream.scan text = .ok stream) :
    outline text.toList = .ok (stream.lexemes.map Lexeme.bare) := by
  rw [outline, show TokenStream.scanFrom 0 text.toList = .ok stream from scanned]
  rfl

/-- The lexemes of an outline are those of the text, bare. -/
theorem exists_of_outline (read : outline text.toList = .ok lexemes) :
    ∃ stream, TokenStream.scan text = .ok stream ∧ stream.lexemes.map Lexeme.bare = lexemes := by
  match scanned : TokenStream.scan text with
  | .error error =>
    rw [outline, show TokenStream.scanFrom 0 text.toList = .error error from scanned] at read
    cases read
  | .ok stream => exact ⟨stream, rfl, Except.ok.inj ((outline_of_scan scanned).symm.trans read)⟩

/-- A text has the trees of its outline. -/
theorem hasTree_iff_of_outline (read : outline text.toList = .ok lexemes) {e : Expr} :
    HasTree text.toList e ↔ Derives .expression nestingLimit lexemes e := by
  obtain ⟨stream, scanned, rfl⟩ := exists_of_outline read
  have bare : (stream.lexemes.map Lexeme.bare).map Lexeme.bare =
      stream.lexemes.map Lexeme.bare := by
    rw [List.map_map]
    exact List.map_congr_left fun l _ => l.bare_bare
  rw [hasTree_iff]
  constructor
  · rintro ⟨other, again, parsed⟩
    cases scanned.symm.trans again
    exact (TokenStream.parse_eq_ok_iff.mp parsed).of_bare bare
  · intro phrase
    exact ⟨stream, scanned, TokenStream.parse_eq_ok_iff.mpr (phrase.of_bare bare.symm)⟩

theorem exists_outline_of_hasTree {e : Expr} (tree : HasTree text.toList e) :
    ∃ lexemes, outline text.toList = .ok lexemes ∧
      Derives .expression nestingLimit lexemes e := by
  obtain ⟨stream, scanned, -⟩ := hasTree_iff.mp tree
  have read := outline_of_scan scanned
  exact ⟨_, read, (hasTree_iff_of_outline read).mp tree⟩

/-- A text whose outline is no expression is answered so. -/
theorem run_of_outline_noTree (read : outline text.toList = .ok lexemes)
    (none : ∀ e, ¬Derives .expression nestingLimit lexemes e) :
    (run text).succeeded = false ∧ (run text).line = "SyntaxError" := by
  obtain ⟨stream, scanned, -⟩ := exists_of_outline read
  exact run_of_noExpression (scan_eq_ok_iff.mp scanned).1
    fun e tree => none e ((hasTree_iff_of_outline read).mp tree)

namespace AnsweredAlike

/-- Two texts are answered alike when for every tree of one the other has a tree of the same
value. -/
theorem of_trees (read : outline text.toList = .ok lexemes)
    (readOther : outline other.toList = .ok others)
    (forth : ∀ e, Derives .expression nestingLimit lexemes e →
      ∃ e', Derives .expression nestingLimit others e' ∧ e'.value = e.value)
    (back : ∀ e, Derives .expression nestingLimit others e →
      ∃ e', Derives .expression nestingLimit lexemes e' ∧ e'.value = e.value) :
    AnsweredAlike text other := by
  by_cases expression : ∃ e, Derives .expression nestingLimit lexemes e
  · obtain ⟨e, phrase⟩ := expression
    obtain ⟨e', phrase', value⟩ := forth e phrase
    have same : (run text).answer = (run other).answer := by
      rw [answer_run_of_hasTree ((hasTree_iff_of_outline read).mpr phrase),
        answer_run_of_hasTree ((hasTree_iff_of_outline readOther).mpr phrase'), value]
    unfold AnsweredAlike Traced.succeeded Traced.line
    rw [same]
    exact ⟨rfl, rfl⟩
  · have none := not_exists.mp expression
    have noneOther (e : Expr) (phrase : Derives .expression nestingLimit others e) : False := by
      obtain ⟨e', phrase', -⟩ := back e phrase
      exact none e' phrase'
    obtain ⟨failed, line⟩ := run_of_outline_noTree read none
    obtain ⟨failedOther, lineOther⟩ := run_of_outline_noTree readOther noneOther
    exact ⟨failed.trans failedOther.symm, line.trans lineOther.symm⟩

theorem of_error {kind : ErrorKind} (read : outline text.toList = .error kind)
    (readOther : outline other.toList = .error kind) : AnsweredAlike text other := by
  obtain ⟨failed, line⟩ := run_of_outline_error read
  obtain ⟨failedOther, lineOther⟩ := run_of_outline_error readOther
  exact ⟨failed.trans failedOther.symm, line.trans lineOther.symm⟩

theorem of_outline_eq (same : outline text.toList = outline other.toList) :
    AnsweredAlike text other := by
  match read : outline other.toList with
  | .error kind => exact .of_error (same.trans read) read
  | .ok lexemes =>
    have itself (e : Expr) (phrase : Derives .expression nestingLimit lexemes e) :
        ∃ e', Derives .expression nestingLimit lexemes e' ∧ e'.value = e.value := ⟨e, phrase, rfl⟩
    exact .of_trees (same.trans read) read itself itself

end AnsweredAlike

end

def spaces (n : Nat) : String :=
  String.ofList (List.replicate n ' ')

theorem outline_spaces (n : Nat) (text : List Char) :
    outline (List.replicate n ' ' ++ text) = outline text := by
  induction n with
  | zero => rfl
  | succ n ih => rw [List.replicate_succ, List.cons_append, outline_space, ih]

theorem Cuts.before_spaces (before rest : List Char) (n : Nat) :
    Cuts before (List.replicate (n + 1) ' ' ++ rest) :=
  .before_of_not_digit rfl before _

theorem outline_append_spaces {before rest : List Char} (cuts : Cuts before rest) (n : Nat) :
    outline (before ++ (List.replicate n ' ' ++ rest)) = outline (before ++ rest) := by
  match n with
  | 0 => rfl
  | n + 1 =>
    rw [outline_append (.before_spaces before rest n), outline_spaces, outline_append cuts]

/-- Digits that spaces part are two numbers side by side, if the text has no fault. -/
theorem outline_parted {before rest : List Char} (between : BetweenDigits before rest) (n : Nat)
    {lexemes : List Lexeme}
    (read : outline (before ++ (List.replicate (n + 1) ' ' ++ rest)) = .ok lexemes) :
    ∃ front v w back, lexemes = front ++ .number v 0 :: .number w 0 :: back := by
  obtain ⟨front, run, rfl, nonempty, digits, cuts⟩ := exists_last_run between.1
  obtain ⟨run', back, rfl, nonempty', digits', cuts'⟩ := exists_first_run between.2
  have apart := Cuts.before_spaces run (run' ++ back) n
  rw [List.append_assoc] at read
  obtain ⟨before, behind, -, readBehind, rfl⟩ :=
    (outline_append_eq_ok_iff (cuts.append_right nonempty _)).mp read
  obtain ⟨number, rest, readRun, readRest, rfl⟩ :=
    (outline_append_eq_ok_iff apart).mp readBehind
  rw [outline_spaces] at readRest
  obtain ⟨number', others, readRun', -, rfl⟩ := (outline_append_eq_ok_iff cuts').mp readRest
  rw [outline_run_eq_ok nonempty digits readRun, outline_run_eq_ok nonempty' digits' readRun']
  exact ⟨before, _, _, others, rfl⟩

/-- No expression has two numbers side by side. -/
theorem not_derives_of_numbers {rank : Rank} {levels : Nat} {front back : List Lexeme}
    {v w pos pos' : Int} {e : Expr} :
    ¬Derives rank levels (front ++ .number v pos :: .number w pos' :: back) e := by
  intro phrase
  obtain ⟨-, chain, -⟩ := List.isChain_append.mp phrase.isChain
  exact (List.isChain_cons_cons.mp chain).1 (.inl rfl) (.inl rfl)

theorem kind_of_outline_error {text : List Char} (alphabet : ∀ c ∈ text, InAlphabet c)
    {kind : ErrorKind} (read : outline text = .error kind) : kind = .invalidExpression := by
  have found := scan_found (String.ofList text)
  rw [String.toList_ofList, TokenStream.scan, String.toList_ofList] at found
  rw [outline] at read
  cases scanned : TokenStream.scanFrom 0 text with
  | ok stream =>
    rw [scanned] at read
    cases read
  | error error =>
    cases error with
    | literalTooLong pos =>
      rw [scanned] at read
      exact (Except.error.inj read).symm
    | illegalCharacter c pos =>
      rw [scanned] at found
      obtain ⟨stands, outside⟩ := found.1
      exact absurd (alphabet c (List.mem_of_getElem? stands)) outside

/-- Spaces do not matter: wherever they are put in, but between two digits, the text is answered as
before. Between two digits of a text of the alphabet they make it no expression. -/
theorem spaces_are_insignificant (before rest : String) (n : Nat) :
    (¬BetweenDigits before.toList rest.toList →
      AnsweredAlike (before ++ spaces n ++ rest) (before ++ rest)) ∧
      (BetweenDigits before.toList rest.toList → 0 < n →
        (∀ c ∈ (before ++ rest).toList, InAlphabet c) →
          (run (before ++ spaces n ++ rest)).succeeded = false ∧
            (run (before ++ spaces n ++ rest)).line = "SyntaxError") := by
  have parts : (before ++ spaces n ++ rest).toList =
      before.toList ++ (List.replicate n ' ' ++ rest.toList) := by
    simp [spaces]
  constructor
  · intro apart
    apply AnsweredAlike.of_outline_eq
    rw [parts, outline_append_spaces (Cuts.iff_not_betweenDigits.mpr apart), String.toList_append]
  · intro between positive alphabet
    obtain ⟨n, rfl⟩ : ∃ m, n = m + 1 := ⟨n - 1, by omega⟩
    match read : outline (before ++ spaces (n + 1) ++ rest).toList with
    | .error kind =>
      have inside : ∀ c ∈ (before ++ spaces (n + 1) ++ rest).toList, InAlphabet c := by
        intro c member
        rw [parts] at member
        simp only [List.mem_append, List.mem_replicate] at member
        rcases member with first | ⟨-, rfl⟩ | last
        · exact alphabet c (by simp [first])
        · decide
        · exact alphabet c (by simp [last])
      obtain rfl := kind_of_outline_error inside read
      exact run_of_outline_error read
    | .ok lexemes =>
      have split := read
      rw [parts] at split
      obtain ⟨front, v, w, back, rfl⟩ := outline_parted between n split
      exact run_of_outline_noTree read fun e => not_derives_of_numbers

/-- Spaces behind an operator do not matter, but between two digits they do. -/
theorem spaces_are_insignificant_in_sum :
    AnsweredAlike ("10+" ++ spaces 3 ++ "5") ("10+" ++ "5") ∧
      (run ("10+" ++ "5" ++ spaces 2 ++ "5")).line = "SyntaxError" := by
  have apart : ¬BetweenDigits "10+".toList "5".toList := by
    simp [BetweenDigits]
  have between : BetweenDigits ("10+" ++ "5").toList "5".toList := by
    simp [BetweenDigits]
  have alphabet : ∀ c ∈ ("10+" ++ "5" ++ "5").toList, InAlphabet c := by
    intro c member
    rw [show ("10+" ++ "5" ++ "5").toList = ['1', '0', '+', '5', '5'] from rfl] at member
    simp only [List.mem_cons, List.not_mem_nil, or_false] at member
    rcases member with rfl | rfl | rfl | rfl | rfl <;> decide
  exact ⟨(spaces_are_insignificant _ _ 3).1 apart,
    ((spaces_are_insignificant _ _ 2).2 between (by decide) alphabet).2⟩

end Reckoner
