import Mathlib.Order.Bounds.Basic
import Reckoner.Error
import Reckoner.Proofs.Numerals
import Reckoner.Proofs.Scanning

/-! # The lexemes of a text

Character by character, what a text is cut into: every digit belongs to the number of its maximal
run, each of the six marks is a lexeme of its own, and a space belongs to none. The scanner finds
just these lexemes, in the order of their places. A text with a fault it refuses for the first one,
which is a character outside the alphabet or a run of digits beyond the limit.
-/

namespace Reckoner

/-- A digit, a space or a mark. -/
def Permitted (c : Char) : Prop :=
  c.isDigit = true ∨ c = ' ' ∨ ∃ m, (c, m) ∈ Mark.characters

theorem permitted_iff_inAlphabet {c : Char} : Permitted c ↔ InAlphabet c := by
  simp only [Permitted, InAlphabet, Option.isSome_iff_exists, Mark.ofChar?_eq_some_iff]

/-- `Yields text i l` says that character `i` of the text is one of those that the lexeme `l` is
made of. -/
inductive Yields (text : List Char) (i : Nat) : Lexeme → Prop where
  | number {run : List Char} {start : Nat} (runs : RunAt text run start) (from_le : start ≤ i)
      (lt_to : i < start + run.length) : Yields text i (.number (Numeral.decimal run) start)
  | mark {c : Char} {m : Mark} (stands : text[i]? = some c) (mark : (c, m) ∈ Mark.characters) :
      Yields text i (.mark m (some c.toString) i)

section

variable {text run other : List Char} {pos start i : Nat} {c : Char} {l l' : Lexeme}

theorem exists_runAt (stands : text[i]? = some c) (digit : c.isDigit = true) :
    ∃ run start, RunAt text run start ∧ start ≤ i ∧ i < start + run.length := by
  obtain ⟨inside, here⟩ := List.getElem?_eq_some_iff.mp stands
  have ends : ∃ c ∈ (text.take (i + 1)).getLast?, c.isDigit = true :=
    ⟨c, by simp [List.getLast?_take, stands], digit⟩
  obtain ⟨front, run, parts, nonempty, digits, cuts⟩ := exists_last_run ends
  have length : front.length + run.length = i + 1 := by
    have whole := congrArg List.length parts
    rw [List.length_take, List.length_append] at whole
    omega
  have starts : ∀ c ∈ front.getLast?, c.isDigit = false := by
    obtain starts | noDigit := cuts
    · exact starts
    · obtain ⟨d, rest, rfl⟩ := List.exists_cons_of_ne_nil nonempty
      have first := digits d (List.mem_cons_self ..)
      rw [noDigit d rfl] at first
      cases first
  refine ⟨run ++ (text.drop (i + 1)).takeWhile Char.isDigit, front.length, ⟨by simp [nonempty], ?_,
    front, (text.drop (i + 1)).dropWhile Char.isDigit, ?_, rfl, starts, ?_⟩, ?_, ?_⟩
  · intro d member
    rcases List.mem_append.mp member with before | behind
    · exact digits d before
    · exact List.mem_takeWhile_imp behind
  · rw [List.append_assoc, List.takeWhile_append_dropWhile, ← List.append_assoc, ← parts,
      List.take_append_drop]
  · intro d first
    have stops := List.head?_dropWhile_not Char.isDigit (text.drop (i + 1))
    rw [first] at stops
    exact stops
  · have positive := List.length_pos_iff.mpr nonempty
    omega
  · rw [List.length_append]
    omega

/-- Runs that have a character in common are the same. -/
theorem RunAt.eq_of_common (first : RunAt text run pos) (second : RunAt text other start)
    (inFirst : pos ≤ i ∧ i < pos + run.length) (inSecond : start ≤ i ∧ i < start + other.length) :
    pos = start ∧ run = other := by
  rcases Nat.le_total pos start with before | behind
  · obtain ⟨same, equal⟩ := first.eq_of_within second before (by omega)
    exact ⟨same.symm, equal.symm⟩
  · exact second.eq_of_within first behind (by omega)

namespace Yields

theorem exists_getElem (yields : Yields text i l) : ∃ c, text[i]? = some c ∧ c ≠ ' ' := by
  cases yields with
  | @number run start runs from_le lt_to =>
    obtain ⟨-, digits, before, after, rfl, rfl, -, -⟩ := id runs
    have inside : i < (before ++ (run ++ after)).length := by
      rw [List.length_append, List.length_append]
      omega
    refine ⟨_, List.getElem?_eq_getElem inside, ?_⟩
    intro space
    have digit := runs.isDigit_within (List.getElem?_eq_getElem inside) from_le lt_to
    rw [space] at digit
    cases digit
  | @mark c m stands mark =>
    refine ⟨c, stands, ?_⟩
    rintro rfl
    rw [← Mark.ofChar?_eq_some_iff] at mark
    cases mark

theorem unique (first : Yields text i l) (second : Yields text i l') : l = l' := by
  have noDigit {c : Char} {m : Mark} (mark : (c, m) ∈ Mark.characters) : c.isDigit = false :=
    isDigit_eq_false_of_mark (Mark.ofChar?_eq_some_iff.mpr mark)
  cases first with
  | number runs from_le lt_to =>
    cases second with
    | number runs' from_le' lt_to' =>
      obtain ⟨rfl, rfl⟩ := runs.eq_of_common runs' ⟨from_le, lt_to⟩ ⟨from_le', lt_to'⟩
      rfl
    | mark stands mark =>
      have digit := runs.isDigit_within stands from_le lt_to
      rw [noDigit mark] at digit
      cases digit
  | mark stands mark =>
    cases second with
    | number runs from_le lt_to =>
      have digit := runs.isDigit_within stands from_le lt_to
      rw [noDigit mark] at digit
      cases digit
    | mark stands' mark' =>
      rw [stands] at stands'
      cases stands'
      rw [← Mark.ofChar?_eq_some_iff] at mark mark'
      rw [mark] at mark'
      cases mark'
      rfl

end Yields

/-- Of the alphabet only spaces yield nothing. -/
theorem exists_yields (stands : text[i]? = some c) (permitted : Permitted c) (other : c ≠ ' ') :
    ∃ l, Yields text i l := by
  obtain digit | rfl | ⟨m, mark⟩ := permitted
  · obtain ⟨run, start, runs, from_le, lt_to⟩ := exists_runAt stands digit
    exact ⟨_, .number runs from_le lt_to⟩
  · exact absurd rfl other
  · exact ⟨_, .mark stands mark⟩

end

/-- The text keeps to the alphabet, and its runs of digits to the limit. -/
structure Readable (text : List Char) : Prop where
  permitted : ∀ c ∈ text, Permitted c
  short : ∀ run start, RunAt text run start → run.length ≤ Numeral.digitLimit

/-- A fault of the text begins at this place. -/
def FaultyAt (text : List Char) (pos : Nat) : Prop :=
  (∃ c, text[pos]? = some c ∧ ¬Permitted c) ∨
    ∃ run, RunAt text run pos ∧ Numeral.digitLimit < run.length

theorem readable_iff {text : List Char} :
    Readable text ↔ ∀ error : LexicalError, ¬error.StandsIn text := by
  constructor
  · rintro ⟨permitted, short⟩ error stands
    match error with
    | .illegalCharacter c pos =>
      have inside := permitted c (List.mem_of_getElem? stands.1)
      exact stands.2 (permitted_iff_inAlphabet.mp inside)
    | .literalTooLong pos =>
      obtain ⟨run, runs, long⟩ := stands
      exact Nat.not_lt_of_le (short run pos runs) long
  · intro faultless
    refine ⟨?_, ?_⟩
    · intro c member
      obtain ⟨pos, stands⟩ := List.getElem?_of_mem member
      by_contra outside
      rw [permitted_iff_inAlphabet] at outside
      exact faultless (.illegalCharacter c pos) ⟨stands, outside⟩
    · intro run pos runs
      by_contra long
      exact faultless (.literalTooLong pos) ⟨run, runs, Nat.lt_of_not_le long⟩

theorem faultyAt_iff {text : List Char} {pos : Nat} :
    FaultyAt text pos ↔ ∃ error : LexicalError, error.StandsIn text ∧ error.pos = pos := by
  constructor
  · rintro (⟨c, stands, outside⟩ | ⟨run, runs, long⟩)
    · rw [permitted_iff_inAlphabet] at outside
      exact ⟨.illegalCharacter c pos, ⟨stands, outside⟩, rfl⟩
    · exact ⟨.literalTooLong pos, ⟨run, runs, long⟩, rfl⟩
  · rintro ⟨error, stands, rfl⟩
    match error with
    | .illegalCharacter c pos =>
      refine .inl ⟨c, stands.1, ?_⟩
      rw [permitted_iff_inAlphabet]
      exact stands.2
    | .literalTooLong pos => exact .inr stands

/-- The first fault of a text stands at the least of its faulty places. -/
theorem LexicalError.IsFirstIn.isLeast {text : List Char} {error : LexicalError}
    (first : error.IsFirstIn text) : IsLeast {pos | FaultyAt text pos} error.pos := by
  refine ⟨faultyAt_iff.mpr ⟨error, first.1, rfl⟩, ?_⟩
  intro pos faulty
  obtain ⟨other, stands, rfl⟩ := faultyAt_iff.mp faulty
  exact first.2 other stands

/-- What stands in a text without faults is what its characters yield. -/
theorem Readable.standsIn_iff {text : List Char} (readable : Readable text) {l : Lexeme} :
    l.StandsIn text ↔ ∃ i, Yields text i l := by
  rw [Lexeme.standsIn_iff]
  constructor
  · rintro (⟨run, start, runs, -, rfl⟩ | ⟨c, m, start, stands, mark, rfl⟩)
    · have positive := List.length_pos_iff.mpr runs.1
      rw [Numeral.value_eq_decimal]
      exact ⟨start, .number runs (Nat.le_refl _) (Nat.lt_add_of_pos_right positive)⟩
    · exact ⟨start, .mark stands (Mark.ofChar?_eq_some_iff.mp mark)⟩
  · rintro ⟨i, yields⟩
    cases yields with
    | @number run start runs =>
      refine .inl ⟨run, start, runs, readable.short run start runs, ?_⟩
      rw [Numeral.value_eq_decimal]
    | @mark c m stands mark => exact .inr ⟨c, m, i, stands, Mark.ofChar?_eq_some_iff.mpr mark, rfl⟩

theorem Lexeme.StandsIn.pos_lt {text : List Char} {l : Lexeme} (stands : l.StandsIn text) :
    l.pos < text.length := by
  rcases Lexeme.standsIn_iff.mp stands with
    ⟨run, start, runs, -, rfl⟩ | ⟨c, m, start, found, -, rfl⟩
  · obtain ⟨c, found, -⟩ := runs.isDigit_getElem
    exact Int.ofNat_lt.mpr (List.getElem?_eq_some_iff.mp found).1
  · exact Int.ofNat_lt.mpr (List.getElem?_eq_some_iff.mp found).1

namespace TokenStream

theorem lexeme_mem_tokens {stream : TokenStream} {l : Lexeme} :
    .lexeme l ∈ stream.tokens ↔ l ∈ stream.lexemes := by
  simp [tokens]

theorem stop_mem_tokens {stream : TokenStream} {stop : EndMark} :
    .stop stop ∈ stream.tokens ↔ stop = stream.stop := by
  simp [tokens]

/-- The tokens of a text stand in the order of their places, the end mark behind the text. -/
theorem pairwise_tokens {text : String} {stream : TokenStream} (read : scan text = .ok stream) :
    stream.tokens.Pairwise fun token later => token.pos < later.pos := by
  obtain ⟨-, ⟨sorted, members⟩, stop⟩ := scan_eq_ok_iff.mp read
  rw [tokens, List.pairwise_append]
  refine ⟨List.pairwise_map.mpr sorted, List.pairwise_singleton _ _, ?_⟩
  intro token member last isLast
  obtain ⟨l, inside, rfl⟩ := List.mem_map.mp member
  obtain rfl := List.mem_singleton.mp isLast
  have before := ((members l).mp inside).pos_lt
  simpa only [Token.pos, stop] using before

end TokenStream

/-- A text of the alphabet whose runs of digits keep to the limit is cut into the lexemes that its
characters yield, each once and in the order of their places, before one end mark at its length:
no character yields two of them, and only spaces yield none. Every other text is refused for the
fault at the least faulty place, and the message names the place, and the character if that is the
fault. -/
theorem scan_follows_lexical_rules (text : String) :
    (Readable text.toList → ∃ stream, TokenStream.scan text = .ok stream ∧
      stream.tokens.Pairwise (fun token later => token.pos < later.pos) ∧
      (∀ l, .lexeme l ∈ stream.tokens ↔ ∃ i, Yields text.toList i l) ∧
      (∀ stop, .stop stop ∈ stream.tokens ↔ stop = ⟨none, text.toList.length⟩) ∧
      stream.tokens.getLast? = some (.stop ⟨none, text.toList.length⟩) ∧
      ∀ i c, text.toList[i]? = some c →
        (c = ' ' → ∀ l, ¬Yields text.toList i l) ∧ (c ≠ ' ' → ∃! l, Yields text.toList i l)) ∧
    (¬Readable text.toList → ∃ pos error, IsLeast {pos | FaultyAt text.toList pos} pos ∧
      TokenStream.scan text = .error error ∧
      ((∃ c, text.toList[pos]? = some c ∧ ¬Permitted c ∧ error.kind = .illegalCharacter ∧
        error.message = "Unexpected character " ++ Text.quote c.toString ++ " at position " ++
          Numeral.write pos) ∨
       (∃ run, RunAt text.toList run pos ∧ Numeral.digitLimit < run.length ∧
        error.kind = .invalidExpression ∧
        error.message = "Numeric literal too long at position " ++ Numeral.write pos))) := by
  constructor
  · intro readable
    have faultless := readable_iff.mp readable
    cases read : TokenStream.scan text with
    | error error => exact absurd (scan_eq_error_iff.mp read).1 (faultless error)
    | ok stream =>
      obtain ⟨-, ⟨-, members⟩, stop⟩ := scan_eq_ok_iff.mp read
      refine ⟨stream, rfl, TokenStream.pairwise_tokens read, ?_, ?_, ?_, ?_⟩
      · intro l
        rw [TokenStream.lexeme_mem_tokens, members, readable.standsIn_iff]
      · intro last
        rw [TokenStream.stop_mem_tokens, stop]
      · rw [TokenStream.tokens, List.getLast?_concat, stop]
      · intro i c stands
        constructor
        · rintro rfl l yields
          obtain ⟨d, found, noSpace⟩ := yields.exists_getElem
          rw [stands] at found
          exact noSpace (Option.some.inj found).symm
        · intro noSpace
          have permitted := readable.permitted c (List.mem_of_getElem? stands)
          obtain ⟨l, yields⟩ := exists_yields stands permitted noSpace
          exact ⟨l, yields, fun other also => also.unique yields⟩
  · intro unreadable
    cases read : TokenStream.scan text with
    | ok stream => exact absurd (readable_iff.mpr (scan_eq_ok_iff.mp read).1) unreadable
    | error error =>
      have first := scan_eq_error_iff.mp read
      refine ⟨error.pos, error, first.isLeast, rfl, ?_⟩
      cases error with
      | illegalCharacter c pos =>
        obtain ⟨stands, outside⟩ := first.1
        rw [← permitted_iff_inAlphabet] at outside
        exact .inl ⟨c, stands, outside, rfl, rfl⟩
      | literalTooLong pos =>
        obtain ⟨run, runs, long⟩ := first.1
        exact .inr ⟨run, runs, long, rfl, rfl⟩

/-- `007*2` begins with one number, leading zeros and all; `1.5` is refused for its point. -/
theorem scan_follows_lexical_rules_in_product :
    Readable "007*2".toList ∧
      (∃ stream, TokenStream.scan "007*2" = .ok stream ∧ .lexeme (.number 7 0) ∈ stream.tokens ∧
        .lexeme (.mark .star (some "*") 3) ∈ stream.tokens) ∧
      ¬Readable "1.5".toList ∧
      ∃ error, TokenStream.scan "1.5" = .error error ∧ error.kind = .illegalCharacter := by
  have short {text run : List Char} {start : Nat} (few : text.length ≤ Numeral.digitLimit)
      (runs : RunAt text run start) : run.length ≤ Numeral.digitLimit := by
    obtain ⟨-, -, before, after, rfl, -, -, -⟩ := runs
    rw [List.length_append, List.length_append] at few
    omega
  have readable : Readable "007*2".toList := by
    refine ⟨?_, fun run start => short (by decide)⟩
    intro c member
    have inside : "007*2".toList.all (fun c => InAlphabet c) = true := by decide +kernel
    rw [permitted_iff_inAlphabet]
    simpa using List.all_eq_true.mp inside c member
  have unreadable : ¬Readable "1.5".toList := by
    intro readable
    have point := readable.permitted '.' (by decide)
    rw [permitted_iff_inAlphabet] at point
    exact absurd point (by decide)
  have zeros : RunAt "007*2".toList ['0', '0', '7'] 0 :=
    ⟨by decide, by simp, [], ['*', '2'], rfl, rfl, by simp, by simp⟩
  obtain ⟨stream, read, -, lexemes, -⟩ := (scan_follows_lexical_rules "007*2").1 readable
  obtain ⟨pos, error, -, refused, ⟨c, -, -, kind, -⟩ | ⟨run, runs, long, -⟩⟩ :=
    (scan_follows_lexical_rules "1.5").2 unreadable
  · refine ⟨readable, ⟨stream, read, ?_, ?_⟩, unreadable, error, refused, kind⟩
    · exact (lexemes _).mpr ⟨0, .number zeros (by decide) (by decide)⟩
    · exact (lexemes _).mpr ⟨3, .mark rfl (show ('*', Mark.star) ∈ Mark.characters by decide)⟩
  · exact absurd (short (by decide) runs) (Nat.not_le_of_lt long)

end Reckoner
