import Mathlib.Data.List.DropRight
import Mathlib.Data.List.TakeWhile
import Reckoner.Token.Standing

/-! # The scanner finds what stands in a text

A text is empty, or it begins with a space, a mark, a maximal run of digits or a character outside
the alphabet: `scanInduction` goes through it in these stretches. What the scanner reads from a
place on, when no run of digits leads across it, is what stands in the whole text from there on;
each stretch adds just the lexemes and faults that begin in it.
-/

namespace Reckoner

def Mark.characters : List (Char × Mark) :=
  [('+', .plus), ('-', .minus), ('*', .star), ('/', .slash), ('(', .opening), (')', .closing)]

theorem Mark.ofChar?_eq_some_iff {c : Char} {m : Mark} :
    Mark.ofChar? c = some m ↔ (c, m) ∈ Mark.characters := by
  constructor
  · intro mark
    unfold Mark.ofChar? at mark
    split at mark <;> cases mark <;> decide
  · intro listed
    have each : ∀ pair ∈ Mark.characters, Mark.ofChar? pair.1 = some pair.2 := by decide
    exact each _ listed

theorem isDigit_eq_false_of_mark {c : Char} {m : Mark} (mark : Mark.ofChar? c = some m) :
    c.isDigit = false := by
  have each : ∀ pair ∈ Mark.characters, pair.1.isDigit = false := by decide
  exact each _ (Mark.ofChar?_eq_some_iff.mp mark)

/-- A text is gone through stretch by stretch; behind a character outside the alphabet there is
nothing left to say. -/
@[elab_as_elim]
theorem scanInduction {motive : List Char → Prop} (nil : motive [])
    (space : ∀ rest, motive rest → motive (' ' :: rest))
    (mark : ∀ c m rest, Mark.ofChar? c = some m → motive rest → motive (c :: rest))
    (run : ∀ run rest, run ≠ [] → (∀ c ∈ run, c.isDigit = true) →
      (∀ c ∈ rest.head?, c.isDigit = false) → motive rest → motive (run ++ rest))
    (illegal : ∀ c rest, ¬InAlphabet c → motive (c :: rest)) (text : List Char) : motive text := by
  induction length : text.length using Nat.strongRecOn generalizing text with
  | ind n ih =>
    subst length
    match text with
    | [] => exact nil
    | c :: rest =>
      by_cases digit : c.isDigit = true
      · have split := @List.takeWhile_append_dropWhile _ Char.isDigit rest
        have parts :
            c :: rest = (c :: rest.takeWhile Char.isDigit) ++ rest.dropWhile Char.isDigit := by
          rw [List.cons_append, split]
        rw [parts]
        refine run _ _ (List.cons_ne_nil _ _) ?_ ?_ (ih _ ?_ _ rfl)
        · intro d member
          obtain rfl | member := List.mem_cons.mp member
          · exact digit
          · exact List.mem_takeWhile_imp member
        · intro d first
          have stops := List.head?_dropWhile_not Char.isDigit rest
          rw [first] at stops
          exact stops
        · exact Nat.lt_succ_of_le (List.dropWhile_suffix _).length_le
      · by_cases blank : c = ' '
        · subst blank
          exact space rest (ih _ (Nat.lt_succ_self _) rest rfl)
        · cases found : Mark.ofChar? c with
          | some m => exact mark c m rest found (ih _ (Nat.lt_succ_self _) rest rfl)
          | none => exact illegal c rest (by simp [InAlphabet, digit, blank, found])

/-- A maximal run at a place is what the digits from there on are, unless a digit stands before. -/
theorem runAt_iff {text run : List Char} {pos : Nat} : RunAt text run pos ↔
    run ≠ [] ∧ run = (text.drop pos).takeWhile Char.isDigit ∧
      ∀ c ∈ (text.take pos).getLast?, c.isDigit = false := by
  constructor
  · rintro ⟨nonempty, digits, before, after, rfl, rfl, starts, ends⟩
    rw [List.drop_left, List.take_left, List.takeWhile_append_of_pos digits]
    refine ⟨nonempty, ?_, starts⟩
    cases after with
    | nil => simp
    | cons c after => simp [ends c rfl]
  · rintro ⟨nonempty, same, starts⟩
    refine ⟨nonempty, ?_, text.take pos, (text.drop pos).dropWhile Char.isDigit, ?_, ?_, starts, ?_⟩
    · intro c member
      rw [same] at member
      exact List.mem_takeWhile_imp member
    · rw [same, List.takeWhile_append_dropWhile, List.take_append_drop]
    · have inside : pos < text.length := by
        by_contra outside
        rw [List.drop_eq_nil_of_le (by omega)] at same
        exact nonempty same
      rw [List.length_take]
      omega
    · intro c first
      have stops := List.head?_dropWhile_not Char.isDigit (text.drop pos)
      rw [first] at stops
      exact stops

theorem RunAt.isDigit_getElem {text run : List Char} {pos : Nat} (stands : RunAt text run pos) :
    ∃ c, text[pos]? = some c ∧ c.isDigit = true := by
  obtain ⟨nonempty, digits, before, after, rfl, rfl, -, -⟩ := stands
  match run with
  | c :: run => exact ⟨c, by simp, digits c (List.mem_cons_self ..)⟩

/-- Where another character stands, no run of digits begins. -/
theorem RunAt.isDigit_of_standing {text run : List Char} {pos : Nat} {c : Char}
    (stands : RunAt text run pos) (standing : text[pos]? = some c) : c.isDigit = true := by
  obtain ⟨d, found, digit⟩ := stands.isDigit_getElem
  rw [standing] at found
  cases found
  exact digit

theorem RunAt.isDigit_before {text run : List Char} {pos : Nat} {c : Char}
    (stands : RunAt text run (pos + 1)) (digit : text[pos]? = some c) : c.isDigit = false := by
  obtain ⟨-, -, starts⟩ := runAt_iff.mp stands
  apply starts c
  rw [List.getLast?_take]
  simp [digit]

theorem RunAt.unique {text run other : List Char} {pos : Nat} (first : RunAt text run pos)
    (second : RunAt text other pos) : run = other :=
  (runAt_iff.mp first).2.1.trans (runAt_iff.mp second).2.1.symm

theorem RunAt.isDigit_within {text run : List Char} {pos start : Nat} {c : Char}
    (stands : RunAt text run pos) (found : text[start]? = some c) (from_le : pos ≤ start)
    (lt_to : start < pos + run.length) : c.isDigit = true := by
  obtain ⟨-, digits, before, after, rfl, rfl, -, -⟩ := stands
  rw [List.getElem?_append_right from_le, List.getElem?_append_left (by omega),
    List.getElem?_eq_getElem (by omega)] at found
  cases found
  exact digits _ (List.getElem_mem _)

theorem RunAt.eq_of_within {text run other : List Char} {pos start : Nat}
    (stands : RunAt text run pos) (begins : RunAt text other start) (from_le : pos ≤ start)
    (lt_to : start < pos + run.length) : start = pos ∧ other = run := by
  obtain rfl | behind := Nat.eq_or_lt_of_le from_le
  · exact ⟨rfl, begins.unique stands⟩
  · obtain ⟨previous, rfl⟩ : ∃ previous, start = previous + 1 := ⟨start - 1, by omega⟩
    obtain ⟨-, -, before, after, rfl, rfl, -, -⟩ := id stands
    obtain ⟨c, found⟩ : ∃ c, (before ++ (run ++ after))[previous]? = some c := by
      refine ⟨_, List.getElem?_eq_getElem ?_⟩
      simp only [List.length_append]
      omega
    have digit := stands.isDigit_within found (by omega) (by omega)
    rw [begins.isDigit_before found] at digit
    cases digit

/-- A lexeme that stands in a text is a run of digits within the limit or a mark. -/
theorem Lexeme.standsIn_iff {text : List Char} {l : Lexeme} : l.StandsIn text ↔
    (∃ run start, RunAt text run start ∧ run.length ≤ Numeral.digitLimit ∧
      l = .number (Numeral.value run) (start : Nat)) ∨
    ∃ c m start, text[start]? = some c ∧ Mark.ofChar? c = some m ∧
      l = .mark m (some c.toString) (start : Nat) := by
  constructor
  · intro stands
    match l with
    | .number value pos =>
      obtain ⟨run, start, runs, short, rfl, rfl⟩ := stands
      exact .inl ⟨run, start, runs, short, rfl⟩
    | .mark m spelling pos =>
      obtain ⟨c, start, found, mark, rfl, rfl⟩ := stands
      exact .inr ⟨c, m, start, found, mark, rfl⟩
  · rintro (⟨run, start, runs, short, rfl⟩ | ⟨c, m, start, found, mark, rfl⟩)
    · exact ⟨run, start, runs, short, rfl, rfl⟩
    · exact ⟨c, start, found, mark, rfl, rfl⟩

/-- A lexeme that begins where no digit stands is the mark for the character there. -/
theorem Lexeme.StandsIn.eq_mark {text : List Char} {pos : Nat} {c : Char} {l : Lexeme}
    (stands : l.StandsIn text) (here : l.pos = (pos : Nat)) (standing : text[pos]? = some c)
    (digit : c.isDigit = false) :
    ∃ m, Mark.ofChar? c = some m ∧ l = .mark m (some c.toString) (pos : Nat) := by
  rcases Lexeme.standsIn_iff.mp stands with
    ⟨run, start, runs, -, rfl⟩ | ⟨d, m, start, found, mark, rfl⟩
  all_goals
    simp only [Lexeme.pos] at here
    obtain rfl : start = pos := by omega
  · rw [runs.isDigit_of_standing standing] at digit
    cases digit
  · rw [standing] at found
    cases found
    exact ⟨m, mark, rfl⟩

/-- A character of the alphabet that is no digit is no fault. -/
theorem LexicalError.StandsIn.pos_ne {text : List Char} {pos : Nat} {c : Char}
    {error : LexicalError} (stands : error.StandsIn text) (standing : text[pos]? = some c)
    (digit : c.isDigit = false) (inside : InAlphabet c) : error.pos ≠ pos := by
  rintro rfl
  match error with
  | .illegalCharacter d start =>
    obtain ⟨found, outside⟩ := stands
    rw [LexicalError.pos, found] at standing
    cases standing
    exact outside inside
  | .literalTooLong start =>
    obtain ⟨run, runs, -⟩ := stands
    rw [runs.isDigit_of_standing standing] at digit
    cases digit

theorem LexicalError.eq_of_pos_eq {text : List Char} {error other : LexicalError}
    (first : error.StandsIn text) (second : other.StandsIn text) (same : error.pos = other.pos) :
    error = other := by
  match error, other with
  | .illegalCharacter c start, .illegalCharacter d start' =>
    obtain rfl : start = start' := same
    have char := first.1.symm.trans second.1
    cases char
    rfl
  | .literalTooLong start, .literalTooLong start' => exact congrArg _ same
  | .illegalCharacter c start, .literalTooLong start' =>
    obtain rfl : start = start' := same
    obtain ⟨run, runs, -⟩ := second
    exact absurd (.inl (runs.isDigit_of_standing first.1)) first.2
  | .literalTooLong start, .illegalCharacter c start' =>
    obtain rfl : start = start' := same
    obtain ⟨run, runs, -⟩ := first
    exact absurd (.inl (runs.isDigit_of_standing second.1)) second.2

/-- A scan from a place on has found what stands in the text from there on: all lexemes in order,
when there is no fault, and the first fault otherwise. -/
def FoundFrom (text : List Char) (pos : Nat) : Except LexicalError TokenStream → Prop
  | .ok stream => stream.stop = ⟨none, text.length⟩ ∧
      stream.lexemes.Pairwise (fun l l' => l.pos < l'.pos) ∧
      (∀ l, l ∈ stream.lexemes ↔ l.StandsIn text ∧ pos ≤ l.pos) ∧
      ∀ error : LexicalError, error.StandsIn text → error.pos < pos
  | .error error => error.StandsIn text ∧ pos ≤ error.pos ∧
      ∀ other : LexicalError, other.StandsIn text → pos ≤ other.pos → error.pos ≤ other.pos

/-- A stretch without faults adds the lexemes that begin in it; there is at most one. -/
theorem FoundFrom.step {text : List Char} {pos next : Nat} {new : List Lexeme}
    {read : Except LexicalError TokenStream} (forward : pos ≤ next) (few : new.length ≤ 1)
    (adds : ∀ l, l ∈ new ↔ l.StandsIn text ∧ (pos : Int) ≤ l.pos ∧ l.pos < next)
    (clean : ∀ error : LexicalError, error.StandsIn text → pos ≤ error.pos → next ≤ error.pos)
    (found : FoundFrom text next read) :
    FoundFrom text pos (read.map (TokenStream.prepend new)) := by
  match read with
  | .error error =>
    obtain ⟨stands, behind, least⟩ := found
    exact ⟨stands, forward.trans behind, fun other standing later =>
      least other standing (clean other standing later)⟩
  | .ok stream =>
    obtain ⟨stop, sorted, members, faults⟩ := found
    refine ⟨stop, List.pairwise_append.mpr ⟨?_, sorted, ?_⟩, ?_, ?_⟩
    · match new with
      | [] => exact .nil
      | [l] => exact List.pairwise_singleton _ _
    · intro l member l' member'
      have before := ((adds l).mp member).2.2
      have behind := ((members l').mp member').2
      omega
    · intro l
      simp only [TokenStream.prepend, List.mem_append, adds, members]
      constructor
      · rintro (⟨stands, from_le, -⟩ | ⟨stands, from_le⟩)
        · exact ⟨stands, from_le⟩
        · exact ⟨stands, by omega⟩
      · rintro ⟨stands, from_le⟩
        obtain before | behind := Int.lt_or_le l.pos next
        · exact .inl ⟨stands, from_le, before⟩
        · exact .inr ⟨stands, behind⟩
    · intro error stands
      by_contra later
      have behind := clean error stands (by omega)
      have before := faults error stands
      omega

namespace FoundFrom

variable {text : List Char} {pos : Nat} {read : Except LexicalError TokenStream}

/-- A character of the alphabet that is no digit adds its mark, if it has one. -/
theorem character {c : Char} (standing : text[pos]? = some c) (digit : c.isDigit = false)
    (inside : InAlphabet c) (found : FoundFrom text (pos + 1) read) : FoundFrom text pos
      (read.map (TokenStream.prepend
        ((Mark.ofChar? c).toList.map fun m => .mark m (some c.toString) (pos : Nat)))) := by
  refine found.step (Nat.le_succ pos) ?_ ?_ ?_
  · rw [List.length_map]
    exact Option.length_toList_le
  · intro l
    rw [List.mem_map]
    constructor
    · rintro ⟨m, mark, rfl⟩
      refine ⟨⟨c, pos, standing, Option.mem_toList.mp mark, rfl, rfl⟩, Int.le_refl _, ?_⟩
      simp only [Lexeme.pos]
      omega
    · rintro ⟨stands, from_le, before⟩
      obtain ⟨m, mark, rfl⟩ := stands.eq_mark (show l.pos = pos by omega) standing digit
      exact ⟨m, Option.mem_toList.mpr mark, rfl⟩
  · intro error stands from_le
    have elsewhere := stands.pos_ne standing digit inside
    omega

theorem space (blank : text[pos]? = some ' ') (found : FoundFrom text (pos + 1) read) :
    FoundFrom text pos read := by
  have same : read.map (TokenStream.prepend []) = read := by cases read <;> rfl
  rw [← same]
  exact found.character blank rfl (.inr (.inl rfl))

theorem mark {c : Char} {m : Mark} (standing : text[pos]? = some c) (mark : Mark.ofChar? c = some m)
    (found : FoundFrom text (pos + 1) read) : FoundFrom text pos
      (read.map (TokenStream.prepend [.mark m (some c.toString) (pos : Nat)])) := by
  have whole := found.character standing (isDigit_eq_false_of_mark mark)
    (.inr (.inr (by rw [mark]; rfl)))
  rw [mark] at whole
  exact whole

theorem run {run : List Char} (runs : RunAt text run pos) (short : run.length ≤ Numeral.digitLimit)
    (found : FoundFrom text (pos + run.length) read) : FoundFrom text pos
      (read.map (TokenStream.prepend [.number (Numeral.value run) (pos : Nat)])) := by
  have positive := List.length_pos_iff.mpr runs.1
  refine found.step (Nat.le_add_right ..) (Nat.le_refl 1) ?_ ?_
  · intro l
    rw [List.mem_singleton]
    constructor
    · rintro rfl
      exact ⟨⟨run, pos, runs, short, rfl, rfl⟩, Int.le_refl _, by simp only [Lexeme.pos]; omega⟩
    · rintro ⟨stands, from_le, before⟩
      obtain ⟨other, start, standing, -, rfl⟩ | ⟨c, m, start, standing, mark, rfl⟩ :=
        Lexeme.standsIn_iff.mp stands
      all_goals simp only [Lexeme.pos] at from_le before
      · obtain ⟨rfl, rfl⟩ := runs.eq_of_within standing (by omega) (by omega)
        rfl
      · have digit := runs.isDigit_within standing (by omega) (by omega)
        rw [isDigit_eq_false_of_mark mark] at digit
        cases digit
  · intro error stands from_le
    by_contra before
    match error with
    | .illegalCharacter c start =>
      simp only [LexicalError.pos] at from_le before
      exact stands.2 (.inl (runs.isDigit_within stands.1 from_le (by omega)))
    | .literalTooLong start =>
      obtain ⟨other, standing, long⟩ := stands
      simp only [LexicalError.pos] at from_le before
      obtain ⟨rfl, rfl⟩ := runs.eq_of_within standing from_le (by omega)
      exact absurd short (Nat.not_le_of_lt long)

end FoundFrom

/-- No run of digits leads across a cut. -/
def Cuts (before rest : List Char) : Prop :=
  (∀ c ∈ before.getLast?, c.isDigit = false) ∨ ∀ c ∈ rest.head?, c.isDigit = false

theorem Cuts.of_not_digit {c : Char} (digit : c.isDigit = false) (before rest : List Char) :
    Cuts (before ++ [c]) rest := by
  refine .inl ?_
  rw [List.getLast?_concat]
  rintro d ⟨⟩
  exact digit

theorem exists_last_run {text : List Char} (ends : ∃ c ∈ text.getLast?, c.isDigit = true) :
    ∃ front run, text = front ++ run ∧ run ≠ [] ∧ (∀ c ∈ run, c.isDigit = true) ∧
      Cuts front run := by
  refine ⟨text.rdropWhile Char.isDigit, text.rtakeWhile Char.isDigit,
    List.rdropWhile_append_rtakeWhile.symm, ?_, fun c => List.mem_rtakeWhile_imp, .inl ?_⟩
  · obtain ⟨c, last, digit⟩ := ends
    obtain ⟨shorter, rfl⟩ := List.getLast?_eq_some_iff.mp last
    rw [List.rtakeWhile_concat_pos _ _ _ digit]
    simp
  · intro c last
    obtain ⟨nonempty, rfl⟩ := List.mem_getLast?_eq_getLast last
    exact Bool.eq_false_iff.mpr (List.rdropWhile_last_not _ _ nonempty)

theorem exists_first_run {text : List Char} (begins : ∃ c ∈ text.head?, c.isDigit = true) :
    ∃ run back, text = run ++ back ∧ run ≠ [] ∧ (∀ c ∈ run, c.isDigit = true) ∧
      Cuts run back := by
  refine ⟨text.takeWhile Char.isDigit, text.dropWhile Char.isDigit,
    List.takeWhile_append_dropWhile.symm, ?_, fun c => List.mem_takeWhile_imp, .inr ?_⟩
  · obtain ⟨c, first, digit⟩ := begins
    obtain ⟨rest, rfl⟩ := List.head?_eq_some_iff.mp first
    rw [List.takeWhile_cons_of_pos digit]
    simp
  · intro c first
    have stops := List.head?_dropWhile_not Char.isDigit text
    rw [first] at stops
    exact stops

theorem scanFrom_outside {c : Char} (outside : ¬InAlphabet c) (pos : Nat) (rest : List Char) :
    TokenStream.scanFrom pos (c :: rest) = .error (.illegalCharacter c pos) := by
  obtain ⟨digit, space, mark⟩ : ¬c.isDigit = true ∧ c ≠ ' ' ∧ ¬(Mark.ofChar? c).isSome = true := by
    simpa [InAlphabet, not_or] using outside
  exact TokenStream.scanFrom_illegal (Bool.eq_false_iff.mpr digit) space (by simpa using mark) pos
    rest

/-- From a cut on, the scanner finds what stands in the whole text. -/
theorem scanFrom_found {before rest : List Char} (cuts : Cuts before rest) :
    FoundFrom (before ++ rest) before.length (TokenStream.scanFrom before.length rest) := by
  induction rest using scanInduction generalizing before with
  | nil =>
    rw [TokenStream.scanFrom_nil, List.append_nil]
    refine ⟨rfl, .nil, ?_, ?_⟩
    · intro l
      simp only [List.not_mem_nil, false_iff, not_and]
      intro stands from_le
      obtain ⟨run, start, runs, -, rfl⟩ | ⟨c, m, start, found, -, rfl⟩ :=
        Lexeme.standsIn_iff.mp stands
      all_goals simp only [Lexeme.pos] at from_le
      · obtain ⟨c, found, -⟩ := runs.isDigit_getElem
        have inside := (List.getElem?_eq_some_iff.mp found).1
        omega
      · have inside := (List.getElem?_eq_some_iff.mp found).1
        omega
    · intro error stands
      match error with
      | .illegalCharacter c start => exact (List.getElem?_eq_some_iff.mp stands.1).1
      | .literalTooLong start =>
        obtain ⟨run, runs, -⟩ := stands
        obtain ⟨c, found, -⟩ := runs.isDigit_getElem
        exact (List.getElem?_eq_some_iff.mp found).1
  | space rest ih =>
    rw [TokenStream.scanFrom_space]
    have found := ih (Cuts.of_not_digit (show ' '.isDigit = false from rfl) before rest)
    rw [List.length_append, List.append_assoc] at found
    exact .space (by simp) found
  | mark c m rest mark ih =>
    rw [TokenStream.scanFrom_mark mark]
    have found := ih (Cuts.of_not_digit (isDigit_eq_false_of_mark mark) before rest)
    rw [List.length_append, List.append_assoc] at found
    exact .mark (by simp) mark found
  | run run rest nonempty digits maximal ih =>
    have runs : RunAt (before ++ (run ++ rest)) run before.length := by
      refine ⟨nonempty, digits, before, rest, rfl, rfl, ?_, maximal⟩
      obtain starts | noDigit := cuts
      · exact starts
      · obtain ⟨c, run', rfl⟩ := List.exists_cons_of_ne_nil nonempty
        have isDigit := digits c (List.mem_cons_self ..)
        rw [noDigit c rfl] at isDigit
        cases isDigit
    rw [TokenStream.scanFrom_run nonempty digits maximal]
    split
    · next long => exact ⟨⟨run, runs, long⟩, Nat.le_refl _, fun _ _ later => later⟩
    · next short =>
      have found := ih (show Cuts (before ++ run) rest from .inr maximal)
      rw [List.length_append, List.append_assoc] at found
      exact .run runs (Nat.le_of_not_lt short) found
  | illegal c rest outside =>
    rw [scanFrom_outside outside]
    exact ⟨⟨by simp, outside⟩, Nat.le_refl _, fun _ _ later => later⟩

def LexicalError.IsFirstIn (text : List Char) (error : LexicalError) : Prop :=
  error.StandsIn text ∧ ∀ other : LexicalError, other.StandsIn text → error.pos ≤ other.pos

/-- The lexemes are those of the text, in the order of their places. -/
def AreLexemesOf (text : List Char) (lexemes : List Lexeme) : Prop :=
  lexemes.Pairwise (fun l l' => l.pos < l'.pos) ∧ ∀ l, l ∈ lexemes ↔ l.StandsIn text

theorem AreLexemesOf.unique {text : List Char} {lexemes others : List Lexeme}
    (first : AreLexemesOf text lexemes) (second : AreLexemesOf text others) : lexemes = others := by
  have nodup {list : List Lexeme} (sorted : list.Pairwise fun l l' => l.pos < l'.pos) :
      list.Nodup := sorted.imp fun before same => by rw [same] at before; omega
  have perm : lexemes.Perm others := by
    rw [List.perm_ext_iff_of_nodup (nodup first.1) (nodup second.1)]
    exact fun l => (first.2 l).trans (second.2 l).symm
  exact perm.eq_of_pairwise (fun _ _ _ _ before behind => absurd before (by omega)) first.1 second.1

theorem scan_found (text : String) : FoundFrom text.toList 0 (TokenStream.scan text) := by
  have cuts : Cuts [] text.toList := .inl (by rintro c ⟨⟩)
  exact scanFrom_found cuts

/-- A text is refused for its first fault, if it has any. -/
theorem scan_eq_error_iff {text : String} {error : LexicalError} :
    TokenStream.scan text = .error error ↔ error.IsFirstIn text.toList := by
  have found := scan_found text
  constructor
  · intro refused
    rw [refused] at found
    exact ⟨found.1, fun other stands => found.2.2 other stands (Nat.zero_le _)⟩
  · rintro ⟨stands, least⟩
    match read : TokenStream.scan text with
    | .ok stream =>
      rw [read] at found
      exact absurd (found.2.2.2 error stands) (Nat.not_lt_zero _)
    | .error other =>
      rw [read] at found
      obtain ⟨standing, -, first⟩ := found
      have same := Nat.le_antisymm (first error stands (Nat.zero_le _)) (least other standing)
      rw [LexicalError.eq_of_pos_eq standing stands same]

/-- A text without faults is cut into its lexemes, closed at its length. -/
theorem scan_eq_ok_iff {text : String} {stream : TokenStream} :
    TokenStream.scan text = .ok stream ↔
      (∀ error : LexicalError, ¬error.StandsIn text.toList) ∧
        AreLexemesOf text.toList stream.lexemes ∧ stream.stop = ⟨none, text.toList.length⟩ := by
  have found := scan_found text
  have lexemesOf {stream : TokenStream} (read : TokenStream.scan text = .ok stream) :
      AreLexemesOf text.toList stream.lexemes := by
    rw [read] at found
    refine ⟨found.2.1, ?_⟩
    intro l
    rw [found.2.2.1]
    refine ⟨And.left, fun stands => ⟨stands, ?_⟩⟩
    obtain ⟨run, start, -, -, rfl⟩ | ⟨c, m, start, -, -, rfl⟩ := Lexeme.standsIn_iff.mp stands
    all_goals exact Int.natCast_nonneg start
  constructor
  · intro read
    refine ⟨?_, lexemesOf read, ?_⟩
    · intro error stands
      rw [read] at found
      exact absurd (found.2.2.2 error stands) (Nat.not_lt_zero _)
    · rw [read] at found
      exact found.1
  · rintro ⟨clean, lexemes, stop⟩
    match read : TokenStream.scan text with
    | .error error =>
      rw [read] at found
      exact absurd found.1 (clean error)
    | .ok other =>
      have same : other.lexemes = stream.lexemes := (lexemesOf read).unique lexemes
      rw [read] at found
      obtain ⟨otherStop, -⟩ := found
      cases other
      cases stream
      simp_all

end Reckoner
