import Reckoner.Error
import Reckoner.Proofs.Phrases
import Reckoner.Proofs.Scanning

/-! # Scanning part by part

Cut where no run of digits leads across, a text is scanned part by part: the second part as it
would be on its own, but for its place. What is left of a scan without the places, its outline, is
then the outline of the parts one after the other, or that of the first part that fails.
-/

namespace Reckoner

theorem Cuts.before_of_not_digit {c : Char} (digit : c.isDigit = false) (before rest : List Char) :
    Cuts before (c :: rest) := by
  refine .inr ?_
  rintro d ⟨⟩
  exact digit

/-- A cut leads through a run of digits. -/
def BetweenDigits (before rest : List Char) : Prop :=
  (∃ c ∈ before.getLast?, c.isDigit = true) ∧ ∃ c ∈ rest.head?, c.isDigit = true

namespace Cuts

variable {before back rest : List Char}

theorem iff_not_betweenDigits : Cuts before rest ↔ ¬BetweenDigits before rest := by
  rw [BetweenDigits, not_and_or]
  simp only [not_exists, not_and, Bool.not_eq_true]
  rfl

/-- A cut behind two parts is a cut behind the second. -/
theorem behind (front : List Char) (cuts : Cuts (front ++ back) rest) : Cuts back rest := by
  by_cases nonempty : back = []
  · exact .inl (by simp [nonempty])
  · rwa [Cuts, List.getLast?_append_of_ne_nil _ nonempty] at cuts

theorem append_right (nonempty : back ≠ []) (cuts : Cuts before back) (rest : List Char) :
    Cuts before (back ++ rest) := by
  rwa [Cuts, List.head?_append_of_ne_nil _ nonempty]

/-- Behind a run of digits a cut comes before no digit. -/
theorem maximal {run : List Char} (nonempty : run ≠ []) (digits : ∀ c ∈ run, c.isDigit = true)
    (cuts : Cuts run rest) : ∀ c ∈ rest.head?, c.isDigit = false := by
  rcases cuts with noDigit | maximal
  · have last := noDigit _ (List.getLast?_eq_some_getLast nonempty)
    rw [digits _ (List.getLast_mem nonempty)] at last
    cases last
  · exact maximal

end Cuts

namespace TokenStream

private theorem map_prepend_bind (front : List Lexeme) (first : Except LexicalError TokenStream)
    (second : Except LexicalError TokenStream) :
    ((first >>= fun stream => second.map (prepend stream.lexemes)).map (prepend front)) =
      first.map (prepend front) >>= fun stream => second.map (prepend stream.lexemes) := by
  cases first with
  | error error => rfl
  | ok stream => exact map_prepend_prepend front stream.lexemes second

/-- The scan of a text goes through its parts. -/
theorem scanFrom_append {before rest : List Char} (cuts : Cuts before rest) (pos : Nat) :
    scanFrom pos (before ++ rest) = scanFrom pos before >>= fun stream =>
      (scanFrom (pos + before.length) rest).map (prepend stream.lexemes) := by
  induction before using scanInduction generalizing pos with
  | nil =>
    rw [scanFrom_nil]
    change scanFrom pos rest = (scanFrom pos rest).map (prepend [])
    cases scanFrom pos rest <;> rfl
  | space before ih =>
    rw [List.cons_append, scanFrom_space, scanFrom_space, ih (Cuts.behind [' '] cuts),
      List.length_cons, Nat.add_right_comm, Nat.add_assoc]
  | mark c m before mark ih =>
    rw [List.cons_append, scanFrom_mark mark, scanFrom_mark mark, ih (Cuts.behind [c] cuts),
      map_prepend_bind, List.length_cons, Nat.add_right_comm, Nat.add_assoc]
  | run run before nonempty digits maximal ih =>
    have behind : ∀ c ∈ (before ++ rest).head?, c.isDigit = false := by
      cases before with
      | nil =>
        rw [List.append_nil] at cuts
        exact cuts.maximal nonempty digits
      | cons c before => exact maximal
    rw [List.append_assoc, scanFrom_run nonempty digits behind,
      scanFrom_run nonempty digits maximal]
    split
    · rfl
    · rw [ih (cuts.behind run), map_prepend_bind, List.length_append, Nat.add_assoc]
  | illegal c before outside =>
    rw [List.cons_append, scanFrom_outside outside, scanFrom_outside outside]
    rfl

/-- A run of digits that is too long is a fault, whatever follows it. -/
theorem scanFrom_run_of_long {run : List Char} (digits : ∀ c ∈ run, c.isDigit = true)
    (long : Numeral.digitLimit < run.length) (pos : Nat) (rest : List Char) :
    scanFrom pos (run ++ rest) = .error (.literalTooLong pos) := by
  -- More digits may follow, and then the maximal run is longer still.
  have parts : run ++ rest =
      (run ++ rest.takeWhile Char.isDigit) ++ rest.dropWhile Char.isDigit := by
    rw [List.append_assoc, List.takeWhile_append_dropWhile]
  have nonempty : run ≠ [] := List.ne_nil_of_length_pos (Nat.zero_lt_of_lt long)
  rw [parts, scanFrom_run (by simp [nonempty]), if_pos]
  · rw [List.length_append]
    omega
  · intro c member
    rcases List.mem_append.mp member with first | further
    · exact digits c first
    · exact List.mem_takeWhile_imp further
  · intro c first
    have stops := List.head?_dropWhile_not Char.isDigit rest
    rw [first] at stops
    exact stops

/-- A fault stands, whatever follows the text and even where no cut leads. -/
theorem scanFrom_append_of_error {pos : Nat} {text : List Char} {error : LexicalError}
    (refused : scanFrom pos text = .error error) (rest : List Char) :
    scanFrom pos (text ++ rest) = .error error := by
  have behind {front : List Lexeme} {read : Except LexicalError TokenStream}
      (failed : read.map (prepend front) = .error error) : read = .error error := by
    cases read with
    | error other => exact failed
    | ok stream => cases failed
  induction text using scanInduction generalizing pos with
  | nil =>
    rw [scanFrom_nil] at refused
    cases refused
  | space text ih =>
    rw [scanFrom_space] at refused
    rw [List.cons_append, scanFrom_space, ih refused]
  | mark c m text mark ih =>
    rw [scanFrom_mark mark] at refused
    rw [List.cons_append, scanFrom_mark mark, ih (behind refused)]
    rfl
  | run run text nonempty digits maximal ih =>
    rw [scanFrom_run nonempty digits maximal] at refused
    rw [List.append_assoc]
    split at refused
    · next long =>
      rw [scanFrom_run_of_long digits long]
      exact refused
    · next short =>
      have later := behind refused
      have ends : ∀ c ∈ (text ++ rest).head?, c.isDigit = false := by
        cases text with
        | nil =>
          rw [scanFrom_nil] at later
          cases later
        | cons c text => exact maximal
      rw [scanFrom_run nonempty digits ends, if_neg short, ih later]
      rfl
  | illegal c text outside =>
    rw [scanFrom_outside outside] at refused
    rw [List.cons_append, scanFrom_outside outside]
    exact refused

end TokenStream

namespace Lexeme

def shift (n : Nat) : Lexeme → Lexeme
  | .number value pos => .number value (pos + n)
  | .mark m spelling pos => .mark m spelling (pos + n)

theorem bare_shift (n : Nat) (l : Lexeme) : (l.shift n).bare = l.bare := by
  cases l <;> rfl

theorem bare_bare (l : Lexeme) : l.bare.bare = l.bare := by
  cases l <;> rfl

end Lexeme

namespace LexicalError

def shift (n : Nat) : LexicalError → LexicalError
  | .illegalCharacter c pos => .illegalCharacter c (pos + n)
  | .literalTooLong pos => .literalTooLong (pos + n)

theorem kind_shift (n : Nat) (error : LexicalError) : (error.shift n).kind = error.kind := by
  cases error <;> rfl

/-- In the message about a fault only its place moves. -/
theorem exists_message_shift (n : Nat) (error : LexicalError) :
    ∃ text, error.message = text ++ " at position " ++ Numeral.write error.pos ∧
      (error.shift n).message = text ++ " at position " ++ Numeral.write (error.pos + n : Nat) := by
  cases error with
  | illegalCharacter c pos => exact ⟨_, rfl, rfl⟩
  | literalTooLong pos => exact ⟨_, rfl, rfl⟩

end LexicalError

def Token.shift (n : Nat) : Token → Token
  | .lexeme l => .lexeme (l.shift n)
  | .stop e => .stop ⟨e.spelling, e.pos + n⟩

namespace TokenStream

def shift (n : Nat) (stream : TokenStream) : TokenStream :=
  ⟨stream.lexemes.map (Lexeme.shift n), ⟨stream.stop.spelling, stream.stop.pos + n⟩⟩

/-- What a scan finds, moved on by `n` characters. -/
def shiftScan (n : Nat) (read : Except LexicalError TokenStream) :
    Except LexicalError TokenStream :=
  (read.map (shift n)).mapError (LexicalError.shift n)

theorem tokens_shift (n : Nat) (stream : TokenStream) :
    (stream.shift n).tokens = stream.tokens.map (Token.shift n) := by
  simp [tokens, shift, Token.shift, Function.comp_def]

theorem tokens_prepend (front stream : TokenStream) :
    (stream.prepend front.lexemes).tokens = front.tokens.dropLast ++ stream.tokens := by
  simp [tokens, prepend]

theorem shiftScan_map_prepend (n : Nat) (l : Lexeme) (read : Except LexicalError TokenStream) :
    shiftScan n (read.map (prepend [l])) = (shiftScan n read).map (prepend [l.shift n]) := by
  cases read <;> rfl

/-- Where a text begins only moves what is found in it. -/
theorem scanFrom_add (pos n : Nat) (text : List Char) :
    scanFrom (pos + n) text = shiftScan n (scanFrom pos text) := by
  induction text using scanInduction generalizing pos with
  | nil =>
    rw [scanFrom_nil, scanFrom_nil]
    rfl
  | space text ih => rw [scanFrom_space, scanFrom_space, Nat.add_right_comm, ih]
  | mark c m text mark ih =>
    rw [scanFrom_mark mark, scanFrom_mark mark, Nat.add_right_comm, ih, shiftScan_map_prepend]
    rfl
  | run run text nonempty digits maximal ih =>
    rw [scanFrom_run nonempty digits maximal, scanFrom_run nonempty digits maximal]
    split
    · rfl
    · rw [Nat.add_right_comm, ih, shiftScan_map_prepend]
      rfl
  | illegal c text outside =>
    rw [scanFrom_outside outside, scanFrom_outside outside]
    rfl

end TokenStream

/-- Scanning is local. Where no run of digits leads across the border of two texts, the tokens of
the whole are those of the first text without their end mark, and then those of the second, moved
on by the length of the first; and a fault of the second text is one of the whole, moved on in the
same way. A fault of the first text is the fault of the whole, even where a run leads across. -/
theorem scan_goes_part_by_part (front back : String) :
    (Cuts front.toList back.toList → ∀ stream, TokenStream.scan front = .ok stream →
      (∀ other, TokenStream.scan back = .ok other →
        ∃ whole, TokenStream.scan (front ++ back) = .ok whole ∧
          whole.tokens = stream.tokens.dropLast ++ other.tokens.map (Token.shift front.length)) ∧
      ∀ error, TokenStream.scan back = .error error →
        TokenStream.scan (front ++ back) = .error (error.shift front.length) ∧
          (error.shift front.length).kind = error.kind ∧
          ∃ text, error.message = text ++ " at position " ++ Numeral.write error.pos ∧
            (error.shift front.length).message =
              text ++ " at position " ++ Numeral.write (error.pos + front.length : Nat)) ∧
      ∀ error, TokenStream.scan front = .error error →
        TokenStream.scan (front ++ back) = .error error := by
  constructor
  · intro cuts stream read
    have whole : TokenStream.scan (front ++ back) =
        (TokenStream.shiftScan front.length (TokenStream.scan back)).map
          (TokenStream.prepend stream.lexemes) := by
      have parts := TokenStream.scanFrom_append cuts 0
      rw [show TokenStream.scanFrom 0 front.toList = .ok stream from read, String.length_toList,
        TokenStream.scanFrom_add] at parts
      rw [TokenStream.scan, String.toList_append]
      exact parts
    constructor
    · intro other readOther
      rw [readOther] at whole
      refine ⟨_, whole, ?_⟩
      rw [TokenStream.tokens_prepend, TokenStream.tokens_shift]
    · intro error refused
      rw [refused] at whole
      exact ⟨whole, error.kind_shift _, error.exists_message_shift _⟩
  · intro error refused
    rw [TokenStream.scan, String.toList_append]
    exact TokenStream.scanFrom_append_of_error refused back.toList

/-- The `$` in `2 $` moves on behind `(1 `; the one in `1$2` stays where it is, also when the digit
behind it goes on. -/
theorem scan_goes_part_by_part_at_fault :
    Cuts "(1 ".toList "2 $".toList ∧ ¬Cuts "1$2".toList "34".toList ∧
      TokenStream.scan ("(1 " ++ "2 $") = .error (.illegalCharacter '$' 5) ∧
      TokenStream.scan ("1$2" ++ "34") = .error (.illegalCharacter '$' 1) := by
  have cuts : Cuts "(1 ".toList "2 $".toList := .of_not_digit rfl ['(', '1'] _
  have through : ¬Cuts "1$2".toList "34".toList := by simp [Cuts]
  have first : TokenStream.scan "(1 " = .ok ⟨[.mark .opening (some "(") 0, .number 1 1],
      ⟨none, 3⟩⟩ := by decide +kernel
  have second : TokenStream.scan "2 $" = .error (.illegalCharacter '$' 2) := by decide +kernel
  have fault : TokenStream.scan "1$2" = .error (.illegalCharacter '$' 1) := by decide +kernel
  exact ⟨cuts, through, (((scan_goes_part_by_part _ _).1 cuts _ first).2 _ second).1,
    (scan_goes_part_by_part _ _).2 _ fault⟩

/-- What a scan finds, without the places: the bare lexemes, or the kind of the fault. -/
def outlineOf (read : Except LexicalError TokenStream) : Except ErrorKind (List Lexeme) :=
  (read.map fun stream => stream.lexemes.map Lexeme.bare).mapError LexicalError.kind

def outline (text : List Char) : Except ErrorKind (List Lexeme) :=
  outlineOf (TokenStream.scanFrom 0 text)

/-- The outline of a text does not depend on where the text begins. -/
theorem outlineOf_scanFrom (pos : Nat) (text : List Char) :
    outlineOf (TokenStream.scanFrom pos text) = outline text := by
  have shifted := TokenStream.scanFrom_add 0 pos text
  rw [Nat.zero_add] at shifted
  rw [outline, shifted]
  cases TokenStream.scanFrom 0 text with
  | error error => exact congrArg Except.error (LexicalError.kind_shift pos error)
  | ok stream =>
    have same : (stream.lexemes.map (Lexeme.shift pos)).map Lexeme.bare =
        stream.lexemes.map Lexeme.bare := by
      rw [List.map_map]
      exact List.map_congr_left fun l _ => l.bare_shift pos
    exact congrArg Except.ok same

/-- The outline of a text is that of its parts, one after the other. -/
theorem outline_append {before rest : List Char} (cuts : Cuts before rest) :
    outline (before ++ rest) = (do
      let front ← outline before
      let back ← outline rest
      return front ++ back) := by
  rw [outline, TokenStream.scanFrom_append cuts, outline,
    ← outlineOf_scanFrom (0 + before.length) rest]
  cases TokenStream.scanFrom 0 before with
  | error error => rfl
  | ok stream =>
    cases TokenStream.scanFrom (0 + before.length) rest with
    | error error => rfl
    | ok other => exact congrArg Except.ok List.map_append

theorem outline_append_eq_ok_iff {before rest : List Char} (cuts : Cuts before rest)
    {lexemes : List Lexeme} : outline (before ++ rest) = .ok lexemes ↔
      ∃ front back, outline before = .ok front ∧ outline rest = .ok back ∧
        lexemes = front ++ back := by
  rw [outline_append cuts]
  cases outline before with
  | error kind => simp [bind, Except.bind]
  | ok front =>
    cases outline rest with
    | error kind => simp [bind, Except.bind]
    | ok back => simp [bind, Except.bind, pure, Except.pure, eq_comm]

theorem outline_nil : outline [] = .ok [] := by
  rw [outline, TokenStream.scanFrom_nil]
  rfl

theorem outline_space (text : List Char) : outline (' ' :: text) = outline text := by
  rw [outline, TokenStream.scanFrom_space, outlineOf_scanFrom]

theorem outline_mark {c : Char} {m : Mark} (mark : Mark.ofChar? c = some m) :
    outline [c] = .ok [.mark m none 0] := by
  rw [outline, TokenStream.scanFrom_mark mark, TokenStream.scanFrom_nil]
  rfl

/-- A text is cut on both sides of a mark. -/
theorem outline_append_mark {c : Char} {m : Mark} (mark : Mark.ofChar? c = some m)
    (before rest : List Char) :
    outline (before ++ c :: rest) = (do
      let front ← outline before
      let back ← outline rest
      return front ++ .mark m none 0 :: back) := by
  have digit := isDigit_eq_false_of_mark mark
  have behind : Cuts [c] rest := .of_not_digit digit [] rest
  rw [outline_append (.before_of_not_digit digit before rest), ← List.singleton_append,
    outline_append behind, outline_mark mark]
  cases outline before with
  | error kind => rfl
  | ok front => cases outline rest <;> rfl

theorem outline_run {run : List Char} (nonempty : run ≠ [])
    (digits : ∀ c ∈ run, c.isDigit = true) :
    outline run = if Numeral.digitLimit < run.length then .error .invalidExpression
      else .ok [.number (Numeral.value run) 0] := by
  have read := @TokenStream.scanFrom_run 0 run [] nonempty digits (by simp)
  rw [List.append_nil, TokenStream.scanFrom_nil] at read
  rw [outline, read]
  split <;> rfl

theorem outline_run_eq_ok {run : List Char} (nonempty : run ≠ [])
    (digits : ∀ c ∈ run, c.isDigit = true) {lexemes : List Lexeme}
    (read : outline run = .ok lexemes) : lexemes = [.number (Numeral.value run) 0] := by
  rw [outline_run nonempty digits] at read
  split at read
  · cases read
  · exact (Except.ok.inj read).symm

end Reckoner
