import Reckoner.Token

/-! # From text to tokens

A text is read from left to right: a maximal run of digits is a number, each of the six marks is a
lexeme of its own, plain spaces separate, and any other character is an error. Positions count
characters from zero, and the end mark stands at the length of the text. The first fault in
reading order is the one reported.

The reader `scanOnto` keeps what it has read on the side, so its depth does not grow with the
text; the lemmas about `scanFrom` state its rules without that detour.
-/

namespace Reckoner

/-- Why a text cannot be cut into lexemes. -/
inductive LexicalError where
  | illegalCharacter (c : Char) (pos : Nat)
  | literalTooLong (pos : Nat)
deriving DecidableEq, Repr

/-- The mark that a character stands for. -/
def Mark.ofChar? : Char → Option Mark
  | '+' => some .plus
  | '-' => some .minus
  | '*' => some .star
  | '/' => some .slash
  | '(' => some .opening
  | ')' => some .closing
  | _ => none

namespace TokenStream

/-- The stream that has further lexemes in front. -/
def prepend (lexemes : List Lexeme) (stream : TokenStream) : TokenStream :=
  ⟨lexemes ++ stream.lexemes, stream.stop⟩

/-- Reads `text`, which begins at character `pos`, after the lexemes in `done`, latest first. -/
def scanOnto (done : List Lexeme) (pos : Nat) (text : List Char) :
    Except LexicalError TokenStream :=
  match text with
  | [] => .ok ⟨done.reverse, none, pos⟩
  | c :: rest =>
    if c.isDigit then
      let run := c :: rest.takeWhile Char.isDigit
      if Numeral.digitLimit < run.length then .error (.literalTooLong pos)
      else
        scanOnto (.number (Numeral.value run) pos :: done) (pos + run.length)
          (rest.dropWhile Char.isDigit)
    else if c = ' ' then scanOnto done (pos + 1) rest
    else
      match Mark.ofChar? c with
      | some m => scanOnto (.mark m (some c.toString) pos :: done) (pos + 1) rest
      | none => .error (.illegalCharacter c pos)
termination_by text.length
decreasing_by
  all_goals simp only [List.length_cons]
  · exact Nat.lt_succ_of_le (List.dropWhile_suffix _).length_le
  · omega
  · omega

/-- The lexemes of a text that begins at character `pos`. -/
def scanFrom (pos : Nat) (text : List Char) : Except LexicalError TokenStream :=
  scanOnto [] pos text

def scan (text : String) : Except LexicalError TokenStream :=
  scanFrom 0 text.toList

theorem prepend_prepend (front back : List Lexeme) (stream : TokenStream) :
    (stream.prepend back).prepend front = stream.prepend (front ++ back) := by
  simp [prepend]

theorem map_prepend_prepend (front back : List Lexeme) (read : Except LexicalError TokenStream) :
    (read.map (prepend back)).map (prepend front) = read.map (prepend (front ++ back)) := by
  cases read with
  | error e => rfl
  | ok stream => exact congrArg Except.ok (prepend_prepend front back stream)

/-- What was read before goes in front of what is read. -/
theorem scanOnto_eq (done : List Lexeme) (pos : Nat) (text : List Char) :
    scanOnto done pos text = (scanFrom pos text).map (prepend done.reverse) := by
  induction length : text.length using Nat.strongRecOn generalizing done pos text with
  | ind n ih =>
    subst length
    have onto (lexemes : List Lexeme) (next : Nat) (tail : List Char)
        (shorter : tail.length < text.length) :
        scanOnto (lexemes ++ done) next tail =
          (scanOnto lexemes next tail).map (prepend done.reverse) := by
      rw [ih _ shorter (lexemes ++ done) next tail rfl, ih _ shorter lexemes next tail rfl,
        map_prepend_prepend, List.reverse_append]
    match text with
    | [] => simp [scanFrom, scanOnto, Except.map, prepend]
    | c :: rest =>
      have dropped : (rest.dropWhile Char.isDigit).length < (c :: rest).length :=
        Nat.lt_succ_of_le (List.dropWhile_suffix _).length_le
      have tail : rest.length < (c :: rest).length := Nat.lt_succ_self _
      rw [scanFrom, scanOnto, scanOnto]
      by_cases digit : c.isDigit = true
      · simp only [digit, if_true]
        split
        · rfl
        · exact onto [_] _ _ dropped
      · simp only [digit, Bool.false_eq_true, if_false]
        by_cases space : c = ' '
        · simp only [space, if_true]
          exact onto [] _ _ tail
        · simp only [space, if_false]
          cases Mark.ofChar? c with
          | none => rfl
          | some m => exact onto [_] _ _ tail

theorem scanFrom_nil (pos : Nat) : scanFrom pos [] = .ok ⟨[], none, pos⟩ := by
  simp [scanFrom, scanOnto]

private theorem takeWhile_run {run rest : List Char} (digits : ∀ c ∈ run, c.isDigit = true)
    (maximal : ∀ c ∈ rest.head?, c.isDigit = false) :
    (run ++ rest).takeWhile Char.isDigit = run ∧ (run ++ rest).dropWhile Char.isDigit = rest := by
  rw [List.takeWhile_append_of_pos digits, List.dropWhile_append_of_pos digits]
  cases rest with
  | nil => simp
  | cons c rest => simp [maximal c rfl]

/-- Reading begins with a maximal run of digits. -/
theorem scanFrom_run {pos : Nat} {run rest : List Char} (nonempty : run ≠ [])
    (digits : ∀ c ∈ run, c.isDigit = true) (maximal : ∀ c ∈ rest.head?, c.isDigit = false) :
    scanFrom pos (run ++ rest) =
      if Numeral.digitLimit < run.length then .error (.literalTooLong pos)
      else (scanFrom (pos + run.length) rest).map
        (prepend [.number (Numeral.value run) pos]) := by
  match run with
  | c :: run =>
    have ⟨taken, dropped⟩ := takeWhile_run
      (fun d member => digits d (List.mem_cons_of_mem _ member)) maximal
    rw [scanFrom, List.cons_append, scanOnto]
    simp only [digits c (List.mem_cons_self ..), if_true, taken, dropped]
    split
    · rfl
    · rw [scanOnto_eq]; rfl

theorem scanFrom_space (pos : Nat) (rest : List Char) :
    scanFrom pos (' ' :: rest) = scanFrom (pos + 1) rest := by
  rw [scanFrom, scanOnto]
  simp [scanFrom]

theorem scanFrom_mark {c : Char} {m : Mark} (mark : Mark.ofChar? c = some m) (pos : Nat)
    (rest : List Char) :
    scanFrom pos (c :: rest) =
      (scanFrom (pos + 1) rest).map (prepend [.mark m (some c.toString) pos]) := by
  have digit : ¬c.isDigit = true := by
    unfold Mark.ofChar? at mark
    split at mark <;> simp_all
  have space : c ≠ ' ' := by rintro rfl; simp [Mark.ofChar?] at mark
  rw [scanFrom, scanOnto]
  simp only [digit, Bool.false_eq_true, if_false, space, mark]
  rw [scanOnto_eq]
  rfl

theorem scanFrom_illegal {c : Char} (digit : c.isDigit = false) (space : c ≠ ' ')
    (mark : Mark.ofChar? c = none) (pos : Nat) (rest : List Char) :
    scanFrom pos (c :: rest) = .error (.illegalCharacter c pos) := by
  rw [scanFrom, scanOnto]
  simp [digit, space, mark]

end TokenStream

end Reckoner
