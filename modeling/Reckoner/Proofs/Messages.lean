import Reckoner.Proofs.Obstacles
import Reckoner.Proofs.Results

/-! # Messages

What a message tells of a text stands in quote marks, where every character that is not printable
is written by its code point. The other words of a message are fixed, and so are the names of the
tokens that come from a text. So every message that a calculation leaves is printable, and with
that it is one line.
-/

namespace Reckoner

namespace Text

def Printable (text : String) : Prop :=
  ∀ c ∈ text.toList, isPrintable c = true

theorem Printable.append {front back : String} (first : Printable front)
    (second : Printable back) : Printable (front ++ back) := by
  intro c member
  rw [String.toList_append, List.mem_append] at member
  exact member.elim (first c) (second c)

theorem Printable.not_mem_lineBreak {text : String} (printable : Printable text) :
    '\n' ∉ text.toList := by
  intro member
  have control : isPrintable '\n' = false := isPrintable_eq_false_of_control (by decide)
  rw [printable '\n' member] at control
  cases control

/-- Whether a character is a graphic ASCII character or the plain space. -/
def isPlain (c : Char) : Bool :=
  0x20 ≤ c.toNat && c.toNat < 0x7f

theorem isPrintable_of_isPlain {c : Char} (plain : isPlain c = true) : isPrintable c = true := by
  simp only [isPlain, Bool.and_eq_true, decide_eq_true_eq] at plain
  exact isPrintable_of_ascii plain.1 plain.2

theorem isPrintable_of_all_plain {cs : List Char} (plain : cs.all isPlain = true) :
    ∀ c ∈ cs, isPrintable c = true :=
  fun c member => isPrintable_of_isPlain (List.all_eq_true.mp plain c member)

theorem printable_of_plain {text : String} (plain : text.toList.all isPlain = true) :
    Printable text :=
  isPrintable_of_all_plain plain

theorem printable_intercalate {separator : String} (between : Printable separator)
    {texts : List String} (printable : ∀ text ∈ texts, Printable text) :
    Printable (separator.intercalate texts) := by
  induction texts with
  | nil =>
    rw [String.intercalate_nil]
    exact printable_of_plain (by decide)
  | cons first rest ih =>
    obtain ⟨head, tail⟩ := List.forall_mem_cons.mp printable
    cases rest with
    | nil =>
      rw [String.intercalate_singleton]
      exact head
    | cons second rest =>
      rw [String.intercalate_cons_cons]
      exact (head.append between).append (ih tail)

theorem isPrintable_of_isDigit {c : Char} (digit : c.isDigit = true) : isPrintable c = true := by
  obtain ⟨lower, upper⟩ := Char.isDigit_iff_toNat.mp digit
  apply isPrintable_of_ascii
  · exact Nat.le_trans (by decide) lower
  · exact Nat.lt_of_le_of_lt upper (by decide)

theorem printable_write (v : Int) : Printable (Numeral.write v) := by
  have digits : ∀ c ∈ Numeral.digits v.natAbs, isPrintable c = true :=
    fun c member => isPrintable_of_isDigit (Numeral.isDigit_of_mem_digits member)
  rcases Int.lt_or_le v 0 with negative | nonneg
  · rw [Printable, Numeral.toList_write_of_neg negative]
    exact List.forall_mem_cons.mpr ⟨by decide, digits⟩
  · rw [Printable, Numeral.toList_write_of_nonneg nonneg]
    exact digits

theorem isPrintable_of_mem_hexDigits {width n : Nat} {c : Char} (member : c ∈ hexDigits width n) :
    isPrintable c = true := by
  induction width generalizing n with
  | zero => cases member
  | succ width ih =>
    rcases List.mem_append.mp member with before | last
    · exact ih before
    · obtain rfl := List.mem_singleton.mp last
      have digits : ∀ d < 16, isPrintable (Nat.digitChar d) = true := by decide
      exact digits _ (Nat.mod_lt _ (by decide))

/-- Between quote marks every character is written in printable ones. -/
theorem isPrintable_of_mem_escape {mark : Char} (visible : isPrintable mark = true) (c : Char) :
    ∀ d ∈ Quoted.escape mark c, isPrintable d = true := by
  have coded (letter : Char) (width : Nat) (known : isPrintable letter = true) :
      ∀ d ∈ '\\' :: letter :: hexDigits width c.toNat, isPrintable d = true :=
    List.forall_mem_cons.mpr ⟨by decide, List.forall_mem_cons.mpr
      ⟨known, fun _ => isPrintable_of_mem_hexDigits⟩⟩
  rw [Quoted.escape]
  split_ifs with special feed carriage tab plain
  · refine List.forall_mem_cons.mpr ⟨by decide, List.forall_mem_singleton.mpr ?_⟩
    rcases special with rfl | rfl
    · exact visible
    · decide
  · exact isPrintable_of_all_plain (by decide)
  · exact isPrintable_of_all_plain (by decide)
  · exact isPrintable_of_all_plain (by decide)
  · exact List.forall_mem_singleton.mpr plain
  · exact coded 'x' 2 (by decide)
  · exact coded 'u' 4 (by decide)
  · exact coded 'U' 8 (by decide)

/-- Every text is shown in printable characters. -/
theorem printable_quote (text : String) : Printable (quote text) := by
  have visible : isPrintable (Quoted.quoteMark text.toList) = true := by
    rw [Quoted.quoteMark]
    split <;> decide
  intro c member
  rw [quote, String.toList_ofList, Quoted.encode, List.mem_append, List.mem_singleton,
    List.mem_cons] at member
  rcases member with (rfl | within) | rfl
  · exact visible
  · obtain ⟨d, -, escaped⟩ := List.mem_flatMap.mp within
    exact isPrintable_of_mem_escape visible d c escaped
  · exact visible

end Text

open Text

theorem ErrorKind.printable_name (kind : ErrorKind) : Printable kind.name := by
  cases kind <;> exact printable_of_plain (by decide)

theorem Level.printable_name (level : Level) : Printable level.name := by
  cases level <;> exact printable_of_plain (by decide)

theorem Expr.printable_shape (e : Expr) : Printable e.shape := by
  have literal : Printable "Literal" := printable_of_plain (by decide)
  have operation : Printable "BinaryOp" := printable_of_plain (by decide)
  have hole : Printable "Expression" := printable_of_plain (by decide)
  cases e <;> assumption

/-- The value of a token is shown in printable characters, wherever the token comes from. -/
theorem Token.printable_shown (token : Token) : Printable token.shown := by
  have spelling (spelling : Option String) : Printable (showSpelling spelling) := by
    cases spelling with
    | none => exact printable_of_plain (by decide)
    | some text => exact printable_quote text
  match token with
  | .lexeme (.number value _) => exact printable_write value
  | .lexeme (.mark _ text _) => exact spelling text
  | .stop last => exact spelling last.spelling

theorem Kind.printable_name {kind : Kind} (known : kind ∈ Kind.known) : Printable kind.name := by
  have plain : ∀ kind ∈ Kind.known, kind.name.toList.all isPlain = true := by decide
  exact printable_of_plain (plain kind known)

/-- The tokens of a scanned text are of the kinds with a name of their own. -/
theorem kind_mem_known {text : String} {stream : TokenStream}
    (read : TokenStream.scan text = .ok stream) {token : Token} (member : token ∈ stream.tokens) :
    token.kind ∈ Kind.known := by
  have number : Kind.number ∈ Kind.known := by decide
  have stop : Kind.stop ∈ Kind.known := by decide
  have marks : ∀ pair ∈ Mark.characters, .mark pair.2 ∈ Kind.known := by decide
  rcases List.mem_append.mp member with inside | last
  · obtain ⟨l, present, rfl⟩ := List.mem_map.mp inside
    match l, ((scan_eq_ok_iff.mp read).2.1.2 l).mp present with
    | .number .., _ => exact number
    | .mark .., ⟨c, start, _, mark, _⟩ => exact marks _ (Mark.ofChar?_eq_some_iff.mp mark)
  · obtain rfl := List.mem_singleton.mp last
    exact stop

theorem printable_located {front : String} (printable : Printable front) (pos : Int) :
    Printable (front ++ " at position " ++ Numeral.write pos) :=
  (printable.append (printable_of_plain (by decide))).append (printable_write pos)

theorem LexicalError.printable_message (error : LexicalError) : Printable error.message := by
  cases error with
  | illegalCharacter c pos =>
    exact printable_located ((printable_of_plain (by decide)).append (printable_quote _)) pos
  | literalTooLong pos => exact printable_located (printable_of_plain (by decide)) pos

/-- The message about a token of a kind with a name of its own is printable. -/
theorem GrammarError.Blames.printable_message {error : GrammarError} {token : Token}
    (blames : error.Blames token) (known : token.kind ∈ Kind.known) : Printable error.message := by
  match error with
  | .unterminated => exact blames.elim
  | .mismatch wanted found =>
    obtain ⟨rfl, rfl⟩ := blames
    refine printable_located (.append (.append (.append ?_ ?_) ?_) (Kind.printable_name known)) _
    all_goals exact printable_of_plain (by decide)
  | .trailing found | .operandExpected found =>
    exact printable_located ((printable_of_plain (by decide)).append
      (Token.printable_shown (.lexeme found))) _
  | .tooDeep found =>
    exact printable_located ((printable_of_plain (by decide)).append (printable_write _)) _
  | .endOfInput found => exact printable_located (printable_of_plain (by decide)) _

/-- A parse that fails blames a token of its stream. -/
theorem TokenStream.exists_blames {stream : TokenStream} {error : GrammarError}
    (failed : stream.parse = .error error) : ∃ token ∈ stream.tokens, error.Blames token := by
  let c := Cursor.start stream
  obtain ⟨blames, front, passes, -⟩ :=
    Cursor.parse_breaks (show c.parse = ⟨.error error, c.parse.cursor⟩ by rw [← failed]; rfl)
  refine ⟨_, ?_, blames⟩
  have ahead : stream.lexemes = front ++ c.parse.cursor.ahead := passes.ahead
  rw [Cursor.token, passes.stop, tokens, ahead]
  cases c.parse.cursor.ahead <;> simp [c, Cursor.start]

theorem error_of_failed {text : String} {error : Error}
    (failed : (run text).answer = .error error) :
    (∃ fault, error = .lexical fault) ∨
      (∃ stream fault, TokenStream.scan text = .ok stream ∧ stream.parse = .error fault ∧
        error = .grammar fault) ∨
      error = .evaluation .divisionByZero ∨ error = .resultTooLong := by
  obtain ⟨fault, -, answer⟩ | ⟨stream, fault, read, parsed, answer⟩ | ⟨stream, e, read, parsed, -⟩
    := calculate_cases text
  · rw [answer_run, answer] at failed
    cases failed
    exact .inl ⟨fault, rfl⟩
  · rw [answer_run, answer] at failed
    cases failed
    exact .inr (.inl ⟨stream, fault, read, parsed, rfl⟩)
  · have tree := hasTree_iff.mpr ⟨stream, read, parsed⟩
    match found : e.value with
    | .error fault =>
      have meets := ((Expr.value_eq_error_iff tree.legible).mp found).1
      rw [answer_run_of_zeroDivisor tree meets] at failed
      cases failed
      exact .inr (.inr (.inl rfl))
    | .ok v =>
      rw [answer_run_of_worth tree (Expr.value_eq_ok_iff.mp found)] at failed
      rcases Nat.lt_or_ge v.natAbs (10 ^ Numeral.digitLimit) with short | long
      · rw [writeResult_of_short short] at failed
        cases failed
      · rw [writeResult_of_long long] at failed
        cases failed
        exact .inr (.inr (.inr rfl))

theorem printable_message_of_failed {text : String} {error : Error}
    (failed : (run text).answer = .error error) : Printable error.message := by
  obtain ⟨fault, rfl⟩ | ⟨stream, fault, read, parsed, rfl⟩ | rfl | rfl := error_of_failed failed
  · exact fault.printable_message
  · obtain ⟨token, member, blames⟩ := TokenStream.exists_blames parsed
    exact blames.printable_message (kind_mem_known read member)
  · exact printable_of_plain (by decide)
  · exact printable_of_plain (by decide)

/-- Each step from a text to its value leaves one event, if it succeeds. -/
theorem events_calculate (text : String) :
    (calculate text).events =
      match TokenStream.scan text with
      | .error _ => []
      | .ok stream =>
        .tokenized stream.size ::
          match stream.parse with
          | .error _ => []
          | .ok tree => [.parsed tree] := by
  simp only [calculate, Traced.events_bind, Traced.answer_lift, Traced.events_lift,
    Traced.answer_note, Traced.events_note]
  cases TokenStream.scan text with
  | error fault => rfl
  | ok stream => cases parsed : stream.parse <;> simp [Except.mapError, parsed]

/-- The events of a run: those of the steps, and in the end one of the answer. -/
theorem events_run (text : String) :
    (run text).events = (calculate text).events ++
      [match (run text).answer with
        | .ok line => .result line
        | .error error => .failed text error] := by
  have steps : (calculate text >>= fun value => .lift (writeResult value)).events =
      (calculate text).events := by
    rw [Traced.events_bind]
    cases (calculate text).answer <;> simp
  exact congrArg (· ++ [_]) steps

/-- What an event of a run tells of. -/
theorem mem_events_run {text : String} {event : Event} (member : event ∈ (run text).events) :
    (∃ count, event = .tokenized count) ∨ (∃ tree, event = .parsed tree) ∨
      (∃ line, (run text).answer = .ok line ∧ event = .result line) ∨
      ∃ error, (run text).answer = .error error ∧ event = .failed text error := by
  rw [events_run, List.mem_append, List.mem_singleton] at member
  rcases member with step | rfl
  · rw [events_calculate] at step
    split at step
    · cases step
    · rcases List.mem_cons.mp step with rfl | later
      · exact .inl ⟨_, rfl⟩
      · split at later
        · cases later
        · exact .inr (.inl ⟨_, List.mem_singleton.mp later⟩)
  · cases answer : (run text).answer with
    | ok line => exact .inr (.inr (.inl ⟨line, rfl, rfl⟩))
    | error error => exact .inr (.inr (.inr ⟨error, rfl, rfl⟩))

theorem exists_of_answered {text line : String} (answered : (run text).answer = .ok line) :
    ∃ v, line = Numeral.write v := by
  obtain ⟨succeeded, same⟩ := run_of_ok answered
  obtain ⟨v, -, -, written⟩ := exists_of_succeeded succeeded
  exact ⟨v, same.symm.trans written⟩

theorem printable_message_of_mem_events {text : String} {event : Event}
    (member : event ∈ (run text).events) : Printable event.message := by
  obtain ⟨count, rfl⟩ | ⟨tree, rfl⟩ | ⟨line, answered, rfl⟩ | ⟨error, failed, rfl⟩ :=
    mem_events_run member
  · refine .append (.append ?_ (printable_write _)) ?_
    all_goals exact printable_of_plain (by decide)
  · refine .append (.append ?_ tree.printable_shape) ?_
    all_goals exact printable_of_plain (by decide)
  · obtain ⟨v, rfl⟩ := exists_of_answered answered
    exact .append (printable_of_plain (by decide)) (printable_write v)
  · refine .append (.append (.append (.append ?_ ?_) (printable_quote text)) ?_) ?_
    · exact error.kind.printable_name
    · exact printable_of_plain (by decide)
    · exact printable_of_plain (by decide)
    · exact printable_message_of_failed failed

theorem printable_line (text : String) : Printable (run text).line := by
  match answer : (run text).answer with
  | .ok line =>
    obtain ⟨v, rfl⟩ := exists_of_answered answer
    rw [(run_of_ok answer).2]
    exact printable_write v
  | .error error =>
    rw [(run_of_error answer).2]
    exact error.kind.printable_name

end Reckoner
