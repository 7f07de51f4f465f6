import Reckoner.Proofs.Logging
import Reckoner.Proofs.Outcomes

/-! # What a record tells of its text

Nothing that a text holds gets into a log as it stands: a record is made of printable characters
and so is one line, whatever the text. And nothing of the text gets lost. The written form of each
character ends where the next one begins and none of them begins with the quote mark in use, so a
quoted text is read off a record without regard to what follows it, which may itself hold quotes.
-/

namespace Reckoner

namespace Text

/-- Whether a character is a control of either set. -/
def IsControl (c : Char) : Prop :=
  c.toNat < 0x20 ∨ 0x7f ≤ c.toNat ∧ c.toNat ≤ 0x9f

/-- The characters at which a line of text ends. -/
def lineBreaks : List Char :=
  ['\n', '\x0b', '\x0c', '\r', '\x1c', '\x1d', '\x1e', '\u0085', '\u2028', '\u2029']

/-- Every character of the text is printable, and with that no control and no line break. -/
def Unbroken (text : String) : Prop :=
  ∀ c ∈ text.toList, isPrintable c = true ∧ ¬IsControl c ∧ c ∉ lineBreaks

theorem isPrintable_eq_false_of_isControl {c : Char} (control : IsControl c) :
    isPrintable c = false := by
  rcases control with low | ⟨lower, upper⟩
  · exact isPrintable_eq_false_of_control low
  · have listed : unprintableRanges.any
        (fun range => range.1 ≤ c.toNat && c.toNat ≤ range.2) = true := by
      refine List.any_eq_true.mpr ⟨(0x7f, 0xa0), List.mem_cons_self .., ?_⟩
      simp only [Bool.and_eq_true, decide_eq_true_eq]
      omega
    rw [isPrintable, if_neg (Nat.not_lt.mpr lower), listed]
    rfl

theorem Printable.unbroken {text : String} (printable : Printable text) : Unbroken text := by
  have breaks : lineBreaks.all (fun c => !isPrintable c) = true := by decide +kernel
  intro c member
  have visible := printable c member
  refine ⟨visible, ?_, ?_⟩
  · intro control
    rw [isPrintable_eq_false_of_isControl control] at visible
    cases visible
  · intro listed
    have hidden := List.all_eq_true.mp breaks c listed
    rw [visible] at hidden
    cases hidden

def hexDigit (c : Char) : Nat :=
  if c.isDigit then c.toNat - '0'.toNat else c.toNat - 'a'.toNat + 10

def hexValue (digits : List Char) : Nat :=
  digits.foldl (fun n c => 16 * n + hexDigit c) 0

theorem hexValue_hexDigits {width n : Nat} (fits : n < 16 ^ width) :
    hexValue (hexDigits width n) = n := by
  have digits : ∀ d < 16, hexDigit (Nat.digitChar d) = d := by decide
  induction width generalizing n with
  | zero => exact (Nat.lt_one_iff.mp fits).symm
  | succ width ih =>
    have higher := ih (Nat.div_lt_of_lt_mul (by rwa [Nat.mul_comm, ← Nat.pow_succ]))
    rw [hexValue] at higher
    rw [hexDigits, hexValue, List.foldl_append, higher, List.foldl_cons, List.foldl_nil,
      digits _ (Nat.mod_lt _ (by decide))]
    exact Nat.div_add_mod n 16

namespace Quoted

/-- Reads the character whose code is written in `width` hexadecimal digits. -/
def readCode (width : Nat) (cs : List Char) : Option (Char × List Char) :=
  some (Char.ofNat (hexValue (cs.take width)), cs.drop width)

/-- Reads one character in its written form, and leaves what follows it. -/
def readChar : List Char → Option (Char × List Char)
  | [] => none
  | '\\' :: 'n' :: rest => some ('\n', rest)
  | '\\' :: 'r' :: rest => some ('\r', rest)
  | '\\' :: 't' :: rest => some ('\t', rest)
  | '\\' :: 'x' :: rest => readCode 2 rest
  | '\\' :: 'u' :: rest => readCode 4 rest
  | '\\' :: 'U' :: rest => readCode 8 rest
  | '\\' :: c :: rest => some (c, rest)
  | c :: rest => some (c, rest)

theorem readCode_hexDigits {c : Char} {width : Nat} (fits : c.toNat < 16 ^ width)
    (rest : List Char) : readCode width (hexDigits width c.toNat ++ rest) = some (c, rest) := by
  rw [readCode, List.take_left' (length_hexDigits ..), List.drop_left' (length_hexDigits ..),
    hexValue_hexDigits fits, Char.ofNat_toNat]

theorem readChar_of_ne {c : Char} (plain : c ≠ '\\') (rest : List Char) :
    readChar (c :: rest) = some (c, rest) := by
  unfold readChar
  split <;> simp_all

def IsMark (mark : Char) : Prop :=
  mark = '\x27' ∨ mark = '\x22'

theorem isMark_quoteMark (cs : List Char) : IsMark (quoteMark cs) := by
  rw [quoteMark]
  split
  · exact .inr rfl
  · exact .inl rfl

variable {mark : Char}

/-- What is written for a character is read as that character, whatever follows. -/
theorem readChar_escape (quotes : IsMark mark) (c : Char) (rest : List Char) :
    readChar (escape mark c ++ rest) = some (c, rest) := by
  rw [escape]
  split_ifs with special feed carriage tab visible short middle
  · obtain rfl | rfl := special
    · obtain rfl | rfl := quotes <;> rfl
    · rfl
  · rw [feed]
    rfl
  · rw [carriage]
    rfl
  · rw [tab]
    rfl
  · exact readChar_of_ne (fun same => special (.inr same)) rest
  · exact readCode_hexDigits short rest
  · exact readCode_hexDigits middle rest
  · exact readCode_hexDigits (show c.toNat < 2 ^ 32 from c.val.toNat_lt) rest

/-- Nothing but the closing mark begins with the mark in use. -/
theorem exists_escape_eq_cons (quotes : IsMark mark) (c : Char) :
    ∃ d rest, escape mark c = d :: rest ∧ d ≠ mark := by
  have backslash : '\\' ≠ mark := by
    obtain rfl | rfl := quotes <;> decide
  rw [escape]
  split_ifs with special feed carriage tab visible
  · exact ⟨_, _, rfl, backslash⟩
  · exact ⟨_, _, rfl, backslash⟩
  · exact ⟨_, _, rfl, backslash⟩
  · exact ⟨_, _, rfl, backslash⟩
  · exact ⟨_, _, rfl, fun same => special (.inl same)⟩
  · exact ⟨_, _, rfl, backslash⟩
  · exact ⟨_, _, rfl, backslash⟩
  · exact ⟨_, _, rfl, backslash⟩

theorem escape_append_inj (quotes : IsMark mark) {c d : Char} {front back : List Char}
    (same : escape mark c ++ front = escape mark d ++ back) : c = d ∧ front = back := by
  have read := readChar_escape quotes c front
  rw [same, readChar_escape quotes d back, Option.some.injEq, Prod.mk.injEq] at read
  exact ⟨read.1.symm, read.2.symm⟩

/-- Up to the closing mark each text is written in a way of its own. -/
theorem flatMap_escape_append_inj (quotes : IsMark mark) {cs ds front back : List Char}
    (same : cs.flatMap (escape mark) ++ mark :: front =
      ds.flatMap (escape mark) ++ mark :: back) : cs = ds ∧ front = back := by
  induction cs generalizing ds with
  | nil =>
    cases ds with
    | nil => exact ⟨rfl, (List.cons.inj same).2⟩
    | cons d ds =>
      obtain ⟨first, rest, written, other⟩ := exists_escape_eq_cons quotes d
      rw [List.flatMap_nil, List.flatMap_cons, written] at same
      exact absurd (List.cons.inj same).1.symm other
  | cons c cs ih =>
    cases ds with
    | nil =>
      obtain ⟨first, rest, written, other⟩ := exists_escape_eq_cons quotes c
      rw [List.flatMap_nil, List.flatMap_cons, written] at same
      exact absurd (List.cons.inj same).1 other
    | cons d ds =>
      rw [List.flatMap_cons, List.flatMap_cons, List.append_assoc, List.append_assoc] at same
      obtain ⟨rfl, further⟩ := escape_append_inj quotes same
      obtain ⟨rfl, behind⟩ := ih further
      exact ⟨rfl, behind⟩

/-- A quoted text is told from every other by its written form, whatever follows either. -/
theorem encode_append_inj {cs ds front back : List Char}
    (same : encode cs ++ front = encode ds ++ back) : cs = ds ∧ front = back := by
  simp only [encode, List.cons_append, List.append_assoc] at same
  obtain ⟨marks, bodies⟩ := List.cons.inj same
  rw [← marks] at bodies
  exact flatMap_escape_append_inj (isMark_quoteMark cs) bodies

end Quoted

end Text

open Text

/-- The entries of a log that tell of a failure. -/
def failures (text : String) : List Entry :=
  (logAt .debug text).filter fun entry => entry.level = .info

theorem StepsOf.level_eq {text : String} {steps : List Entry} (stepsOf : StepsOf text steps) :
    ∀ entry ∈ steps, entry.level = .debug := by
  cases stepsOf <;> simp

theorem failures_of_failed {text : String} {error : Error}
    (failed : (run text).answer = .error error) :
    failures text = [(Event.failed text error).entry] := by
  have steps : ((calculate text).events.map Event.entry).filter
      (fun entry => entry.level = .info) = [] := by
    rw [List.filter_eq_nil_iff]
    intro entry member
    rw [(stepsOf_calculate text).level_eq entry member]
    decide
  rw [failures, logAt_debug, events_run, failed, List.map_append, List.filter_append, steps]
  rfl

/-- The entry of a failure is that of one text only. -/
theorem text_eq_of_entry_eq {text other : String} {error fault : Error}
    (same : (Event.failed text error).entry = (Event.failed other fault).entry) :
    text = other := by
  have kinds : error.kind.name = fault.kind.name := by
    have told := congrArg Entry.told same
    rw [told_failed, told_failed] at told
    exact (Prod.mk.inj told).2
  have messages := congrArg (fun entry => entry.message.toList) same
  simp only [Event.entry, Event.message, String.toList_append, List.append_assoc, kinds,
    List.append_cancel_left_eq, quote, String.toList_ofList] at messages
  exact String.toList_inj.mp (Quoted.encode_append_inj messages).1

/-- Whatever a text holds, every message of its log is printable and every record is one line; and
no two texts that fail leave the same entry. -/
theorem records_are_lines_and_failures_identify :
    (∀ text, ∀ event ∈ (run text).events, Unbroken event.message ∧
      ∀ moment : Moment, Unbroken (event.line moment.write) ∧
        HasLines (event.record moment.write) [event.line moment.write]) ∧
    ∀ text other, (run text).succeeded = false → (run other).succeeded = false →
      (∃ entry, failures text = [entry]) ∧ (failures text = failures other → text = other) := by
  refine ⟨?_, ?_⟩
  · intro text event member
    have message := printable_message_of_mem_events member
    refine ⟨message.unbroken, ?_⟩
    intro moment
    have line := Event.printable_line moment.printable_write message
    exact ⟨line.unbroken, .single line⟩
  · intro text other failed failed'
    obtain ⟨error, answer, -⟩ := exists_error_of_failed failed
    obtain ⟨fault, answer', -⟩ := exists_error_of_failed failed'
    rw [failures_of_failed answer, failures_of_failed answer']
    refine ⟨⟨_, rfl⟩, ?_⟩
    intro same
    exact text_eq_of_entry_eq (List.singleton_inj.mp same)

/-- A line feed and a backslash before an `n` are told apart in the log, and neither ends a line. -/
theorem records_are_lines_and_failures_identify_line_feed :
    (run "7\n").succeeded = false ∧ (run "7\\n").succeeded = false ∧
      failures "7\n" ≠ failures "7\\n" ∧
      ∃ event ∈ (run "7\n").events, Unbroken event.message ∧
        event.message =
          "IllegalCharacter for '7\\n': Unexpected character '\\n' at position 1" := by
  obtain ⟨lines, identify⟩ := records_are_lines_and_failures_identify
  have failed : (run "7\n").succeeded = false := by decide +kernel
  have failed' : (run "7\\n").succeeded = false := by decide +kernel
  let event : Event := .failed "7\n" (.lexical (.illegalCharacter '\n' 1))
  have member : event ∈ (run "7\n").events := by decide +kernel
  refine ⟨failed, failed', ?_, event, member, (lines _ event member).1, by decide +kernel⟩
  intro same
  have equal := (identify "7\n" "7\\n" failed failed').2 same
  revert equal
  decide

end Reckoner
