import Reckoner.Proofs.Lexemes
import Reckoner.Proofs.Messages

/-! # What a log tells

A log of the lightest level holds one entry for every step that succeeded and a last one that tells
the answer, so the answer can be read off the log alone. How far a text got is seen from the number
of entries; the shape of its tree is a matter of the text, which has an operation for a root just
when an operator stands somewhere in it. Nothing of the answer depends on what is recorded.
-/

namespace Reckoner

/-- What a log holds of an event, its time apart. -/
structure Entry where
  level : Level
  message : String
deriving DecidableEq, Repr

def Event.entry (event : Event) : Entry :=
  ⟨event.level, event.message⟩

/-- The entries that a log from the level `threshold` on has for a text. -/
def logAt (threshold : Level) (text : String) : List Entry :=
  ((run text).events.filter fun event => event.level.reaches threshold).map Event.entry

theorem logAt_debug (text : String) :
    logAt .debug text = (run text).events.map Event.entry := by
  have reaches (level : Level) : level.reaches .debug = true := by cases level <;> decide
  rw [logAt, List.filter_eq_self.mpr fun event _ => reaches event.level]

/-- What the last entry of a log tells: whether there is a result, and the line of the answer.
A failure is told by its kind, which is the first word of the message. -/
def Entry.told (entry : Entry) : Bool × String :=
  match entry.level with
  | .info => (false, String.ofList (entry.message.toList.takeWhile (· ≠ ' ')))
  | _ => (true, String.ofList (entry.message.toList.drop "result: ".length))

def told (log : List Entry) : Option (Bool × String) :=
  log.getLast?.map Entry.told

theorem told_result (line : String) : (Event.result line).entry.told = (true, line) := by
  have message : (Event.result line).message.toList.drop "result: ".length = line.toList := by
    rw [Event.message, String.toList_append]
    rfl
  exact congrArg (true, ·) ((congrArg String.ofList message).trans String.ofList_toList)

theorem told_failed (text : String) (error : Error) :
    (Event.failed text error).entry.told = (false, error.kind.name) := by
  have word : error.kind.name.toList.all (fun c => c ≠ ' ') = true := by
    cases error.kind <;> decide
  have between : " for ".toList = [' ', 'f', 'o', 'r', ' '] := by decide
  have message : (Event.failed text error).message.toList.takeWhile (· ≠ ' ') =
      error.kind.name.toList := by
    simp only [Event.message, String.toList_append, List.append_assoc]
    rw [List.takeWhile_append_of_pos (List.all_eq_true.mp word), between, List.cons_append,
      List.takeWhile_cons_of_neg, List.append_nil]
    decide
  exact congrArg (false, ·) ((congrArg String.ofList message).trans String.ofList_toList)

/-- The last entry tells whether a text succeeds, and the line that answers it. -/
theorem told_logAt_debug (text : String) :
    told (logAt .debug text) = some ((run text).succeeded, (run text).line) := by
  rw [told, logAt_debug, List.getLast?_map, getLast?_events_run]
  match answer : (run text).answer with
  | .ok line =>
    obtain ⟨succeeded, same⟩ := run_of_ok answer
    rw [succeeded, same]
    exact congrArg some (told_result line)
  | .error error =>
    obtain ⟨failed, named⟩ := run_of_error answer
    rw [failed, named]
    exact congrArg some (told_failed text error)

/-- The answer to a text, with nothing recorded on the way. -/
def reckon (text : String) : Except Error String := do
  let stream ← (TokenStream.scan text).mapError .lexical
  let tree ← stream.parse.mapError .grammar
  let value ← tree.evaluate.mapError .evaluation
  writeResult value

/-- Recording takes no part in the answer. -/
theorem answer_run_eq_reckon (text : String) : (run text).answer = reckon text := by
  simp only [answer_run, answer_calculate, bind_assoc, reckon]

/-- Whether the lexeme is an operator of either level. -/
def Lexeme.IsOperator (l : Lexeme) : Prop :=
  ∃ op, l.multiplicative? = some op ∨ l.additive? = some op

theorem Lexeme.not_isOperator_of_begins {l : Lexeme} (begins : l.BeginsOperand) : ¬l.IsOperator :=
  fun ⟨_, operator⟩ => (isOperator_of_level operator).1 begins

theorem Lexeme.not_isOperator_of_ends {l : Lexeme} (ends : l.EndsOperand) : ¬l.IsOperator :=
  fun ⟨_, operator⟩ => (isOperator_of_level operator).2 ends

/-- A phrase with an operator is an operation, and one without is a literal, however many
parentheses there are around it. -/
theorem Derives.shape_cases {rank : Rank} {levels : Nat} {lexemes : List Lexeme} {e : Expr}
    (phrase : Derives rank levels lexemes e) :
    e.shape = "BinaryOp" ∧ (∃ l ∈ lexemes, l.IsOperator) ∨
      e.shape = "Literal" ∧ ∀ l ∈ lexemes, ¬l.IsOperator := by
  induction phrase with
  | number value pos =>
    exact .inr ⟨rfl, List.forall_mem_singleton.mpr (Lexeme.not_isOperator_of_begins (.inl rfl))⟩
  | group opens _ closes ih =>
    rcases ih with ⟨shape, l, member, operator⟩ | ⟨shape, none⟩
    · exact .inl ⟨shape, l, List.mem_cons_of_mem _ (List.mem_append_left _ member), operator⟩
    · refine .inr ⟨shape, List.forall_mem_cons.mpr ⟨Lexeme.not_isOperator_of_begins (.inr opens),
        List.forall_mem_append.mpr ⟨none, List.forall_mem_singleton.mpr ?_⟩⟩⟩
      exact Lexeme.not_isOperator_of_ends (.inr closes)
  | ofFactor _ ih | ofTerm _ ih => exact ih
  | @product _ left right l op _ _ _ operator | @sum _ left right l op _ _ _ operator =>
    exact .inl ⟨rfl, l, List.mem_append_right _ (List.mem_cons_self ..), op, by simp [operator]⟩

def operators : List Char :=
  ['+', '-', '*', '/']

/-- An operator stands in the text. -/
def HasOperator (text : List Char) : Prop :=
  ∃ c ∈ text, c ∈ operators

instance (text : List Char) : Decidable (HasOperator text) :=
  List.decidableBEx (· ∈ operators) text

theorem isOperator_mark_iff {c : Char} {m : Mark} (mark : Mark.ofChar? c = some m)
    (spelling : Option String) (pos : Int) :
    (Lexeme.mark m spelling pos).IsOperator ↔ c ∈ operators := by
  have each : ∀ pair ∈ Mark.characters,
      (Lexeme.mark pair.2 spelling pos).IsOperator ↔ pair.1 ∈ operators := by
    simp [Mark.characters, Lexeme.IsOperator, Lexeme.multiplicative?, Lexeme.additive?, operators]
  exact each _ (Mark.ofChar?_eq_some_iff.mp mark)

/-- A text has an operator among its lexemes just when one stands in it. -/
theorem exists_isOperator_iff {text : String} {stream : TokenStream}
    (read : TokenStream.scan text = .ok stream) :
    (∃ l ∈ stream.lexemes, l.IsOperator) ↔ HasOperator text.toList := by
  obtain ⟨-, ⟨-, members⟩, -⟩ := scan_eq_ok_iff.mp read
  constructor
  · rintro ⟨l, member, operator⟩
    rcases Lexeme.standsIn_iff.mp ((members l).mp member) with
      ⟨run, start, -, -, rfl⟩ | ⟨c, m, start, stands, mark, rfl⟩
    · exact absurd operator (Lexeme.not_isOperator_of_begins (.inl rfl))
    · exact ⟨c, List.mem_of_getElem? stands, (isOperator_mark_iff mark _ _).mp operator⟩
  · rintro ⟨c, member, operator⟩
    obtain ⟨start, stands⟩ := List.getElem?_of_mem member
    have marks : operators.all (fun c => (Mark.ofChar? c).isSome) = true := by decide
    obtain ⟨m, mark⟩ := Option.isSome_iff_exists.mp (List.all_eq_true.mp marks c operator)
    have standing := Lexeme.standsIn_iff.mpr (.inr ⟨c, m, start, stands, mark, rfl⟩)
    exact ⟨_, (members _).mpr standing, (isOperator_mark_iff mark _ _).mpr operator⟩

/-- The shape of the tree of a text is seen from its characters. -/
theorem shape_eq {text : String} {stream : TokenStream} {tree : Expr}
    (read : TokenStream.scan text = .ok stream) (parsed : stream.parse = .ok tree) :
    tree.shape = if HasOperator text.toList then "BinaryOp" else "Literal" := by
  rcases (TokenStream.parse_eq_ok_iff.mp parsed).shape_cases with
    ⟨shape, operator⟩ | ⟨shape, none⟩
  · rw [if_pos ((exists_isOperator_iff read).mp operator), shape]
  · rw [if_neg, shape]
    rw [← exists_isOperator_iff read]
    rintro ⟨l, member, operator⟩
    exact none l member operator

/-- `StepsOf text steps` says that these entries precede the last one in the log of the text: none
if it cannot be cut into tokens, one if these are no expression, and else two. -/
inductive StepsOf (text : String) : List Entry → Prop where
  | unscanned {fault : LexicalError} (refused : TokenStream.scan text = .error fault) :
      StepsOf text []
  | unparsed {stream : TokenStream} {fault : GrammarError}
      (read : TokenStream.scan text = .ok stream) (refused : stream.parse = .error fault) :
      StepsOf text
        [⟨.debug, "tokenized " ++ Numeral.write stream.tokens.length ++ " tokens"⟩]
  | parsed {stream : TokenStream} {tree : Expr} (read : TokenStream.scan text = .ok stream)
      (parsed : stream.parse = .ok tree) :
      StepsOf text
        [⟨.debug, "tokenized " ++ Numeral.write stream.tokens.length ++ " tokens"⟩,
          ⟨.debug, if HasOperator text.toList then "parsed BinaryOp tree"
            else "parsed Literal tree"⟩]

theorem stepsOf_calculate (text : String) :
    StepsOf text ((calculate text).events.map Event.entry) := by
  rw [events_calculate]
  match read : TokenStream.scan text with
  | .error fault => exact .unscanned read
  | .ok stream =>
    have tokenized : (Event.tokenized stream.size).entry =
        ⟨.debug, "tokenized " ++ Numeral.write stream.tokens.length ++ " tokens"⟩ := by
      rw [TokenStream.length_tokens]
      rfl
    match refused : stream.parse with
    | .error fault =>
      simp only [refused, List.map_cons, List.map_nil, tokenized]
      exact .unparsed read refused
    | .ok tree =>
      have shaped : (Event.parsed tree).entry =
          ⟨.debug, if HasOperator text.toList then "parsed BinaryOp tree"
            else "parsed Literal tree"⟩ := by
        rw [Event.entry, Event.message, shape_eq read refused]
        split <;> rfl
      simp only [refused, List.map_cons, List.map_nil, tokenized, shaped]
      exact .parsed read refused

/-- A result that is too long is the result of a text with a tree. -/
theorem StepsOf.length_of_resultTooLong {text : String} {steps : List Entry}
    (stepsOf : StepsOf text steps) (long : (run text).answer = .error .resultTooLong) :
    steps.length = 2 := by
  rw [answer_run_eq_reckon, reckon] at long
  cases stepsOf with
  | unscanned refused =>
    rw [refused] at long
    cases long
  | unparsed read refused =>
    simp only [read, refused, Except.mapError, bind, Except.bind] at long
    cases long
  | parsed => rfl

/-- The log of a text tells its answer, and the answer is what it would be without a log. The
entries of the steps come first: how many tokens there are, the end mark included, if the text can
be cut into tokens, and the shape of the tree, if it has one. The last entry is the result, or the
kind of the error, the text and the message; a result that is too long to be written is told there
as well, behind the entries of both steps. -/
theorem log_tells_answer (text : String) :
    (run text).answer = reckon text ∧
      told (logAt .debug text) = some ((run text).succeeded, (run text).line) ∧
      ∃ steps last, logAt .debug text = steps ++ [last] ∧ StepsOf text steps ∧
        ((run text).succeeded = true → last = ⟨.debug, "result: " ++ (run text).line⟩) ∧
        ((run text).succeeded = false → ∃ error, (run text).answer = .error error ∧
          (run text).line = error.kind.name ∧
          last = ⟨.info, (run text).line ++ " for " ++ Text.quote text ++ ": " ++ error.message⟩) ∧
        ((run text).answer = .error .resultTooLong → steps.length = 2) := by
  have steps := stepsOf_calculate text
  refine ⟨answer_run_eq_reckon text, told_logAt_debug text, _, _,
    by rw [logAt_debug, events_run, List.map_append, List.map_singleton], steps, ?_, ?_,
    steps.length_of_resultTooLong⟩
  · intro succeeded
    rw [answer_of_succeeded succeeded]
    rfl
  · intro failed
    obtain ⟨error, answer, named⟩ := exists_error_of_failed failed
    refine ⟨error, answer, named, ?_⟩
    rw [answer, named]
    rfl

/-- The log of `(7)/0` has two steps and tells the division by zero. -/
theorem log_tells_answer_of_zero_divisor :
    told (logAt .debug "(7)/0") = some (false, "ZeroDivisionError") ∧
      ∃ steps, logAt .debug "(7)/0" =
          steps ++ [⟨.info, "ZeroDivisionError for '(7)/0': Division by zero"⟩] ∧
        StepsOf "(7)/0" steps := by
  have answer : (run "(7)/0").answer = .error (.evaluation .divisionByZero) := by decide +kernel
  obtain ⟨failed, named⟩ := run_of_error answer
  obtain ⟨-, tells, steps, last, log, stepsOf, -, failure, -⟩ := log_tells_answer "(7)/0"
  obtain ⟨error, same, -, rfl⟩ := failure failed
  rw [answer] at same
  cases same
  rw [failed, named] at tells
  rw [named] at log
  have quoted : Text.quote "(7)/0" = "'(7)/0'" := by decide +kernel
  rw [quoted] at log
  exact ⟨tells, steps, log, stepsOf⟩

end Reckoner
