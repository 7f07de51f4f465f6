import Reckoner.CommandLine
import Reckoner.Moment
import Reckoner.Proofs.Messages

/-! # Outcomes of the command

The argument alone decides the status and the answer of a run; the settings decide only which
events are logged, and where. Every record is one line, and so is every answer, so neither can
pass for a part of the other.
-/

namespace Reckoner

open Text

/-- The text is made of just these lines, each of them ended by a line break. -/
structure HasLines (text : String) (lines : List String) : Prop where
  joined : text = String.join (lines.map (· ++ "\n"))
  unbroken : ∀ line ∈ lines, '\n' ∉ line.toList

namespace HasLines

variable {text front back line : String} {lines more : List String}

theorem nil : HasLines "" [] :=
  ⟨String.join_nil.symm, by simp⟩

theorem single (printable : Printable line) : HasLines (line ++ "\n") [line] := by
  refine ⟨?_, ?_⟩
  · rw [List.map_singleton, String.join_cons, String.join_nil, String.append_empty]
  · intro line' member
    obtain rfl := List.mem_singleton.mp member
    exact printable.not_mem_lineBreak

theorem append (first : HasLines front lines) (second : HasLines back more) :
    HasLines (front ++ back) (lines ++ more) := by
  refine ⟨?_, ?_⟩
  · rw [List.map_append, String.join_append, ← first.joined, ← second.joined]
  · intro line member
    exact (List.mem_append.mp member).elim (first.unbroken line) (second.unbroken line)

/-- Cut at its line breaks, the text falls into its lines, and nothing follows the last break. -/
theorem splitOn_eq (has : HasLines text lines) :
    text.toList.splitOn '\n' = lines.map String.toList ++ [[]] := by
  obtain ⟨rfl, unbroken⟩ := has
  have lineBreak : "\n".toList = ['\n'] := by decide
  induction lines with
  | nil => rfl
  | cons line rest ih =>
    obtain ⟨first, further⟩ := List.forall_mem_cons.mp unbroken
    rw [List.map_cons, String.join_cons, String.toList_append, String.toList_append, lineBreak,
      List.append_assoc, List.singleton_append, List.splitOn_append_cons_self_of_not_mem first,
      ih further]
    rfl

theorem unique (first : HasLines text lines) (second : HasLines text more) : lines = more := by
  have same := first.splitOn_eq.symm.trans second.splitOn_eq
  exact List.map_injective_iff.mpr (fun _ _ => String.toList_inj.mp) (List.append_cancel_right same)

end HasLines

/-- The line that a log holds for an event that happened at the time `stamp`. -/
def Event.line (stamp : String) (event : Event) : String :=
  stamp ++ " - cli_calculator.main - " ++ event.level.name ++ " - " ++ event.message

theorem Event.printable_line {stamp : String} {event : Event} (time : Printable stamp)
    (message : Printable event.message) : Printable (event.line stamp) := by
  refine .append (.append (.append (.append time ?_) event.level.printable_name) ?_) message
  all_goals exact printable_of_plain (by decide)

/-- The log of a calculation has one line for every event from the level of the settings on. -/
theorem hasLines_records {stamp : String} (time : Printable stamp) (settings : Settings)
    {events : List Event} (messages : ∀ event ∈ events, Printable event.message) :
    HasLines (Invocation.records stamp settings events)
      ((events.filter fun event => event.level.reaches settings.logLevel).map
        (Event.line stamp)) := by
  refine ⟨?_, ?_⟩
  · rw [List.map_map]
    rfl
  · intro line member
    obtain ⟨event, kept, rfl⟩ := List.mem_map.mp member
    have message := messages event (List.mem_of_mem_filter kept)
    exact (Event.printable_line time message).not_mem_lineBreak

theorem Moment.printable_write (moment : Moment) : Printable moment.write := by
  have field (width n : Nat) : Printable (Moment.field width n) := by
    intro c member
    rw [Moment.field, String.toList_ofList] at member
    rcases List.mem_append.mp member with padding | digit
    · rw [List.eq_of_mem_replicate padding]
      exact isPrintable_of_isDigit rfl
    · exact isPrintable_of_isDigit (Numeral.isDigit_of_mem_digits digit)
  refine .append (.append (.append (.append (printable_intercalate ?_ ?_) ?_)
    (printable_intercalate ?_ ?_)) ?_) (field 3 _)
  all_goals first | exact printable_of_plain (by decide) | simp [field]

theorem Problem.printable_describe (problem : Problem) : Printable problem.describe := by
  have setting (setting : Setting) : Printable setting.name := by
    cases setting <;> exact printable_of_plain (by decide)
  have complaint (complaint : Complaint) : Printable complaint.message := by
    cases complaint <;> exact printable_of_plain (by decide)
  exact .append (.append (setting _) (printable_of_plain (by decide))) (complaint _)

/-- Whatever is wrong with the settings, the complaint is one line. -/
theorem hasLines_settingsError (problems : List Problem) :
    HasLines (Invocation.settingsError problems)
      ["cli_calculator: error: invalid configuration: " ++
        "; ".intercalate (problems.map Problem.describe)] := by
  have described : ∀ text ∈ problems.map Problem.describe, Printable text := by
    intro text member
    obtain ⟨problem, -, rfl⟩ := List.mem_map.mp member
    exact problem.printable_describe
  have listed : Printable ("; ".intercalate (problems.map Problem.describe)) :=
    printable_intercalate (printable_of_plain (by decide)) described
  exact .single (.append (printable_of_plain (by decide)) listed)

theorem Settings.readLevel_of_text {text? : Option String} {complaint : Complaint}
    (refused : readLevel .strict (text?.map .text) = .error complaint) :
    complaint = .unknownLevel := by
  cases text? with
  | none => cases refused
  | some text =>
    simp only [Option.map_some, readLevel, RawValue.asText, bind, Except.bind] at refused
    split at refused
    · cases refused
    · exact (Except.error.inj refused).symm

theorem Settings.exists_readFile_of_text (text? : Option String) :
    ∃ file, readFile .strict (text?.map .text) = .ok file := by
  cases text? <;> exact ⟨_, rfl⟩

/-- Of settings that are texts only the level can be wrong. -/
theorem problems_eq_of_texts {invocation : Invocation}
    (texts : ∀ name value, invocation.environment name = some value → ∃ text, value = .text text)
    {problems : List Problem} (invalid : invocation.settings = .error problems) :
    problems = [⟨.logLevel, .unknownLevel⟩] := by
  have filled (name : String) :
      ∃ text? : Option String, invocation.filled name = text?.map .text := by
    cases set : invocation.environment name with
    | none => exact ⟨_, Mapping.fill_of_none set _⟩
    | some value =>
      obtain ⟨text, rfl⟩ := texts name value set
      exact ⟨some text, Mapping.fill_of_some set _⟩
  obtain ⟨level, givesLevel⟩ := filled Setting.logLevel.variableName
  obtain ⟨file, givesFile⟩ := filled Setting.logFile.variableName
  obtain ⟨destination, readsFile⟩ := Settings.exists_readFile_of_text file
  simp only [Invocation.settings, Settings.ofEnvironment, Settings.ofValues, Setting.name,
    String.reduceEq, if_true, if_false, givesLevel, givesFile, readsFile] at invalid
  cases readsLevel : Settings.readLevel .strict (level.map .text) with
  | ok found =>
    rw [readsLevel] at invalid
    cases invalid
  | error complaint =>
    obtain rfl := Settings.readLevel_of_text readsLevel
    rw [readsLevel] at invalid
    exact (Except.error.inj invalid).symm

namespace Invocation

variable {invocation : Invocation} {settings : Settings}

/-- The log goes before the answer or into the log file, and nowhere else. -/
theorem finish_eq (settings : Settings) (records answer : String) (status : Nat) :
    finish settings records status answer =
      ⟨status, "", (if settings.logFile.isNone then records else "") ++ answer,
        settings.logFile.toList.map fun file => (Path.normalize file, records)⟩ := by
  rw [finish]
  cases settings.logFile <;> simp

theorem usageError_of_wide {columns : Nat} (wide : 34 ≤ columns) (reason : String) :
    usageError columns reason =
      "usage: cli_calculator expression\ncli_calculator: error: " ++ reason ++ "\n" := by
  rw [usageError, Usage.lines_of_wide wide]
  rfl

theorem stdout_execute (invocation : Invocation) (stamp : String) (terminal : Nat) :
    (invocation.execute stamp terminal).stdout = "" := by
  rw [execute]
  cases invocation.settings with
  | error problems => rfl
  | ok settings => match invocation.arguments with
    | [] | [_] | _ :: _ :: _ => simp only [finish_eq]

theorem execute_of_error {problems : List Problem} (invalid : invocation.settings = .error problems)
    (stamp : String) (terminal : Nat) :
    invocation.execute stamp terminal = ⟨2, "", settingsError problems, []⟩ := by
  rw [execute, invalid]

/-- With any other number of arguments than one, nothing is calculated. -/
theorem execute_of_arguments (valid : invocation.settings = .ok settings)
    (wrong : ∀ text, invocation.arguments ≠ [text]) (stamp : String) (terminal : Nat) :
    ∃ reason, invocation.execute stamp terminal =
        finish settings "" 2 (usageError (invocation.columns terminal) reason) ∧
      (invocation.arguments = [] →
        reason = "the following arguments are required: expression") ∧
      ∀ first extra, invocation.arguments = first :: extra →
        reason = "unrecognized arguments: " ++ " ".intercalate extra := by
  rw [execute, valid]
  match given : invocation.arguments with
  | [] => exact ⟨_, rfl, fun _ => rfl, by simp⟩
  | [text] => exact absurd given (wrong text)
  | first :: second :: rest =>
    refine ⟨_, rfl, by simp, ?_⟩
    rintro first' extra ⟨⟩
    rfl

theorem execute_of_text {text : String} (valid : invocation.settings = .ok settings)
    (single : invocation.arguments = [text]) (stamp : String) (terminal : Nat) :
    invocation.execute stamp terminal =
      finish settings (records stamp settings (run text).events)
        (if (run text).succeeded then 0 else 1) ((run text).line ++ "\n") := by
  rw [execute, valid]
  simp only [single]

/-- The answer to an argument is the last line of the error stream, whatever the settings are. -/
theorem exists_hasLines_stderr {text : String} (valid : invocation.settings = .ok settings)
    (single : invocation.arguments = [text]) (moment : Moment) (terminal : Nat) :
    ∃ log, HasLines (invocation.execute moment.write terminal).stderr
      (log ++ [(run text).line]) := by
  rw [execute_of_text valid single, finish_eq]
  have answer := HasLines.single (printable_line text)
  cases settings.logFile with
  | none => exact ⟨_, (hasLines_records moment.printable_write settings
      fun _ => printable_message_of_mem_events).append answer⟩
  | some file => exact ⟨[], HasLines.nil.append answer⟩

end Invocation

/-- `7/0`, with the level in the environment and the log file in the file of assignments. -/
private def division : Invocation where
  arguments := ["7/0"]
  environment name := if name = Setting.logLevel.variableName then some (.text " info ") else none
  assignments := some "CALC_LOG_FILE=./calc.log\n"

private def noon : Moment :=
  ⟨2024, 2, 29, 12, 0, 0, 0⟩

end Reckoner
