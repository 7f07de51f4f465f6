import Reckoner.Calculation
import Reckoner.Environment
import Reckoner.Path
import Reckoner.Usage

/-! # The command

One run of the command: the file of assignments is loaded into the environment and the settings
are read from there, then the arguments are counted, and then the one argument is calculated and
answered on the error stream. Invalid settings are reported before anything else happens; a log
file is opened as soon as the settings are known, so it exists also when the arguments are wrong.
A file that cannot be loaded ends the run before that, with an error that nothing handles.

Nothing here is read from the outside or written to it: a run is a function from what the command
is given to what it leaves behind. The time that log records bear is a parameter, and so is the
width of the terminal, which has eighty columns if there is none.
-/

namespace Reckoner

structure Invocation where
  arguments : List String
  environment : Mapping
  /-- The text of the file of assignments, if there is one. -/
  assignments : Option String

structure Effects where
  status : Nat
  stdout : String
  stderr : String
  /-- The files written, by the normal form of their paths. -/
  files : List (String × String)
deriving DecidableEq, Repr

namespace Invocation

def bindings (invocation : Invocation) : List Assignments.Binding :=
  (invocation.assignments.map Assignments.read).getD []

/-- The environment once the file of assignments is loaded. -/
def filled (invocation : Invocation) : Mapping :=
  invocation.environment.fill invocation.bindings

def settings (invocation : Invocation) : Except (List Problem) Settings :=
  Settings.ofEnvironment invocation.filled

def columns (invocation : Invocation) (terminal : Nat) : Nat :=
  Usage.columns terminal (invocation.filled Usage.variableName)

/-- The complaint about settings that cannot be read. -/
def settingsError (problems : List Problem) : String :=
  "cli_calculator: error: invalid configuration: " ++
    "; ".intercalate (problems.map Problem.describe) ++ "\n"

/-- The complaint about arguments that are not exactly one. -/
def usageError (columns : Nat) (reason : String) : String :=
  Usage.lines columns ++ "cli_calculator: error: " ++ reason ++ "\n"

/-- The log records of a calculation, from the level of the settings on. -/
def records (stamp : String) (settings : Settings) (events : List Event) : String :=
  let kept := events.filter fun event => event.level.reaches settings.logLevel
  String.join (kept.map (Event.record stamp))

/-- What a run leaves behind that ends in `status` with `answer` after the log `records`. -/
def finish (settings : Settings) (records : String) (status : Nat) (answer : String) : Effects :=
  match settings.logFile with
  | none => ⟨status, "", records ++ answer, []⟩
  | some file => ⟨status, "", answer, [(Path.normalize file, records)]⟩

/-- One run of the command after its file is loaded, with log records that bear the time
`stamp`. -/
def execute (invocation : Invocation) (stamp : String) (terminal : Nat := 80) : Effects :=
  match invocation.settings with
  | .error problems => ⟨2, "", settingsError problems, []⟩
  | .ok settings =>
    match invocation.arguments with
    | [] =>
      finish settings "" 2
        (usageError (invocation.columns terminal)
          "the following arguments are required: expression")
    | [text] =>
      let calculation := run text
      finish settings (records stamp settings calculation.events)
        (if calculation.succeeded then 0 else 1) (calculation.line ++ "\n")
    | _ :: extra =>
      finish settings "" 2
        (usageError (invocation.columns terminal)
          ("unrecognized arguments: " ++ " ".intercalate extra))

/-- How a run of the command ends. When its file cannot be loaded, it leaves nothing behind. -/
def outcome (invocation : Invocation) (stamp : String) (terminal : Nat := 80) :
    Except LoadError Effects :=
  match invocation.environment.loadError? invocation.bindings with
  | some error => .error error
  | none => .ok (invocation.execute stamp terminal)

end Invocation

end Reckoner
