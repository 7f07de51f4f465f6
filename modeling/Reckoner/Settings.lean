import Reckoner.Level

/-! # Settings

A program logs from a level on, to the error stream or to a file. Both settings are read from raw
values, which need not be texts. Every setting that cannot be read is reported, the level before
the file.

Where a setting wants a text, the library that validates the values may take one from a value of
another type. It does so for byte strings, which it decodes, and refuses everything else. What it
does is not read off here, but a parameter.
-/

namespace Reckoner

inductive RawValue where
  | text (text : String)
  | null
  /-- A value of another type, by how it is written. -/
  | other (written : String := "")
deriving DecidableEq, Repr

/-- Raw values by name. -/
abbrev Mapping := String → Option RawValue

inductive Setting where
  | logLevel
  | logFile
deriving DecidableEq, Repr

namespace Setting

def name : Setting → String
  | .logLevel => "log_level"
  | .logFile => "log_file"

/-- The environment variable that gives a setting. -/
def variableName : Setting → String
  | .logLevel => "CALC_LOG_LEVEL"
  | .logFile => "CALC_LOG_FILE"

end Setting

inductive Complaint where
  | unknownLevel
  | notText
  /-- The value is a byte string that encodes no text. -/
  | notEncoded
deriving DecidableEq, Repr

def Complaint.message : Complaint → String
  | .unknownLevel =>
    "Value error, log level must be one of " ++ ", ".intercalate (Level.all.map Level.name)
  | .notText => "Input should be a valid string"
  | .notEncoded =>
    "Input should be a valid string, unable to parse raw data as a unicode string"

/-- A setting that cannot be read, and why. -/
structure Problem where
  setting : Setting
  complaint : Complaint
deriving DecidableEq, Repr

def Problem.describe (problem : Problem) : String :=
  problem.setting.name ++ ": " ++ problem.complaint.message

structure Settings where
  /-- The lightest level that is logged. -/
  logLevel : Level
  /-- Where the log goes instead of the error stream. -/
  logFile : Option String
deriving DecidableEq, Repr

/-- The text that is taken from a value of another type, given how that is written. -/
abbrev Coercion := String → Except Complaint String

/-- Takes a text from no value of another type. -/
def Coercion.strict : Coercion :=
  fun _ => .error .notText

/-- The text that a value is taken for. -/
def RawValue.asText (coerce : Coercion) : RawValue → Except Complaint String
  | .text given => .ok given
  | .null => .error .notText
  | .other written => coerce written

namespace Settings

/-- Without a value the level is `warning`. -/
def readLevel (coerce : Coercion) : Option RawValue → Except Complaint Level
  | none => .ok .warning
  | some value => do
    match Level.ofText? (← value.asText coerce) with
    | some level => .ok level
    | none => .error .unknownLevel

/-- Without a value, and with one of blanks alone, there is no log file. -/
def readFile (coerce : Coercion) : Option RawValue → Except Complaint (Option String)
  | none | some .null => .ok none
  | some value => do
    let text ← value.asText coerce
    .ok (if text.toList.all Text.isBlank then none else some text)

/-- The settings that raw values give; values under other names are passed over. -/
def ofValues (values : Mapping) (coerce : Coercion := .strict) : Except (List Problem) Settings :=
  match readLevel coerce (values Setting.logLevel.name),
    readFile coerce (values Setting.logFile.name) with
  | .ok level, .ok file => .ok ⟨level, file⟩
  | .error e, .ok _ => .error [⟨.logLevel, e⟩]
  | .ok _, .error e => .error [⟨.logFile, e⟩]
  | .error e, .error e' => .error [⟨.logLevel, e⟩, ⟨.logFile, e'⟩]

/-- The settings that environment variables give. -/
def ofEnvironment (environment : Mapping) : Except (List Problem) Settings :=
  ofValues fun name =>
    if name = Setting.logLevel.name then environment Setting.logLevel.variableName
    else if name = Setting.logFile.name then environment Setting.logFile.variableName
    else none

end Settings

end Reckoner
