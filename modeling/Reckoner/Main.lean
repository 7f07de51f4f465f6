import Std.Time.Zoned
import Reckoner.CommandLine
import Reckoner.Moment

/-! # The program

Collects what a run is given (the arguments, the nearest `.env` file, the environment variables that
it binds or that the run looks at, and the time), and carries out what the run leaves behind.
Everything in between is decided by `Invocation.outcome`.
-/

namespace Reckoner

def now : IO Moment := do
  let present ← Std.Time.PlainDateTime.now
  let date := present.date
  let time := present.time
  return ⟨date.year.toNat, date.month.val.toNat, date.day.val.toNat, time.hour.val.toNat,
    time.minute.val.toNat, time.second.val.toNat, (time.nanosecond.val / 1000000).toNat⟩

/-- The text of the nearest `.env` file, in the folder that `path` leads to or up to `levels`
folders above it. -/
def nearestAssignments (path : String) : (levels : Nat) → IO (Option String)
  | 0 => readIn path
  | levels + 1 => do
    match ← readIn path with
    | some text => return some text
    | none => nearestAssignments (path ++ "../") levels
where
  readIn (path : String) : IO (Option String) := do
    try
      return some (← IO.FS.readFile (path ++ ".env" : String))
    catch _ =>
      return none

def variablesNamed (names : List String) : IO Mapping := do
  let set ← names.filterMapM fun name => do
    return (← IO.getEnv name).map fun text => (name, RawValue.text text)
  return fun name => set.lookup name

/-- Writes what a run leaves behind; log files that exist are added to. -/
def carryOut (effects : Effects) : IO Unit := do
  for (file, records) in effects.files do
    IO.FS.withFile file .append fun handle => handle.putStr records
  IO.print effects.stdout
  IO.eprint effects.stderr

end Reckoner

def main (arguments : List String) : IO UInt32 := do
  let folder ← IO.currentDir
  let assignments ← Reckoner.nearestAssignments "" (folder.toString.toList.count '/')
  let bindings := (assignments.map Reckoner.Assignments.read).getD []
  let names := [Reckoner.Setting.logLevel.variableName, Reckoner.Setting.logFile.variableName,
    Reckoner.Usage.variableName]
  let environment ← Reckoner.variablesNamed (names ++ bindings.map Prod.fst)
  let invocation : Reckoner.Invocation := ⟨arguments, environment, assignments⟩
  match invocation.outcome (← Reckoner.now).write with
  | .ok effects =>
    Reckoner.carryOut effects
    return effects.status.toUInt32
  | .error error =>
    IO.eprintln ("ValueError: " ++ error.message)
    return 1
