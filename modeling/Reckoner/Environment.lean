import Reckoner.Environment.Assignments
import Reckoner.Settings

/-! # Environments

Environment variables are looked up by name. A file of assignments fills the gaps: of several
assignments to one name the last one counts, and a variable that is set keeps its value.

Not every text can be the name of a variable or its value. The gaps are filled in the order of the
file, and the first one that cannot be filled is an error.
-/

namespace Reckoner

/-- The text that a file assigns to a name in the end, if any. -/
def Assignments.lookup (bindings : List Assignments.Binding) (name : String) : Option String :=
  (bindings.reverse.lookup name).join

/-- The environment with its gaps filled from assignments. -/
def Mapping.fill (environment : Mapping) (bindings : List Assignments.Binding) : Mapping :=
  fun name =>
    match environment name with
    | some value => some value
    | none => (Assignments.lookup bindings name).map .text

/-- Why a variable cannot be set. -/
inductive LoadError where
  | nullCharacter
  | equalsSignInName
deriving DecidableEq, Repr

def LoadError.message : LoadError → String
  | .nullCharacter => "embedded null byte"
  | .equalsSignInName => "illegal environment variable name"

/-- Why the variable `name` cannot be set to `text`, if it cannot. -/
def LoadError.of? (name text : String) : Option LoadError :=
  if name.toList.contains '\x00' || text.toList.contains '\x00' then some .nullCharacter
  else if name.toList.contains '=' then some .equalsSignInName
  else none

/-- The first gap in the order of the file that cannot be filled, if there is one. -/
def Mapping.loadError? (environment : Mapping) (bindings : List Assignments.Binding) :
    Option LoadError :=
  bindings.findSome? fun (name, _) =>
    if (environment name).isSome then none
    else (Assignments.lookup bindings name).bind (LoadError.of? name)

theorem Mapping.fill_of_some {environment : Mapping} {name : String} {value : RawValue}
    (set : environment name = some value) (bindings : List Assignments.Binding) :
    environment.fill bindings name = some value := by
  simp [fill, set]

theorem Mapping.fill_of_none {environment : Mapping} {name : String}
    (unset : environment name = none) (bindings : List Assignments.Binding) :
    environment.fill bindings name = (Assignments.lookup bindings name).map .text := by
  simp [fill, unset]

end Reckoner
