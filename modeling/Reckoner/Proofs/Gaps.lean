import Mathlib.Control.Monad.Basic
import Reckoner.CommandLine

/-! # Gaps in the environment

A file of assignments gives the command nothing but the variables that a run looks at and the
environment does not set: those of the settings, and the one for the width of the terminal if there
is a complaint about the arguments to be laid out. So the file can be dropped when the environment
is extended by just these, and two files that agree on them are as good as each other, whatever
else they hold. Only a gap that cannot be filled makes a difference under any name.
-/

namespace Reckoner

def Setting.variableNames : List String :=
  [Setting.logLevel.variableName, Setting.logFile.variableName]

theorem Setting.variableName_mem_variableNames (setting : Setting) :
    setting.variableName ∈ variableNames := by
  cases setting <;> decide

/-- The environment variables that a run with these arguments looks at. -/
def Invocation.consulted (arguments : List String) : List String :=
  if arguments.length = 1 then Setting.variableNames
  else Usage.variableName :: Setting.variableNames

namespace Assignments

/-- In the end the bindings give this text to the name: the last one of the name does. -/
def Gives (bindings : List Binding) (name text : String) : Prop :=
  ∃ before after, bindings = before ++ (name, some text) :: after ∧
    ∀ binding ∈ after, binding.1 ≠ name

theorem lookup_eq_some_iff {bindings : List Binding} {name text : String} :
    lookup bindings name = some text ↔ Gives bindings name text := by
  rw [lookup, Option.join_eq_some_iff, List.lookup_eq_some_iff]
  constructor
  · rintro ⟨after, before, reversed, others⟩
    refine ⟨before.reverse, after.reverse, ?_, ?_⟩
    · rw [← List.reverse_reverse bindings, reversed, List.reverse_append, List.reverse_cons,
        List.append_assoc, List.singleton_append]
    · intro binding member same
      have different := others binding (List.mem_reverse.mp member)
      simp [same] at different
  · rintro ⟨before, after, rfl, others⟩
    refine ⟨after.reverse, before.reverse, ?_, ?_⟩
    · rw [List.reverse_append, List.reverse_cons, List.append_assoc, List.singleton_append]
    · intro binding member
      have different := others binding (List.mem_reverse.mp member)
      simpa using different.symm

theorem lookup_filter_of_kept {keep : Binding → Bool} {bindings : List Binding} {name : String}
    (kept : ∀ binding ∈ bindings, binding.1 = name → keep binding = true) :
    (bindings.filter keep).lookup name = bindings.lookup name := by
  induction bindings with
  | nil => rfl
  | cons binding rest ih =>
    obtain ⟨bound, text⟩ := binding
    obtain ⟨first, further⟩ := List.forall_mem_cons.mp kept
    rw [List.filter_cons]
    by_cases same : bound = name
    · subst same
      rw [if_pos (first rfl), List.lookup_cons_self, List.lookup_cons_self]
    · have passed : (name == bound) = false := beq_false_of_ne (Ne.symm same)
      split <;> simp only [List.lookup_cons, passed, ih further]

/-- Bindings of other names make no difference. -/
theorem lookup_filter {keep : Binding → Bool} {bindings : List Binding} {name : String}
    (kept : ∀ binding ∈ bindings, binding.1 = name → keep binding = true) :
    lookup (bindings.filter keep) name = lookup bindings name := by
  rw [lookup, lookup, ← List.filter_reverse, lookup_filter_of_kept]
  exact fun binding member => kept binding (List.mem_reverse.mp member)

/-- The bindings of these names that the environment does not set. -/
def filling (names : List String) (environment : Mapping) (bindings : List Binding) :
    List Binding :=
  bindings.filter fun binding => names.contains binding.1 && (environment binding.1).isNone

end Assignments

open Assignments

namespace LoadError

/-- A variable of this name can be set to this text. -/
structure Storable (name text : String) : Prop where
  name_no_null : '\x00' ∉ name.toList
  text_no_null : '\x00' ∉ text.toList
  name_no_equals : '=' ∉ name.toList

theorem of?_eq_none_iff {name text : String} : of? name text = none ↔ Storable name text := by
  have parts : Storable name text ↔
      ('\x00' ∉ name.toList ∧ '\x00' ∉ text.toList) ∧ '=' ∉ name.toList :=
    ⟨fun ⟨null, textNull, equals⟩ => ⟨⟨null, textNull⟩, equals⟩,
      fun ⟨⟨null, textNull⟩, equals⟩ => ⟨null, textNull, equals⟩⟩
  rw [parts, of?]
  by_cases null : '\x00' ∈ name.toList ∨ '\x00' ∈ text.toList
  · rw [if_pos (by simpa using null)]
    simp only [reduceCtorEq, false_iff]
    rintro ⟨⟨absent, textAbsent⟩, -⟩
    exact null.elim absent textAbsent
  · rw [if_neg (by simpa using null)]
    by_cases equals : '=' ∈ name.toList <;> simp [equals, not_or.mp null]

end LoadError

namespace Mapping

variable {environment other extended : Mapping} {bindings more : List Binding}
  {names : List String}

/-- Whatever the bindings give to a variable that is not set, it can be set to. -/
def Loads (environment : Mapping) (bindings : List Binding) : Prop :=
  ∀ name text, environment name = none → Gives bindings name text → LoadError.Storable name text

theorem loadError?_eq_none_iff :
    environment.loadError? bindings = none ↔ environment.Loads bindings := by
  rw [loadError?, List.findSome?_eq_none_iff]
  constructor
  · intro passes name text unset gives
    obtain ⟨before, after, parts, -⟩ := id gives
    have passed := passes (name, some text) (by simp [parts])
    simp only [unset, Option.isSome_none, Bool.false_eq_true, if_false,
      lookup_eq_some_iff.mpr gives, Option.bind_some] at passed
    exact LoadError.of?_eq_none_iff.mp passed
  · rintro loads ⟨name, bound⟩ -
    by_cases set : (environment name).isSome
    · exact if_pos set
    · simp only [if_neg set]
      match given : lookup bindings name with
      | none => rfl
      | some text =>
        have unset : environment name = none := by simpa using set
        exact LoadError.of?_eq_none_iff.mpr (loads name text unset (lookup_eq_some_iff.mp given))

/-- `extended` is the environment with what the bindings give to these names in its gaps. -/
structure Extends (names : List String) (extended environment : Mapping)
    (bindings : List Binding) : Prop where
  kept : ∀ name value, environment name = some value → extended name = some value
  filled : ∀ name, environment name = none → ∀ value, extended name = some value ↔
    name ∈ names ∧ ∃ text, Gives bindings name text ∧ value = .text text

theorem fill_eq_some_iff {name : String} (unset : environment name = none) {value : RawValue} :
    environment.fill bindings name = some value ↔
      ∃ text, Gives bindings name text ∧ value = .text text := by
  rw [fill_of_none unset, Option.map_eq_some_iff]
  exact exists_congr fun text => and_congr lookup_eq_some_iff eq_comm

/-- The environment with the gaps at these names filled. -/
def extend (names : List String) (environment : Mapping) (bindings : List Binding) : Mapping :=
  fun name => if name ∈ names then environment.fill bindings name else environment name

theorem extends_extend (names : List String) (environment : Mapping) (bindings : List Binding) :
    Extends names (extend names environment bindings) environment bindings := by
  constructor
  · intro name value set
    rw [extend]
    split
    · exact fill_of_some set bindings
    · exact set
  · intro name unset value
    rw [extend]
    split
    · next known =>
      rw [fill_eq_some_iff unset]
      exact (and_iff_right known).symm
    · next other => simp [unset, other]

theorem Extends.eq_fill (extension : Extends names extended environment bindings) {name : String}
    (known : name ∈ names) : extended name = environment.fill bindings name := by
  match given : environment name with
  | some value => rw [extension.kept name value given, fill_of_some given]
  | none =>
    apply Option.ext
    intro value
    rw [extension.filled name given, fill_eq_some_iff given]
    exact and_iff_right known

theorem fill_nil (environment : Mapping) : environment.fill [] = environment := by
  funext name
  match given : environment name with
  | some value => exact fill_of_some given []
  | none => exact fill_of_none given []

/-- At these names only the bindings of those that are not set count. -/
theorem fill_filling (environment : Mapping) (bindings : List Binding) {name : String}
    (known : name ∈ names) :
    environment.fill (filling names environment bindings) name =
      environment.fill bindings name := by
  match given : environment name with
  | some value => rw [fill_of_some given, fill_of_some given]
  | none =>
    rw [fill_of_none given, fill_of_none given, filling, lookup_filter]
    rintro binding - rfl
    simp [known, given]

end Mapping

/-- Settings are read from their variables and from nothing else. -/
theorem Settings.ofEnvironment_congr {environment other : Mapping}
    (agree : ∀ name ∈ Setting.variableNames, environment name = other name) :
    ofEnvironment environment = ofEnvironment other := by
  have level := agree _ (Setting.variableName_mem_variableNames .logLevel)
  have file := agree _ (Setting.variableName_mem_variableNames .logFile)
  rw [ofEnvironment, ofEnvironment, level, file]

namespace Invocation

variable {arguments : List String} {environment other : Mapping} {assignments more : Option String}

/-- What a run leaves behind depends on its arguments and on the variables that it looks at, once
the gaps are filled, and on nothing else. -/
theorem execute_congr
    (agree : ∀ name ∈ consulted arguments,
      (mk arguments environment assignments).filled name = (mk arguments other more).filled name)
    (stamp : String) (terminal : Nat) :
    (mk arguments environment assignments).execute stamp terminal =
      (mk arguments other more).execute stamp terminal := by
  have known {name : String} (setting : name ∈ Setting.variableNames) :
      name ∈ consulted arguments := by
    rw [consulted]
    split
    · exact setting
    · exact List.mem_cons_of_mem _ setting
  have settings : (mk arguments environment assignments).settings =
      (mk arguments other more).settings :=
    Settings.ofEnvironment_congr fun name setting => agree name (known setting)
  have columns (wrong : arguments.length ≠ 1) :
      (mk arguments environment assignments).columns terminal =
        (mk arguments other more).columns terminal := by
    rw [columns, columns, agree]
    rw [consulted, if_neg wrong]
    exact List.mem_cons_self
  rw [execute, execute, settings]
  match arguments with
  | [] => rw [columns (by simp)]
  | [text] => rfl
  | _ :: _ :: _ => rw [columns (by simp)]

theorem outcome_of_loads (loads : environment.Loads ((assignments.map Assignments.read).getD []))
    (stamp : String) (terminal : Nat) :
    (mk arguments environment assignments).outcome stamp terminal =
      .ok ((mk arguments environment assignments).execute stamp terminal) := by
  have passes := Mapping.loadError?_eq_none_iff.mpr loads
  rw [outcome, bindings, passes]

theorem outcome_without_file (stamp : String) (terminal : Nat) :
    (mk arguments environment none).outcome stamp terminal =
      .ok ((mk arguments environment none).execute stamp terminal) := by
  apply outcome_of_loads
  rintro name text - ⟨before, after, parts, -⟩
  simp at parts

theorem exists_outcome_eq_error_iff {stamp : String} {terminal : Nat} :
    (∃ error, (mk arguments environment assignments).outcome stamp terminal = .error error) ↔
      ¬environment.Loads ((assignments.map Assignments.read).getD []) := by
  rw [← Mapping.loadError?_eq_none_iff, outcome, bindings]
  cases environment.loadError? ((assignments.map Assignments.read).getD []) <;> simp

end Invocation

/-- An empty level, which is no level but hides one. -/
private def emptyLevel : Mapping :=
  fun name => if name = Setting.logLevel.variableName then some (.text "") else none

end Reckoner
