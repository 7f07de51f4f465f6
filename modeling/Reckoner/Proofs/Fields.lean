import Mathlib.Control.Monad.Basic
import Mathlib.Data.List.Forall2
import Mathlib.Data.List.TakeWhile
import Reckoner.Settings
import Reckoner.Proofs.Capitals

/-! # Fields of the settings

Each of the two settings is read from its own value, and whether that can be read does not depend
on the other: the problems name just the settings whose values are refused, the level before the
file. A level is spelled in letters of either case amid blanks; any text will do for a file, but
one of blanks alone stands for none. What has been read, offered again, is read as the same.

All that is said of the texts which the validating library takes from the values, whatever they
are. From most values that are no texts it takes none, but from a byte string the one that is
encoded there.
-/

namespace Reckoner

namespace Text

/-- `core` is the text without the blanks at both its ends. -/
structure IsCore (text core : List Char) : Prop where
  parts : ∃ front back, text = front ++ (core ++ back) ∧ (∀ c ∈ front, isBlank c = true) ∧
    ∀ c ∈ back, isBlank c = true
  first : ∀ c ∈ core.head?, isBlank c = false
  last : ∀ c ∈ core.getLast?, isBlank c = false

theorem isBlank_of_head?_dropWhile {cs : List Char} {c : Char}
    (first : c ∈ (cs.dropWhile isBlank).head?) : isBlank c = false := by
  have stops := List.head?_dropWhile_not isBlank cs
  rwa [first] at stops

theorem dropWhile_eq_self {cs : List Char} (first : ∀ c ∈ cs.head?, isBlank c = false) :
    cs.dropWhile isBlank = cs := by
  cases cs with
  | nil => rfl
  | cons c rest => rw [List.dropWhile_cons_of_neg (by simp [first c rfl])]

theorem isCore_strip (text : List Char) : IsCore text (strip text) := by
  let back := ((stripLeft text).reverse.takeWhile isBlank).reverse
  have rest : stripLeft text = strip text ++ back := by
    rw [strip, stripRight, ← List.reverse_append, List.takeWhile_append_dropWhile,
      List.reverse_reverse]
  refine ⟨⟨text.takeWhile isBlank, back, ?_, fun c => List.mem_takeWhile_imp, ?_⟩, ?_, ?_⟩
  · rw [← rest, stripLeft, List.takeWhile_append_dropWhile]
  · intro c member
    exact List.mem_takeWhile_imp (List.mem_reverse.mp member)
  · intro c first
    obtain ⟨tail, parts⟩ := List.head?_eq_some_iff.mp first
    have leads : c ∈ (text.dropWhile isBlank).head? := by
      rw [← stripLeft, rest, parts]
      rfl
    exact isBlank_of_head?_dropWhile leads
  · intro c last
    rw [strip, stripRight, List.getLast?_reverse] at last
    exact isBlank_of_head?_dropWhile last

/-- A text has one core. -/
theorem strip_eq_iff {text core : List Char} : strip text = core ↔ IsCore text core := by
  constructor
  · rintro rfl
    exact isCore_strip text
  · rintro ⟨⟨front, back, rfl, before, behind⟩, first, last⟩
    have ends : (back.reverse ++ core.reverse).dropWhile isBlank = core.reverse := by
      rw [List.dropWhile_append_of_pos fun c member => behind c (List.mem_reverse.mp member),
        dropWhile_eq_self]
      rwa [List.head?_reverse]
    rw [strip, stripRight, stripLeft, List.dropWhile_append_of_pos before]
    cases core with
    | nil =>
      have none : back.dropWhile isBlank = [] := List.dropWhile_eq_nil_iff.mpr behind
      rw [List.nil_append, none]
      rfl
    | cons c rest =>
      have begins : ∀ d ∈ (c :: rest ++ back).head?, isBlank d = false := first
      rw [dropWhile_eq_self begins, List.reverse_append, ends, List.reverse_reverse]

end Text

namespace Level

/-- The character stands for the letter: it is the letter when case is ignored, or the dotless
`ı` for an `I`. -/
def StandsFor (c letter : Char) : Prop :=
  c.toLower = letter.toLower ∨ letter = 'I' ∧ c = 'ı'

/-- The text spells the name of the level, blanks at its ends apart. -/
def SpelledBy (level : Level) (text : String) : Prop :=
  ∃ core, Text.IsCore text.toList core ∧ List.Forall₂ StandsFor core level.name.toList

theorem capital_eq_iff {c letter : Char} (upper : letter.isUpper = true) :
    capital c = letter ↔ StandsFor c letter := by
  rw [capital]
  split
  · next dotless =>
    subst dotless
    constructor
    · rintro rfl
      exact .inr ⟨rfl, rfl⟩
    · rintro (same | ⟨rfl, -⟩)
      · exact absurd same (Text.toLower_ne_of_far (by decide) upper)
      · rfl
  · next other =>
    have standsFor : StandsFor c letter ↔ c.toLower = letter.toLower :=
      or_iff_left fun dotless => other dotless.2
    rw [standsFor]
    rcases Nat.lt_or_ge c.toNat 0x80 with ascii | far
    · exact Text.toUpper_eq_iff_of_ascii ascii upper
    · rw [Text.toUpper_of_far far, iff_false_right (Text.toLower_ne_of_far far upper)]
      rintro rfl
      rw [Text.isUpper_eq_false_of_far far] at upper
      cases upper

theorem map_capital_eq_iff {name : List Char} (letters : ∀ c ∈ name, c.isUpper = true)
    (cs : List Char) : cs.map capital = name ↔ List.Forall₂ StandsFor cs name := by
  induction cs generalizing name with
  | nil => simp [eq_comm]
  | cons c rest ih =>
    cases name with
    | nil => simp
    | cons letter name =>
      obtain ⟨first, further⟩ := List.forall_mem_cons.mp letters
      rw [List.map_cons, List.cons_eq_cons, List.forall₂_cons, capital_eq_iff first, ih further]

theorem ofText?_eq_some_iff_spelledBy {text : String} {level : Level} :
    ofText? text = some level ↔ level.SpelledBy text := by
  rw [ofText?_eq_some_iff, map_capital_eq_iff fun c => isUpper_of_mem_name]
  constructor
  · intro spelled
    exact ⟨_, Text.isCore_strip _, spelled⟩
  · rintro ⟨core, isCore, spelled⟩
    rwa [Text.strip_eq_iff.mpr isCore]

end Level

/-- The values that a setting can be read from. -/
inductive Setting.Admits (coerce : Coercion) : Setting → RawValue → Prop where
  | level {value : RawValue} {text : String} {level : Level}
      (taken : value.asText coerce = .ok text) (spelled : level.SpelledBy text) :
      Admits coerce .logLevel value
  | file {value : RawValue} {text : String} (taken : value.asText coerce = .ok text) :
      Admits coerce .logFile value
  | noFile : Admits coerce .logFile .null

/-- A value is offered for the setting that it cannot be read from. -/
def Setting.RefusedIn (coerce : Coercion) (values : Mapping) (setting : Setting) : Prop :=
  ∃ value, values setting.name = some value ∧ ¬setting.Admits coerce value

/-- What is wrong with a value that is refused. -/
def RawValue.complaint (coerce : Coercion) (value : RawValue) : Complaint :=
  match value.asText coerce with
  | .ok _ => .unknownLevel
  | .error complaint => complaint

/-- No text is taken from the value unless it is one. -/
def RawValue.TakenAsIs (coerce : Coercion) (value : RawValue) : Prop :=
  ∀ text, value.asText coerce = .ok text → value = .text text

variable {coerce : Coercion} {value : RawValue} {text : String} {complaint : Complaint}

theorem RawValue.TakenAsIs.asText_eq_ok_iff (asIs : value.TakenAsIs coerce) :
    value.asText coerce = .ok text ↔ value = .text text := by
  constructor
  · exact asIs text
  · rintro rfl
    rfl

theorem Setting.admits_level_iff : Setting.logLevel.Admits coerce value ↔
    ∃ text level, value.asText coerce = .ok text ∧ Level.ofText? text = some level := by
  constructor
  · rintro ⟨taken, spelled⟩
    exact ⟨_, _, taken, Level.ofText?_eq_some_iff_spelledBy.mpr spelled⟩
  · rintro ⟨text, level, taken, found⟩
    exact .level taken (Level.ofText?_eq_some_iff_spelledBy.mp found)

theorem Setting.admits_file_iff : Setting.logFile.Admits coerce value ↔
    value = .null ∨ ∃ text, value.asText coerce = .ok text := by
  constructor
  · rintro (_ | taken | _)
    · exact .inr ⟨_, taken⟩
    · exact .inl rfl
  · rintro (rfl | ⟨text, taken⟩)
    · exact .noFile
    · exact .file taken

namespace Settings

variable {given : Option RawValue}

theorem readLevel_of_taken (taken : value.asText coerce = .ok text) :
    readLevel coerce (some value) = match Level.ofText? text with
      | some level => .ok level
      | none => .error .unknownLevel := by
  rw [readLevel, taken]
  rfl

theorem readLevel_of_refused (refused : value.asText coerce = .error complaint) :
    readLevel coerce (some value) = .error complaint := by
  rw [readLevel, refused]
  rfl

theorem readFile_of_taken (taken : value.asText coerce = .ok text) :
    readFile coerce (some value) =
      .ok (if text.toList.all Text.isBlank then none else some text) := by
  cases value with
  | null => cases taken
  | text _ | other _ =>
    rw [readFile, taken]
    · rfl
    · nofun

theorem readFile_of_refused (refused : value.asText coerce = .error complaint)
    (present : value ≠ .null) : readFile coerce (some value) = .error complaint := by
  rw [readFile, refused]
  · rfl
  · exact present

theorem readLevel_eq_ok_iff {level : Level} : readLevel coerce given = .ok level ↔
    given = none ∧ level = .warning ∨ ∃ value text, given = some value ∧
      value.asText coerce = .ok text ∧ level.SpelledBy text := by
  match given with
  | none => simp [readLevel, eq_comm]
  | some value =>
    match taken : value.asText coerce with
    | .ok text =>
      rw [readLevel_of_taken taken]
      simp only [reduceCtorEq, false_and, false_or, Option.some.injEq, exists_and_left,
        exists_eq_left', taken, Except.ok.injEq, ← Level.ofText?_eq_some_iff_spelledBy]
      cases Level.ofText? text <;> simp
    | .error complaint => simp [readLevel_of_refused taken, taken]

theorem readLevel_eq_error_iff : readLevel coerce given = .error complaint ↔
    ∃ value, given = some value ∧ ¬Setting.logLevel.Admits coerce value ∧
      complaint = value.complaint coerce := by
  match given with
  | none => simp [readLevel]
  | some value =>
    simp only [Option.some.injEq, exists_eq_left', Setting.admits_level_iff, RawValue.complaint]
    match taken : value.asText coerce with
    | .ok text =>
      rw [readLevel_of_taken taken]
      cases found : Level.ofText? text <;> simp [found, @eq_comm _ complaint]
    | .error complaint => simp [readLevel_of_refused taken, eq_comm]

theorem readFile_of_taken_eq_some_iff (taken : value.asText coerce = .ok text) {file : String} :
    readFile coerce (some value) = .ok (some file) ↔
      text = file ∧ ∃ c ∈ file.toList, Text.isBlank c = false := by
  rw [readFile_of_taken taken]
  by_cases blank : text.toList.all Text.isBlank = true
  · have all := List.all_eq_true.mp blank
    rw [if_pos blank]
    constructor
    · rintro ⟨⟩
    · rintro ⟨rfl, c, member, visible⟩
      rw [all c member] at visible
      cases visible
  · obtain ⟨c, member, visible⟩ := List.all_eq_false.mp (Bool.not_eq_true _ ▸ blank)
    rw [if_neg blank]
    constructor
    · rintro ⟨⟩
      exact ⟨rfl, c, member, Bool.not_eq_true _ ▸ visible⟩
    · rintro ⟨rfl, -⟩
      rfl

/-- There is a file just when a text is taken that is not of blanks alone, and it is that text. -/
theorem readFile_eq_some_iff {file : String} : readFile coerce given = .ok (some file) ↔
    ∃ value, given = some value ∧ value.asText coerce = .ok file ∧
      ∃ c ∈ file.toList, Text.isBlank c = false := by
  cases given with
  | none => simp [readFile]
  | some value =>
    simp only [Option.some.injEq, exists_eq_left']
    cases taken : value.asText coerce with
    | ok text => rw [readFile_of_taken_eq_some_iff taken, Except.ok.injEq]
    | error complaint =>
      by_cases null : value = .null
      · simp [null, readFile]
      · simp [readFile_of_refused taken null]

theorem readFile_eq_error_iff : readFile coerce given = .error complaint ↔
    ∃ value, given = some value ∧ ¬Setting.logFile.Admits coerce value ∧
      complaint = value.complaint coerce := by
  match given with
  | none => simp [readFile]
  | some value =>
    simp only [Option.some.injEq, exists_eq_left', Setting.admits_file_iff, RawValue.complaint]
    by_cases null : value = .null
    · simp [null, readFile]
    · match taken : value.asText coerce with
      | .ok text => simp [readFile_of_taken taken]
      | .error complaint => simp [readFile_of_refused taken null, null, eq_comm]

end Settings

/-- The complaint, if there is one, about what was read. -/
def complaintOf {α : Type} : Except Complaint α → Option Complaint
  | .ok _ => none
  | .error complaint => some complaint

theorem complaintOf_eq_some_iff {α : Type} {reading : Except Complaint α} {complaint : Complaint} :
    complaintOf reading = some complaint ↔ reading = .error complaint := by
  cases reading <;> simp [complaintOf]

/-- What is wrong with the value of a setting, if it is refused. -/
def Setting.complaint? (coerce : Coercion) (values : Mapping) : Setting → Option Complaint
  | .logLevel => complaintOf (Settings.readLevel coerce (values Setting.logLevel.name))
  | .logFile => complaintOf (Settings.readFile coerce (values Setting.logFile.name))

variable {values : Mapping}

theorem Setting.complaint?_eq_some_iff {setting : Setting} :
    setting.complaint? coerce values = some complaint ↔
      ∃ value, values setting.name = some value ∧ ¬setting.Admits coerce value ∧
        complaint = value.complaint coerce := by
  cases setting with
  | logLevel => rw [complaint?, complaintOf_eq_some_iff, Settings.readLevel_eq_error_iff]
  | logFile => rw [complaint?, complaintOf_eq_some_iff, Settings.readFile_eq_error_iff]

theorem Setting.refusedIn_iff {setting : Setting} :
    setting.RefusedIn coerce values ↔
      ∃ complaint, setting.complaint? coerce values = some complaint := by
  simp only [complaint?_eq_some_iff, RefusedIn]
  constructor
  · rintro ⟨value, given, refused⟩
    exact ⟨_, value, given, refused, rfl⟩
  · rintro ⟨-, value, given, refused, -⟩
    exact ⟨value, given, refused⟩

/-- The problems name the settings that are refused, the level before the file, and each tells
what is wrong with its own value. -/
structure Faults (coerce : Coercion) (values : Mapping) (problems : List Problem) : Prop where
  ordered : (problems.map Problem.setting).Sublist [.logLevel, .logFile]
  exact : ∀ setting, setting ∈ problems.map Problem.setting ↔ setting.RefusedIn coerce values
  told : ∀ problem ∈ problems, ∃ value, values problem.setting.name = some value ∧
    problem.complaint = value.complaint coerce

theorem Faults.eq_nil_iff {problems : List Problem} (faults : Faults coerce values problems) :
    problems = [] ↔ ∀ setting : Setting, ¬setting.RefusedIn coerce values := by
  simp only [← faults.exact]
  rw [← List.eq_nil_iff_forall_not_mem, List.map_eq_nil_iff]

def problemsIn (coerce : Coercion) (values : Mapping) : List Problem :=
  [Setting.logLevel, .logFile].filterMap fun setting =>
    (setting.complaint? coerce values).map (Problem.mk setting)

theorem mem_problemsIn {problem : Problem} : problem ∈ problemsIn coerce values ↔
    problem.setting.complaint? coerce values = some problem.complaint := by
  rw [problemsIn, List.mem_filterMap]
  constructor
  · rintro ⟨setting, -, found⟩
    obtain ⟨complaint, wrong, rfl⟩ := Option.map_eq_some_iff.mp found
    exact wrong
  · intro wrong
    refine ⟨problem.setting, ?_, by rw [wrong]; rfl⟩
    cases problem.setting <;> decide

theorem faults_problemsIn (coerce : Coercion) (values : Mapping) :
    Faults coerce values (problemsIn coerce values) := by
  constructor
  · simp only [problemsIn, List.filterMap_cons, List.filterMap_nil]
    cases Setting.logLevel.complaint? coerce values <;>
      cases Setting.logFile.complaint? coerce values <;> simp
  · intro setting
    rw [List.mem_map, Setting.refusedIn_iff]
    constructor
    · rintro ⟨problem, member, rfl⟩
      exact ⟨_, mem_problemsIn.mp member⟩
    · rintro ⟨complaint, wrong⟩
      exact ⟨⟨setting, complaint⟩, mem_problemsIn.mpr wrong, rfl⟩
  · intro problem member
    obtain ⟨value, given, -, same⟩ := Setting.complaint?_eq_some_iff.mp (mem_problemsIn.mp member)
    exact ⟨value, given, same⟩

namespace Settings

theorem ofValues_eq_error_iff {problems : List Problem} : ofValues values coerce = .error problems ↔
    problemsIn coerce values = problems ∧ problemsIn coerce values ≠ [] := by
  rw [ofValues, problemsIn]
  simp only [List.filterMap_cons, List.filterMap_nil, Setting.complaint?, complaintOf]
  cases readLevel coerce (values Setting.logLevel.name) <;>
    cases readFile coerce (values Setting.logFile.name) <;> simp

theorem exists_ofValues_eq_ok_iff :
    (∃ settings, ofValues values coerce = .ok settings) ↔ problemsIn coerce values = [] := by
  match read : ofValues values coerce with
  | .ok settings =>
    have empty : problemsIn coerce values = [] := by
      by_contra found
      rw [ofValues_eq_error_iff.mpr ⟨rfl, found⟩] at read
      cases read
    simp [empty]
  | .error problems =>
    obtain ⟨-, found⟩ := ofValues_eq_error_iff.mp read
    simp [found]

theorem ofValues_eq_ok_iff {settings : Settings} : ofValues values coerce = .ok settings ↔
    readLevel coerce (values Setting.logLevel.name) = .ok settings.logLevel ∧
      readFile coerce (values Setting.logFile.name) = .ok settings.logFile := by
  obtain ⟨level, file⟩ := settings
  rw [ofValues]
  cases readLevel coerce (values Setting.logLevel.name) <;>
    cases readFile coerce (values Setting.logFile.name) <;> simp

/-- The settings are those that the texts taken from the values spell. -/
structure ReadFrom (coerce : Coercion) (settings : Settings) (values : Mapping) : Prop where
  known : settings.logLevel.name ∈ ["DEBUG", "INFO", "WARNING", "ERROR", "CRITICAL"]
  default : values Setting.logLevel.name = none → settings.logLevel = .warning
  spelled : ∀ value, values Setting.logLevel.name = some value →
    ∃ text, value.asText coerce = .ok text ∧ settings.logLevel.SpelledBy text
  file : ∀ file, settings.logFile = some file ↔ ∃ value,
    values Setting.logFile.name = some value ∧ value.asText coerce = .ok file ∧
      ∃ c ∈ file.toList, Text.isBlank c = false

theorem readFrom_of_ok {settings : Settings} (read : ofValues values coerce = .ok settings) :
    settings.ReadFrom coerce values := by
  obtain ⟨level, file⟩ := ofValues_eq_ok_iff.mp read
  have spelled := readLevel_eq_ok_iff.mp level
  constructor
  · cases settings.logLevel <;> decide
  · intro unset
    obtain ⟨-, same⟩ | ⟨value, text, given, -⟩ := spelled
    · exact same
    · rw [unset] at given
      cases given
  · intro value given
    obtain ⟨unset, -⟩ | ⟨value', text, given', taken, spells⟩ := spelled
    · rw [unset] at given
      cases given
    · obtain rfl : value = value' := Option.some.inj (given.symm.trans given')
      exact ⟨text, taken, spells⟩
  · intro name
    rw [← readFile_eq_some_iff, file, Except.ok.injEq]

/-- The values from which settings are read again. -/
def rawValues (settings : Settings) : Mapping := fun name =>
  if name = Setting.logLevel.name then some (.text settings.logLevel.name)
  else if name = Setting.logFile.name then some (settings.logFile.elim .null .text)
  else none

theorem ofValues_rawValues {settings : Settings}
    (visible : ∀ file ∈ settings.logFile, ∃ c ∈ file.toList, Text.isBlank c = false) :
    ofValues settings.rawValues coerce = .ok settings := by
  have level : settings.rawValues Setting.logLevel.name = some (.text settings.logLevel.name) :=
    if_pos rfl
  have logFile : settings.rawValues Setting.logFile.name =
      some (settings.logFile.elim .null .text) := by
    rw [rawValues, if_neg (by decide), if_pos rfl]
  rw [ofValues_eq_ok_iff, level, logFile]
  constructor
  · rw [readLevel_of_taken rfl, Level.ofText?_name]
  · match given : settings.logFile with
    | none => rfl
    | some file => exact readFile_eq_some_iff.mpr ⟨.text file, rfl, rfl, visible file given⟩

end Settings

/-- Takes the text from a byte string of ASCII characters, and from nothing else. -/
private def decoding : Coercion := fun written =>
  match written.toList with
  | 'b' :: '\x27' :: encoded => .ok (String.ofList encoded.dropLast)
  | _ => .error .notText

/-- A level with a dotless `ı` amid blanks beside a file with blanks in its name. -/
private def dotlessLevel : Mapping := fun name =>
  if name = Setting.logLevel.name then some (.text "\u3000crıtıcal\n")
  else if name = Setting.logFile.name then some (.text " a b ")
  else none

/-- A level with a dotted `İ`, which has no other capital, beside a file that is a number. -/
private def dottedLevel : Mapping := fun name =>
  if name = Setting.logLevel.name then some (.text "İNFO")
  else if name = Setting.logFile.name then some (.other "7")
  else none

end Reckoner
