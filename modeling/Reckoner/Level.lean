import Reckoner.Text.Blank

/-! # Log levels

Five levels in ascending order of weight. A level may be written with blanks around it and in
letters of either case; the dotless `ı` counts as an `I`, because `I` is its capital. No other
character outside ASCII has a capital that occurs in the name of a level.
-/

namespace Reckoner

inductive Level where
  | debug
  | info
  | warning
  | error
  | critical
deriving DecidableEq, Repr

namespace Level

def all : List Level :=
  [.debug, .info, .warning, .error, .critical]

def name : Level → String
  | .debug => "DEBUG"
  | .info => "INFO"
  | .warning => "WARNING"
  | .error => "ERROR"
  | .critical => "CRITICAL"

def weight : Level → Nat
  | .debug => 10
  | .info => 20
  | .warning => 30
  | .error => 40
  | .critical => 50

/-- Whether a log at the level `threshold` takes a record of this level. -/
def reaches (level threshold : Level) : Bool :=
  threshold.weight ≤ level.weight

/-- The capital of a letter, as far as the names of levels are concerned. -/
def capital (c : Char) : Char :=
  if c = 'ı' then 'I' else c.toUpper

/-- The level that a text spells. -/
def ofText? (text : String) : Option Level :=
  all.find? fun level => level.name.toList = (Text.strip text.toList).map capital

theorem mem_all (level : Level) : level ∈ all := by
  cases level <;> decide

theorem ofText?_name (level : Level) : ofText? level.name = some level := by
  cases level <;> decide +kernel

end Level

end Reckoner
