import Reckoner.Error
import Reckoner.Level

/-! # Logged events

What a calculation records on its way: that the text was cut into tokens, that a tree was read,
and in the end its result or its failure. Each event has a level and a message of one line.
-/

namespace Reckoner

inductive Event where
  /-- The text has been cut into so many tokens, the end mark included. -/
  | tokenized (count : Nat)
  | parsed (tree : Expr)
  | result (line : String)
  | failed (text : String) (error : Error)
deriving DecidableEq, Repr

namespace Event

/-- Failures are worth knowing; the rest is of use only when looking for a fault. -/
def level : Event → Level
  | .failed .. => .info
  | _ => .debug

def message : Event → String
  | .tokenized count => "tokenized " ++ Numeral.write count ++ " tokens"
  | .parsed tree => "parsed " ++ tree.shape ++ " tree"
  | .result line => "result: " ++ line
  | .failed text error => error.kind.name ++ " for " ++ Text.quote text ++ ": " ++ error.message

/-- The line that a log holds for an event that happened at the time `stamp`. -/
def record (stamp : String) (event : Event) : String :=
  stamp ++ " - cli_calculator.main - " ++ event.level.name ++ " - " ++ event.message ++ "\n"

end Event

end Reckoner
