import Reckoner.Parser.Cursor
import Reckoner.Expr.Value
import Reckoner.Token.Scan

/-! # Errors

Every way in which a line of arithmetic can fail, the kind under which it is answered, and the
message in which it is explained.
-/

namespace Reckoner

/-- The kinds of error that a caller can tell apart. -/
inductive ErrorKind where
  | invalidExpression
  | illegalCharacter
  | zeroDivision
  | internal
  /-- Not a fault of what is read: the stack gave out. -/
  | recursion
deriving DecidableEq, Repr

def ErrorKind.name : ErrorKind → String
  | .invalidExpression => "SyntaxError"
  | .illegalCharacter => "IllegalCharacter"
  | .zeroDivision => "ZeroDivisionError"
  | .internal => "CalculatorError"
  | .recursion => "RecursionError"

/-- Why a line of arithmetic has no answer. -/
inductive Error where
  | lexical (error : LexicalError)
  | grammar (error : GrammarError)
  | evaluation (error : EvalError)
  /-- The result has more digits than a numeral may have. -/
  | resultTooLong
deriving DecidableEq, Repr

private def located (text : String) (pos : Int) : String :=
  text ++ " at position " ++ Numeral.write pos

namespace LexicalError

def kind : LexicalError → ErrorKind
  | .illegalCharacter .. => .illegalCharacter
  | .literalTooLong _ => .invalidExpression

def message : LexicalError → String
  | .illegalCharacter c pos => located ("Unexpected character " ++ Text.quote c.toString) pos
  | .literalTooLong pos => located "Numeric literal too long" pos

end LexicalError

namespace GrammarError

def kind : GrammarError → ErrorKind
  | .outOfStack => .recursion
  | .unterminated | .mismatch .. | .trailing _ | .tooDeep _ | .endOfInput _ | .operandExpected _ =>
    .invalidExpression

def message : GrammarError → String
  | .unterminated => "Token stream is not terminated by END"
  | .mismatch wanted found =>
    located ("Expected " ++ wanted.name ++ ", got " ++ found.kind.name) found.pos
  | .trailing found => located ("Unexpected token " ++ found.shown) found.pos
  | .tooDeep found =>
    located ("Parentheses nested deeper than " ++ Numeral.write nestingLimit) found.pos
  | .endOfInput found => located "Unexpected end of input" found.pos
  | .operandExpected found => located ("Expected number or '(', got " ++ found.shown) found.pos
  | .outOfStack => "maximum recursion depth exceeded"

end GrammarError

namespace EvalError

def kind : EvalError → ErrorKind
  | .divisionByZero => .zeroDivision
  | .unknownOperator _ | .unsupportedNode _ => .internal

def message : EvalError → String
  | .divisionByZero => "Division by zero"
  | .unknownOperator op => "Unknown binary operator: " ++ op.name
  | .unsupportedNode node => "Unsupported AST node: " ++ node.shape

end EvalError

namespace Error

/-- The kind under which an error is answered. -/
def kind : Error → ErrorKind
  | .lexical error => error.kind
  | .grammar error => error.kind
  | .evaluation error => error.kind
  | .resultTooLong => .invalidExpression

/-- What is wrong, in one line. -/
def message : Error → String
  | .lexical error => error.message
  | .grammar error => error.message
  | .evaluation error => error.message
  | .resultTooLong => "Result has too many digits to print"

end Error

end Reckoner
