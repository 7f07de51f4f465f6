import Reckoner.Numeral
import Reckoner.Text.Quoted

/-! # Tokens

A lexeme is a number or a mark; a token is a lexeme or the end mark. A token stream is a finite
list of lexemes closed by one end mark, so a reader of a stream always has a token before it.
Tokens need not come from a text: a mark may carry any name, and any spelling or none.
-/

namespace Reckoner

/-- The marks of arithmetic, and any other name that a token may bear. -/
inductive Mark where
  | plus
  | minus
  | star
  | slash
  | opening
  | closing
  | other (name : String)
deriving DecidableEq, Repr

inductive Kind where
  | number
  | mark (mark : Mark)
  | stop
deriving DecidableEq, Repr

namespace Kind

/-- The name under which a kind is reported. -/
def name : Kind → String
  | .number => "NUMBER"
  | .mark .plus => "PLUS"
  | .mark .minus => "MINUS"
  | .mark .star => "STAR"
  | .mark .slash => "SLASH"
  | .mark .opening => "LPAREN"
  | .mark .closing => "RPAREN"
  | .mark (.other name) => name
  | .stop => "END"

def known : List Kind :=
  [.number, .mark .plus, .mark .minus, .mark .star, .mark .slash, .mark .opening, .mark .closing,
    .stop]

/-- The kind that is reported under `name`. -/
def ofName (name : String) : Kind :=
  (known.find? fun kind => kind.name = name).getD (.mark (.other name))

end Kind

/-- A token other than the end mark. -/
inductive Lexeme where
  | number (value : Int) (pos : Int)
  | mark (mark : Mark) (spelling : Option String) (pos : Int)
deriving DecidableEq, Repr

/-- The token that closes a stream. -/
structure EndMark where
  spelling : Option String
  pos : Int
deriving DecidableEq, Repr

inductive Token where
  | lexeme (lexeme : Lexeme)
  | stop (stop : EndMark)
deriving DecidableEq, Repr

/-- How the spelling of a token is shown: in quote marks, or by a word when there is none. -/
def showSpelling (spelling : Option String) : String :=
  (spelling.map Text.quote).getD "None"

namespace Lexeme

def kind : Lexeme → Kind
  | .number .. => .number
  | .mark m .. => .mark m

/-- Where the lexeme begins, counted in characters. -/
def pos : Lexeme → Int
  | .number _ pos => pos
  | .mark _ _ pos => pos

/-- How the value of a lexeme is shown in a message. -/
def shown : Lexeme → String
  | .number value _ => Numeral.write value
  | .mark _ spelling _ => showSpelling spelling

end Lexeme

namespace Token

def kind : Token → Kind
  | .lexeme l => l.kind
  | .stop _ => .stop

/-- Where the token begins, counted in characters. -/
def pos : Token → Int
  | .lexeme l => l.pos
  | .stop e => e.pos

/-- How the value of a token is shown in a message. -/
def shown : Token → String
  | .lexeme l => l.shown
  | .stop e => showSpelling e.spelling

/-- The token on one line: its kind, its value and its position. -/
def describe (token : Token) : String :=
  "Token(" ++ token.kind.name ++ ", " ++ token.shown ++ ", pos=" ++ Numeral.write token.pos ++ ")"

def lexeme? : Token → Option Lexeme
  | .lexeme l => some l
  | .stop _ => none

def stop? : Token → Option EndMark
  | .lexeme _ => none
  | .stop e => some e

end Token

/-- Lexemes closed by an end mark. -/
structure TokenStream where
  lexemes : List Lexeme
  stop : EndMark
deriving DecidableEq, Repr

namespace TokenStream

def tokens (stream : TokenStream) : List Token :=
  stream.lexemes.map .lexeme ++ [.stop stream.stop]

def size (stream : TokenStream) : Nat :=
  stream.lexemes.length + 1

/-- The stream that a list of tokens holds. The last token has to be an end mark; the stream is
closed by the first one, and what follows that is never read. -/
def ofTokens? (tokens : List Token) : Option TokenStream :=
  match tokens.getLast?, tokens.findSome? Token.stop? with
  | some (.stop _), some stop =>
    some ⟨(tokens.takeWhile fun token => token.stop?.isNone).filterMap Token.lexeme?, stop⟩
  | _, _ => none

theorem length_tokens (stream : TokenStream) : stream.tokens.length = stream.size := by
  simp [tokens, size]

/-- A list of tokens that ends in an end mark holds the stream of what precedes the first one. -/
theorem ofTokens?_append (lexemes : List Lexeme) (stop : EndMark) (tail : List Token)
    (closed : ((Token.stop stop :: tail).getLast (by simp)).stop?.isSome) :
    ofTokens? (lexemes.map .lexeme ++ .stop stop :: tail) = some ⟨lexemes, stop⟩ := by
  have first : (lexemes.map Token.lexeme ++ .stop stop :: tail).findSome? Token.stop? =
      some stop := by
    induction lexemes with
    | nil => rfl
    | cons l rest ih => exact ih
  have leading : (lexemes.map Token.lexeme ++ .stop stop :: tail).takeWhile
      (fun token => token.stop?.isNone) = lexemes.map .lexeme := by
    clear first
    induction lexemes with
    | nil => rfl
    | cons l rest ih => simp [Token.stop?]
  have back : (lexemes.map Token.lexeme).filterMap Token.lexeme? = lexemes := by
    simp [List.filterMap_map, Function.comp_def, Token.lexeme?]
  have last : (lexemes.map Token.lexeme ++ .stop stop :: tail).getLast? =
      some ((Token.stop stop :: tail).getLast (by simp)) := by
    simp [List.getLast?_eq_some_getLast]
  rw [ofTokens?, last, first]
  cases found : (Token.stop stop :: tail).getLast (by simp) with
  | lexeme l => simp [found, Token.stop?] at closed
  | stop e => simp only [leading, back]

end TokenStream

end Reckoner
