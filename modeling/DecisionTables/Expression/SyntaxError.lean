import DecisionTables.Expression.Token
import DecisionTables.Fault
import DecisionTables.Number.Digits
import DecisionTables.Text.Quoted

/-!
# Syntax errors

Why a text is not of the language. A reading stops at a token, or at the end of the text if there is
none; the error names that place and what stands there.
-/

namespace DecisionTables

/-- What a reading could not go on with. -/
inductive SyntaxCause where
  /-- A quoted text without a closing mark. -/
  | unterminatedText
  /-- A character that begins no lexeme. -/
  | unexpectedCharacter (character : Char)
  /-- A symbol that had to follow. -/
  | expectedSymbol (symbol : Symbol)
  /-- Something that had to be a value. -/
  | expectedValue
  /-- The end of an interval. -/
  | expectedIntervalEnd
  /-- The end of the text. -/
  | trailingInput
  /-- A name that is called and is no function. -/
  | unknownFunction (name : String)
  deriving DecidableEq

def Lexeme.quoted : Lexeme → String
  | .integer value => String.ofList (Numeral.digits value)
  | .double value => value.render
  | .text value => Text.quoted value
  | .name value => Text.quoted value
  | .symbol value => Text.quoted value.text

/-- Where a reading of tokens stopped and why. No token means the end of the text. -/
structure Rejection where
  cause : SyntaxCause
  token : Option Token

/-- What was found where a reading stopped. -/
def Rejection.found (rejection : Rejection) : String :=
  match rejection.token with
  | some token => token.lexeme.quoted
  | none => "end of input"

/-- A text that is not of the language. -/
structure SyntaxError where
  text : String
  position : Nat
  cause : SyntaxCause
  /-- What was found at the position. -/
  found : String

namespace SyntaxError

/-- The error of a rejected reading of a text. -/
def ofRejection (text : String) (rejection : Rejection) : SyntaxError where
  text := text
  position :=
    match rejection.token with
    | some token => token.position
    | none => text.length
  cause := rejection.cause
  found := rejection.found

/-- What is wrong at the position. -/
def detail (error : SyntaxError) : String :=
  let expectation (what : String) := what ++ ", found " ++ error.found
  match error.cause with
  | .unterminatedText => "unterminated string"
  | .unexpectedCharacter character =>
      "unexpected character " ++ Text.quoted (String.ofList [character])
  | .expectedSymbol symbol => expectation ("expected '" ++ symbol.text ++ "'")
  | .expectedValue => expectation "expected a value"
  | .expectedIntervalEnd => expectation "expected ']', ')' or '[' to close interval"
  | .trailingInput => expectation "unexpected trailing input"
  | .unknownFunction name => "unknown function '" ++ name ++ "'"

def message (error : SyntaxError) : String :=
  "Invalid expression '" ++ error.text ++ "' at position " ++ toString error.position ++ ": " ++
    error.detail

end SyntaxError

/-- Why a text is not read: it is not of the language, or it holds a numeral that is too long. -/
inductive ReadError where
  | invalid (error : SyntaxError)
  | fault (fault : Fault)

end DecisionTables
