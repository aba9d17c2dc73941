import DecisionTables.Number.Binary64

/-!
# Tokens

A text of the language is a sequence of lexemes: numbers, quoted texts, names and symbols. A token
is a lexeme with the offset at which it stands, counted in characters.
-/

namespace DecisionTables

/-- The operators and punctuation of the language. -/
inductive Symbol where
  | range | atMost | atLeast | notEqual | less | greater | equal
  | plus | minus | times | over
  | openParenthesis | closeParenthesis | openBracket | closeBracket
  | comma | subject
  deriving DecidableEq

def Symbol.text : Symbol → String
  | .range => ".."
  | .atMost => "<="
  | .atLeast => ">="
  | .notEqual => "!="
  | .less => "<"
  | .greater => ">"
  | .equal => "="
  | .plus => "+"
  | .minus => "-"
  | .times => "*"
  | .over => "/"
  | .openParenthesis => "("
  | .closeParenthesis => ")"
  | .openBracket => "["
  | .closeBracket => "]"
  | .comma => ","
  | .subject => "?"

/-- What a token stands for. -/
inductive Lexeme where
  | integer (value : Nat)
  | double (value : Binary64)
  | text (value : String)
  /-- A name, or several names joined by points. -/
  | name (value : String)
  | symbol (value : Symbol)
  deriving DecidableEq

/-- A lexeme and its offset in the text. -/
structure Token where
  lexeme : Lexeme
  position : Nat
  deriving DecidableEq

end DecisionTables
