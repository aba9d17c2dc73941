import DecisionTables.Expression.SyntaxError
import DecisionTables.Fault
import DecisionTables.Number.Numeral

/-!
# Lexical analysis

Blanks separate lexemes and mean nothing else. At any other character the longest lexeme that starts
there is taken; its length in characters says where the next one is looked for.
-/

namespace DecisionTables

/-- Why no lexeme is read. -/
inductive LexicalError where
  | unterminatedText
  | unexpectedCharacter (character : Char)
  | numeralTooLong

/-- A lexeme and the number of characters that it takes up after its first. -/
structure Lexed where
  lexeme : Lexeme
  further : Nat

namespace Lexer

/-- The character that a backslash and a letter stand for in a quoted text. -/
def escaped? (character : Char) : Option Char :=
  if character == '"' then some '"'
  else if character == '\\' then some '\\'
  else if character == 'n' then some '\n'
  else if character == 't' then some '\t'
  else if character == 'r' then some '\r'
  else none

/-- The content of a quoted text whose opening mark has been read, and the number of characters up
to and including its closing mark. A backslash that begins no escape stands for itself. -/
def quotedText? : List Char → Option (List Char × Nat)
  | [] => none
  | '\\' :: next :: rest =>
      match escaped? next with
      | some character =>
          (quotedText? rest).map fun (content, count) => (character :: content, count + 2)
      | none =>
          (quotedText? (next :: rest)).map fun (content, count) => ('\\' :: content, count + 1)
  | character :: rest =>
      if character == '"' then some ([], 1)
      else (quotedText? rest).map fun (content, count) => (character :: content, count + 1)

def startsName (character : Char) : Bool :=
  Text.isLetter character || character == '_'

def continuesName (character : Char) : Bool :=
  Text.isAlphanumeric character || character == '_'

/-- The number of characters that continue a name. A point continues it if another name follows. -/
def nameLength : List Char → Nat
  | [] => 0
  | [character] => if continuesName character then 1 else 0
  | character :: next :: rest =>
      if continuesName character || (character == '.' && startsName next) then
        nameLength (next :: rest) + 1
      else 0

/-- The fractional digits after a point that a digit follows. -/
def fraction? : List Char → Option (List Char)
  | '.' :: rest =>
      let digits := rest.takeWhile Text.isAsciiDigit
      if digits.isEmpty then none else some digits
  | _ => none

/-- Whether the characters begin with a numeral: a digit, or a point and a digit. -/
def startsNumber (characters : List Char) : Bool :=
  match characters with
  | [] => false
  | character :: _ => Text.isAsciiDigit character || (fraction? characters).isSome

/-- The numeral at the front of characters that begin with one. -/
def number (characters : List Char) : Except LexicalError Lexed :=
  let whole := characters.takeWhile Text.isAsciiDigit
  match fraction? (characters.dropWhile Text.isAsciiDigit) with
  | some fraction =>
      let digits := (whole ++ fraction).map Text.asciiDigitValue
      .ok ⟨.double (Numeral.nearestDouble false digits (-fraction.length)),
        whole.length + fraction.length⟩
  | none =>
      if Numeral.maxDigits < whole.length then .error .numeralTooLong
      else .ok ⟨.integer (Numeral.value (whole.map Text.asciiDigitValue)), whole.length - 1⟩

/-- The longest symbol at the front of the characters, and its length less one. -/
def symbol? : List Char → Option (Symbol × Nat)
  | '.' :: '.' :: _ => some (.range, 1)
  | '<' :: '=' :: _ => some (.atMost, 1)
  | '>' :: '=' :: _ => some (.atLeast, 1)
  | '!' :: '=' :: _ => some (.notEqual, 1)
  | '<' :: _ => some (.less, 0)
  | '>' :: _ => some (.greater, 0)
  | '=' :: _ => some (.equal, 0)
  | '+' :: _ => some (.plus, 0)
  | '-' :: _ => some (.minus, 0)
  | '*' :: _ => some (.times, 0)
  | '/' :: _ => some (.over, 0)
  | '(' :: _ => some (.openParenthesis, 0)
  | ')' :: _ => some (.closeParenthesis, 0)
  | '[' :: _ => some (.openBracket, 0)
  | ']' :: _ => some (.closeBracket, 0)
  | ',' :: _ => some (.comma, 0)
  | '?' :: _ => some (.subject, 0)
  | _ => none

/-- The lexeme that starts with `first`, a character that is not blank. -/
def lexeme (first : Char) (rest : List Char) : Except LexicalError Lexed :=
  if startsNumber (first :: rest) then number (first :: rest)
  else if first == '"' then
    match quotedText? rest with
    | some (content, count) => .ok ⟨.text (String.ofList content), count⟩
    | none => .error .unterminatedText
  else if startsName first then
    let further := nameLength rest
    .ok ⟨.name (String.ofList (first :: rest.take further)), further⟩
  else
    match symbol? (first :: rest) with
    | some (symbol, further) => .ok ⟨.symbol symbol, further⟩
    | none => .error (.unexpectedCharacter first)

/-- The tokens of the characters from an offset on. An error comes with its offset. -/
def tokensFrom (position : Nat) : List Char → Except (LexicalError × Nat) (List Token)
  | [] => .ok []
  | first :: rest =>
      if Text.isBlank first then tokensFrom (position + 1) rest
      else
        match lexeme first rest with
        | .error error => .error (error, position)
        | .ok lexed =>
            match tokensFrom (position + 1 + lexed.further) (rest.drop lexed.further) with
            | .error error => .error error
            | .ok tokens => .ok (⟨lexed.lexeme, position⟩ :: tokens)
termination_by characters => characters.length
decreasing_by
  · simp
  · simp only [List.length_drop, List.length_cons]; omega

end Lexer

/-- The error of a text that has a lexical error at an offset. -/
def LexicalError.inText (text : String) (position : Nat) : LexicalError → ReadError
  | .unterminatedText => .invalid ⟨text, position, .unterminatedText, ""⟩
  | .unexpectedCharacter character =>
      .invalid ⟨text, position, .unexpectedCharacter character, ""⟩
  | .numeralTooLong => .fault .numeralTooLong

def tokenize (text : String) : Except ReadError (List Token) :=
  match Lexer.tokensFrom 0 text.toList with
  | .ok tokens => .ok tokens
  | .error (error, position) => .error (error.inText text position)

end DecisionTables
