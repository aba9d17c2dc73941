import DecisionTables.Expression.Parser
import DecisionTables.UnaryTest.Basic

/-!
# Reading unary tests

A list of tests is separated by commas. A test that begins with a comparison goes on with a sum, one
that begins with a bracket is an interval, and one that begins with a parenthesis is an interval if
the sum after the parenthesis is followed by the range symbol. Every other test is an expression.
-/

namespace DecisionTables

namespace UnaryTest

/-- The symbol at the front that closes an interval, with whether it includes the end. -/
def closing? : List Token → Option (Bool × List Token)
  | [] => none
  | token :: rest =>
      match token.lexeme with
      | .symbol .closeBracket => some (true, rest)
      | .symbol .closeParenthesis => some (false, rest)
      | .symbol .openBracket => some (false, rest)
      | _ => none

theorem closing?_length {tokens rest : List Token} {closed : Bool}
    (found : closing? tokens = some (closed, rest)) : rest.length < tokens.length := by
  cases tokens with
  | nil => simp [closing?] at found
  | cons token tail =>
      simp only [closing?] at found
      split at found <;> simp_all

/-- The rest of an interval whose opening symbol has been read. -/
def readInterval (startClosed : Bool) (tokens : List Token) : Reading UnaryTest tokens.length :=
  ((Expression.readOperand tokens).closedBy .range).andThen fun start middle shorter =>
    ((Expression.readOperand middle).widen (rest_le_of_lt shorter)).andThen
      fun finish rest shorter =>
        match found : closing? rest with
        | some (finishClosed, tail) =>
            .accepted (.interval start finish startClosed finishClosed) tail
              (Nat.lt_trans (closing?_length found) shorter)
        | none => rejectAt .expectedIntervalEnd rest

def readValue (tokens : List Token) : Reading UnaryTest tokens.length :=
  (Expression.read tokens).map fun expression => .value expression expression.usesSubject

/-- What follows the symbol after the sum at the front, looked at without being taken. -/
def precedesRange (tokens : List Token) : Except Rejection Bool :=
  match Expression.readOperand tokens with
  | .accepted _ rest _ => .ok (afterSymbol? .range rest).isSome
  | .rejected rejection => .error rejection

/-- One test from the front of a list of tokens. -/
def read : (tokens : List Token) → Reading UnaryTest tokens.length
  | [] => readValue []
  | token :: rest =>
      match Expression.comparison? token with
      | some operator =>
          ((Expression.readOperand rest).map (.comparison operator)).widen (rest_le rest)
      | none =>
          if token.lexeme = .symbol .openBracket then
            (readInterval true rest).widen (rest_le rest)
          else if token.lexeme = .symbol .closeBracket then
            (readInterval false rest).widen (rest_le rest)
          else if token.lexeme = .symbol .openParenthesis then
            match precedesRange rest with
            | .error rejection => .rejected rejection
            | .ok true => (readInterval false rest).widen (rest_le rest)
            | .ok false => readValue (token :: rest)
          else readValue (token :: rest)

def readList (tokens : List Token) : Reading (List UnaryTest) tokens.length :=
  match read tokens with
  | .rejected rejection => .rejected rejection
  | .accepted test rest shorter =>
      match found : afterSymbol? .comma rest with
      | none => .accepted [test] rest shorter
      | some tail =>
          have within : tail.length < tokens.length :=
            Nat.lt_trans (afterSymbol?_length found) shorter
          ((readList tail).map (test :: ·)).widen (rest_le_of_lt within)
termination_by tokens.length

end UnaryTest

namespace UnaryTests

def isAnyEntry : List Token → Bool
  | [] => true
  | [token] => token.lexeme == .symbol .minus
  | _ => false

/-- The tokens after `not (`, if the list begins with that. -/
def afterNegation? : List Token → Option (List Token)
  | [] => none
  | token :: rest => if token.lexeme = .name "not" then afterSymbol? .openParenthesis rest else none

/-- The input entry that a list of tokens forms. -/
def ofTokens (tokens : List Token) : Except Rejection UnaryTests :=
  if isAnyEntry tokens then .ok .any
  else
    match afterNegation? tokens with
    | some inner =>
        (((UnaryTest.readList inner).closedBy .closeParenthesis).complete).map .noneOf
    | none => ((UnaryTest.readList tokens).complete).map .oneOf

def parse (text : String) : Except ReadError UnaryTests :=
  match tokenize text with
  | .error error => .error error
  | .ok tokens =>
      match ofTokens tokens with
      | .ok tests => .ok tests
      | .error rejection => .error (.invalid (.ofRejection text rejection))

end UnaryTests

end DecisionTables
