import DecisionTables.Checksum
import DecisionTables.Fault
import DecisionTables.Json.Token
import DecisionTables.Text.Split

/-!
# Reading JSON

A text is read token by token. Objects become maps, in which the last value of a repeated name counts,
arrays become lists, and numerals become integers or doubles. The first problem in the order of the
text is reported with its position. A file holds JSON as UTF-8 text with the line ends of any system,
and positions count the characters of the text after line ends have become line feeds.
-/

namespace DecisionTables.Json

def Problem.message : Problem → String
  | .expectedValue => "Expecting value"
  | .expectedName => "Expecting property name enclosed in double quotes"
  | .expectedColon => "Expecting ':' delimiter"
  | .expectedComma => "Expecting ',' delimiter"
  | .unterminatedString => "Unterminated string starting at"
  | .controlCharacter => "Invalid control character at"
  | .badEscape => "Invalid \\escape"
  | .badCodeEscape => "Invalid \\uXXXX escape"
  | .extraData => "Extra data"
  | .byteOrderMark => "Unexpected UTF-8 BOM (decode using utf-8-sig)"

/-- A problem at a position of a text. -/
structure Error where
  text : String
  problem : Problem
  position : Nat

/-- The text of an error, with the line and column that it is in. -/
def Error.message (error : Error) : String :=
  let before := error.text.toList.take error.position
  let line := before.count '\n' + 1
  let column := (before.reverse.takeWhile (· != '\n')).length + 1
  error.problem.message ++ ": line " ++ toString line ++ " column " ++ toString column ++
    " (char " ++ toString error.position ++ ")"

/-- Why no value is read. -/
inductive Failure where
  | invalid (error : Error)
  | fault (fault : Fault)

/-- An array or object that is open, with its items or members in reverse. -/
inductive Frame where
  | array (items : List Value)
  | object (members : List (String × Value)) (name : String)

/-- What may come next. -/
inductive Place where
  /-- A value, or at the start of an array also its end. -/
  | value (orClose : Bool)
  /-- A name of a member, or at the start of an object also its end. -/
  | name (members : List (String × Value)) (orClose : Bool)
  | colon (members : List (String × Value)) (name : String)
  /-- The rest after a complete value. -/
  | after (value : Value)

/-- Why reading stops before the end. -/
inductive Stop where
  | problem (problem : Problem) (position : Nat)
  | fault (fault : Fault)

/-- The open arrays and objects, the innermost first, and what may come next. -/
abbrev State := List Frame × Place

/-- The state after one token, or why there is none. -/
def step (placed : Placed) : State → Except Stop State
  | (frames, .value orClose) =>
      match placed.token with
      | .openArray => .ok (.array [] :: frames, .value true)
      | .openObject => .ok (frames, .name [] true)
      | .text content => .ok (frames, .after (.text content))
      | .value found => .ok (frames, .after found)
      | .badText problem position => .error (.problem problem position)
      | .longNumeral => .error (.fault .numeralTooLong)
      | .closeArray =>
          match orClose, frames with
          | true, .array _ :: outer => .ok (outer, .after (.list []))
          | _, _ => .error (.problem .expectedValue placed.position)
      | _ => .error (.problem .expectedValue placed.position)
  | (frames, .name members orClose) =>
      match placed.token with
      | .text name => .ok (frames, .colon members name)
      | .badText problem position => .error (.problem problem position)
      | .closeObject =>
          if orClose then .ok (frames, .after (.map []))
          else .error (.problem .expectedName placed.position)
      | _ => .error (.problem .expectedName placed.position)
  | (frames, .colon members name) =>
      match placed.token with
      | .colon => .ok (.object members name :: frames, .value false)
      | _ => .error (.problem .expectedColon placed.position)
  | (.array items :: outer, .after last) =>
      match placed.token with
      | .comma => .ok (.array (last :: items) :: outer, .value false)
      | .closeArray => .ok (outer, .after (.list (last :: items).reverse))
      | _ => .error (.problem .expectedComma placed.position)
  | (.object members name :: outer, .after last) =>
      let members := (name, last) :: members
      match placed.token with
      | .comma => .ok (outer, .name members false)
      | .closeObject => .ok (outer, .after (.map (Bindings.ofList members.reverse)))
      | _ => .error (.problem .expectedComma placed.position)
  | ([], .after _) => .error (.problem .extraData placed.position)

/-- The value that tokens write, from a state on. -/
def run : State → List Placed → Except Stop Value
  | ([], .after last), [⟨.finish, _⟩] => .ok last
  | _, [] => .error (.problem .expectedValue 0)
  | state, placed :: rest =>
      match step placed state with
      | .ok next => run next rest
      | .error stop => .error stop

def parse (text : String) : Except Failure Value :=
  let outcome :=
    if text.toList.head? == some '\ufeff' then .error (.problem .byteOrderMark 0)
    else run ([], .value false) (Token.allFrom 0 text.toList)
  match outcome with
  | .ok value => .ok value
  | .error (.problem problem position) => .error (.invalid ⟨text, problem, position⟩)
  | .error (.fault fault) => .error (.fault fault)

/-! ## Files -/

def textOf? (content : Bytes) : Option String :=
  (String.fromUTF8? ⟨content.toArray⟩).map fun text => String.ofList (Text.unifyLines text.toList)

def parseFile (content : Bytes) : Except Failure Value :=
  match textOf? content with
  | some text => parse text
  | none => .error (.fault .undecodable)

end DecisionTables.Json
