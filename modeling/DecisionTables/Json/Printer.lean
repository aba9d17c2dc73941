import DecisionTables.Value.Text

/-!
# Writing JSON

Values are written over several lines, each level indented by two more spaces. Texts are written in
ASCII; doubles that are not finite are written as the words that are read back as them; a value that
JSON has no form for is written as its plain text.
-/

namespace DecisionTables.Json

/-- The escape of a code unit. -/
def unitEscape (unit : Nat) : List Char :=
  '\\' :: 'u' :: Text.hexDigits 4 unit

/-- How one character stands in a string. -/
def stringCharacter (character : Char) : List Char :=
  let code := character.toNat
  if character == '"' || character == '\\' then ['\\', character]
  else if character == '\n' then ['\\', 'n']
  else if character == '\r' then ['\\', 'r']
  else if character == '\t' then ['\\', 't']
  else if code == 0x08 then ['\\', 'b']
  else if code == 0x0c then ['\\', 'f']
  else if 0x20 ≤ code && code < 0x7f then [character]
  else if code < 0x10000 then unitEscape code
  else
    unitEscape (0xD800 + (code - 0x10000) / 0x400) ++
      unitEscape (0xDC00 + (code - 0x10000) % 0x400)

def string (text : String) : String :=
  String.ofList ('"' :: text.toList.flatMap stringCharacter ++ ['"'])

def number : Number → Except Fault String
  | .integer value => Numeral.integerText value
  | .double (.nan _) => .ok "NaN"
  | .double (.infinite negative) => .ok (if negative then "-Infinity" else "Infinity")
  | .double value => .ok value.render
  | .decimal value => .ok (string value.render)

/-- The start of a line at a depth. -/
def newline (depth : Nat) : String :=
  String.ofList ('\n' :: List.replicate (2 * depth) ' ')

/-- Parts between marks, one a line. -/
def block (depth : Nat) (start stop : String) (parts : List String) : String :=
  if parts.isEmpty then start ++ stop
  else
    start ++ newline (depth + 1) ++ Text.joinWith ("," ++ newline (depth + 1)) parts ++
      newline depth ++ stop

mutual

/-- A value whose first line stands at a depth. -/
def write (depth : Nat) : Value → Except Fault String
  | .null => .ok "null"
  | .boolean value => .ok (if value then "true" else "false")
  | .number value => number value
  | .text value => .ok (string value)
  | .date value => .ok (string value.isoText)
  | .moment value => .ok (string (value.text ' '))
  | .object value => .ok (string value.plain)
  | .list items => (writeItems (depth + 1) items).map (block depth "[" "]")
  | .map members => (writeMembers (depth + 1) members).map (block depth "\x7b" "\x7d")

def writeItems (depth : Nat) : List Value → Except Fault (List String)
  | [] => .ok []
  | item :: rest => do
      let first ← write depth item
      return first :: (← writeItems depth rest)

def writeMembers (depth : Nat) : List (String × Value) → Except Fault (List String)
  | [] => .ok []
  | (name, value) :: rest => do
      let written ← write depth value
      return (string name ++ ": " ++ written) :: (← writeMembers depth rest)

end

def render (value : Value) : Except Fault String :=
  write 0 value

end DecisionTables.Json
