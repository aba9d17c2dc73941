import DecisionTables.Text.Printable

/-!
# Quoted text

The form in which messages show a text: between quotation marks, with every character that would
not show escaped. Single marks are preferred; double ones serve a text that holds a single mark and
no double one.
-/

namespace DecisionTables.Text

def singleQuote : Char := Char.ofNat 0x27

def doubleQuote : Char := Char.ofNat 0x22

def hexDigit (value : Nat) : Char :=
  Char.ofNat (if value < 10 then 0x30 + value else 0x57 + value)

/-- The lowest `width` hexadecimal digits of a number, the highest first. -/
def hexDigits : (width : Nat) → Nat → List Char
  | 0, _ => []
  | width + 1, value => hexDigits width (value / 16) ++ [hexDigit (value % 16)]

/-- The escape of a code point: two, four or eight hexadecimal digits, whichever suffice first. -/
def escapeCode (code : Nat) : List Char :=
  if code < 0x100 then '\\' :: 'x' :: hexDigits 2 code
  else if code < 0x10000 then '\\' :: 'u' :: hexDigits 4 code
  else '\\' :: 'U' :: hexDigits 8 code

/-- How one character stands between quotation marks `mark`. -/
def quotedCharacter (mark character : Char) : List Char :=
  if character == mark || character == '\\' then ['\\', character]
  else if character == '\n' then ['\\', 'n']
  else if character == '\r' then ['\\', 'r']
  else if character == '\t' then ['\\', 't']
  else if isPrintable character then [character]
  else escapeCode character.toNat

def quotationMark (characters : List Char) : Char :=
  if characters.contains singleQuote && !characters.contains doubleQuote then doubleQuote
  else singleQuote

def quoted (text : String) : String :=
  let characters := text.toList
  let mark := quotationMark characters
  String.ofList (mark :: characters.flatMap (quotedCharacter mark) ++ [mark])

end DecisionTables.Text
