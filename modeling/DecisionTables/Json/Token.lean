import DecisionTables.Number.Numeral
import DecisionTables.Value.Basic

/-!
# Tokens of JSON text

White space separates tokens and means nothing else. Beyond the standard, the words `NaN`, `Infinity`
and `-Infinity` are numbers. Text that is no token is passed on as such, so that whoever reads the
tokens can report the first problem in the order of the text.
-/

namespace DecisionTables.Json

/-- A problem of a JSON text. -/
inductive Problem where
  | expectedValue
  | expectedName
  | expectedColon
  | expectedComma
  | unterminatedString
  | controlCharacter
  | badEscape
  | badCodeEscape
  | extraData
  | byteOrderMark
  deriving DecidableEq

/-- A token. -/
inductive Token where
  | openArray
  | closeArray
  | openObject
  | closeObject
  | comma
  | colon
  | text (content : String)
  | value (value : Value)
  /-- A string with a problem at a position. -/
  | badText (problem : Problem) (position : Nat)
  | longNumeral
  | unknown
  | finish

/-- A token and the position of its first character. -/
structure Placed where
  token : Token
  position : Nat

namespace Token

def isSpace (character : Char) : Bool :=
  character == ' ' || character == '\n' || character == '\t' || character == '\r'

/-- The character that a backslash and a letter stand for. -/
def escaped? (character : Char) : Option Char :=
  if character == '"' || character == '\\' || character == '/' then some character
  else if character == 'b' then some '\x08'
  else if character == 'f' then some '\x0c'
  else if character == 'n' then some '\n'
  else if character == 'r' then some '\r'
  else if character == 't' then some '\t'
  else none

def hexadecimal? (character : Char) : Option Nat :=
  if character.isDigit then some (character.toNat - 0x30)
  else
    let lower := character.toLower.toNat
    if 0x61 ≤ lower && lower ≤ 0x66 then some (lower - 0x57) else none

/-- The code unit that four hexadecimal digits write. -/
def unit? (a b c d : Char) : Option Nat := do
  return (((← hexadecimal? a) * 16 + (← hexadecimal? b)) * 16 + (← hexadecimal? c)) * 16 +
    (← hexadecimal? d)

/-- What an escaped code unit stands for, given the characters after it: a character, and whether a
second escaped unit belongs to it. A unit without a partner becomes a replacement character. The
second unit counts only if something follows it. -/
def unitCharacter? (unit : Nat) : List Char → Option (Char × Bool)
  | '\\' :: 'u' :: a :: b :: c :: d :: _ :: _ =>
      if 0xD800 ≤ unit && unit < 0xDC00 then do
        let low ← unit? a b c d
        if 0xDC00 ≤ low && low < 0xE000 then
          return (Char.ofNat (0x10000 + (unit - 0xD800) * 0x400 + (low - 0xDC00)), true)
        else return ('\ufffd', false)
      else some (single unit)
  | _ => some (single unit)
where
  /-- A unit for itself. -/
  single (unit : Nat) : Char × Bool :=
    if 0xD800 ≤ unit && unit < 0xE000 then ('\ufffd', false) else (Char.ofNat unit, false)

/-- The content of a string from an offset behind its opening mark on, and the offset behind its
closing mark. A problem comes with its offset. -/
def string : (offset : Nat) → List Char → Except (Problem × Nat) (List Char × Nat)
  | _, [] => .error (.unterminatedString, 0)
  | offset, '\\' :: 'u' :: a :: b :: c :: d :: next :: rest =>
      match unit? a b c d with
      | none => .error (.badCodeEscape, offset + 1)
      | some unit =>
          match unitCharacter? unit (next :: rest) with
          | none => .error (.badCodeEscape, offset + 7)
          | some (character, false) =>
              (string (offset + 6) (next :: rest)).map fun (content, stop) =>
                (character :: content, stop)
          | some (character, true) =>
              match rest with
              | _ :: _ :: _ :: _ :: _ :: rest =>
                  (string (offset + 12) rest).map fun (content, stop) =>
                    (character :: content, stop)
              | _ => .error (.badCodeEscape, offset + 7)
  | offset, '\\' :: 'u' :: _ => .error (.badCodeEscape, offset + 1)
  | offset, '\\' :: next :: rest =>
      match escaped? next with
      | none => .error (.badEscape, offset)
      | some character =>
          (string (offset + 2) rest).map fun (content, stop) => (character :: content, stop)
  | offset, character :: rest =>
      if character == '"' then .ok ([], offset + 1)
      else if character == '\\' then .error (.unterminatedString, 0)
      else if character.toNat < 0x20 then .error (.controlCharacter, offset)
      else (string (offset + 1) rest).map fun (content, stop) => (character :: content, stop)

/-- The integer part of a numeral: a zero, or digits that do not start with one. -/
def wholeDigits : List Char → List Char
  | '0' :: _ => ['0']
  | characters => characters.takeWhile Char.isDigit

/-- The fraction at the front: a point and digits, if there are any. -/
def fraction : List Char → List Char
  | '.' :: rest =>
      let digits := rest.takeWhile Char.isDigit
      if digits.isEmpty then [] else '.' :: digits
  | _ => []

/-- The digits of an exponent with the sign before them, if there are any digits. -/
def signedDigits : List Char → List Char
  | sign :: rest =>
      if sign == '+' || sign == '-' then
        let digits := rest.takeWhile Char.isDigit
        if digits.isEmpty then [] else sign :: digits
      else (sign :: rest).takeWhile Char.isDigit
  | [] => []

/-- The exponent at the front, if it has digits. -/
def exponent : List Char → List Char
  | mark :: rest =>
      let digits := signedDigits rest
      if (mark == 'e' || mark == 'E') && !digits.isEmpty then mark :: digits else []
  | [] => []

/-- The number at the front, and its length. -/
def number (characters : List Char) : Token × Nat :=
  let sign := characters.takeWhile (· == '-') |>.take 1
  let afterSign := characters.drop sign.length
  let whole := wholeDigits afterSign
  let afterWhole := afterSign.drop whole.length
  let fraction := fraction afterWhole
  let exponent := exponent (afterWhole.drop fraction.length)
  let text := String.ofList (sign ++ whole ++ fraction ++ exponent)
  if whole.isEmpty then (.unknown, 1)
  else if fraction.isEmpty && exponent.isEmpty then
    if Numeral.maxDigits < whole.length then (.longNumeral, text.length)
    else
      match Numeral.integer? text with
      | some whole => (.value (.integer whole), text.length)
      | none => (.unknown, 1)
  else
    match Numeral.double? text with
    | some double => (.value (.number (.double double)), text.length)
    | none => (.unknown, 1)

/-- The word at the front that is a value, and its length. All that are not a number are one. -/
def word? (characters : List Char) : Option (Value × Nat) :=
  let words : List (String × Value) := [
    ("null", .null), ("true", .boolean true), ("false", .boolean false),
    ("NaN", .number (.double (.nan (some 0)))),
    ("Infinity", .number (.double (.infinite false))),
    ("-Infinity", .number (.double (.infinite true)))]
  (words.find? fun word => word.1.toList.isPrefixOf characters).map fun word =>
    (word.2, word.1.length)

/-- The token that starts at a position with `first`, which is not white space, and its length. -/
def read (position : Nat) (first : Char) (rest : List Char) : Token × Nat :=
  if first == '[' then (.openArray, 1)
  else if first == ']' then (.closeArray, 1)
  else if first == '\x7b' then (.openObject, 1)
  else if first == '\x7d' then (.closeObject, 1)
  else if first == ',' then (.comma, 1)
  else if first == ':' then (.colon, 1)
  else if first == '"' then
    match string 1 rest with
    | .ok (content, length) => (.text (String.ofList content), length)
    | .error (problem, offset) => (.badText problem (position + offset), 1)
  else
    match word? (first :: rest) with
    | some (found, length) => (.value found, length)
    | none => number (first :: rest)

/-- The tokens of the characters from a position on. -/
def allFrom (position : Nat) : List Char → List Placed
  | [] => [⟨.finish, position⟩]
  | first :: rest =>
      if isSpace first then allFrom (position + 1) rest
      else
        let (token, length) := read position first rest
        ⟨token, position⟩ :: allFrom (position + 1 + (length - 1)) (rest.drop (length - 1))
termination_by characters => characters.length
decreasing_by
  · simp
  · simp only [List.length_drop, List.length_cons]; omega

end Token

end DecisionTables.Json
