import DecisionTables.Number.Binary64
import DecisionTables.Text.Blank
import DecisionTables.Text.Digit

/-!
# Numerals

Reading numbers written in a text. A numeral may stand between blanks, carries at most one sign and
may use the decimal digits of any script; a single underscore may separate two digits. An integer
has at most `maxDigits` digits, a limit that also holds for writing one.
-/

namespace DecisionTables

namespace Numeral

/-- The greatest number of digits of an integer that is read or written. -/
def maxDigits : Nat := 4300

/-- The number that a list of digits denotes, the highest digit first. -/
def value (digits : List Nat) : Nat :=
  digits.foldl (fun total digit => total * 10 + digit) 0

/-- The digits of a numeral in which single underscores may separate digits. The flag tells whether
a digit stands directly before. -/
def separatedDigits? : (afterDigit : Bool) → List Char → Option (List Nat)
  | afterDigit, [] => if afterDigit then some [] else none
  | afterDigit, character :: rest =>
      if character == '_' then
        if afterDigit then separatedDigits? false rest else none
      else
        match Text.digitValue? character with
        | none => none
        | some digit => (separatedDigits? true rest).map (digit :: ·)

def splitSign : List Char → Bool × List Char
  | '-' :: rest => (true, rest)
  | '+' :: rest => (false, rest)
  | characters => (false, characters)

def integer? (text : String) : Option Int :=
  let (negative, characters) := splitSign (Text.trimmed text.toList)
  match separatedDigits? false characters with
  | none => none
  | some digits =>
      if maxDigits < digits.length then none else some (signed negative (value digits))

/-- The characters with every digit written in ASCII and without the underscores, each of which has
to stand between two digits. The flag tells whether a digit stands directly before. -/
def joinedDigits? : (afterDigit : Bool) → List Char → Option (List Char)
  | _, [] => some []
  | afterDigit, character :: rest =>
      if character == '_' then
        match rest with
        | [] => none
        | next :: _ =>
            if afterDigit && (Text.digitValue? next).isSome then joinedDigits? false rest else none
      else
        match Text.digitValue? character with
        | some digit => (joinedDigits? true rest).map (Char.ofNat (0x30 + digit) :: ·)
        | none => (joinedDigits? false rest).map (character :: ·)

/-- The digits at the front of a list of characters, and what follows them. -/
def leadingDigits (characters : List Char) : List Nat × List Char :=
  ((characters.takeWhile Text.isAsciiDigit).map Text.asciiDigitValue,
    characters.dropWhile Text.isAsciiDigit)

/-- The fractional digits after a decimal point, if there is one, and what follows them. -/
def fractionDigits : List Char → List Nat × List Char
  | '.' :: rest => leadingDigits rest
  | characters => ([], characters)

/-- The exponent that makes up all of the characters. None at all stand for zero. -/
def exponent? : List Char → Option Int
  | [] => some 0
  | mark :: rest =>
      if mark == 'e' || mark == 'E' then
        let (negative, characters) := splitSign rest
        match leadingDigits characters with
        | ([], _) => none
        | (digits, []) => some (signed negative (value digits))
        | _ => none
      else none

/-- The digits and the exponent of an unsigned decimal fraction such as `12.50e-3`. -/
def scientific? (characters : List Char) : Option (List Nat × Int) :=
  let (whole, rest) := leadingDigits characters
  let (fraction, tail) := fractionDigits rest
  if whole.isEmpty && fraction.isEmpty then none
  else (exponent? tail).map fun exponent => (whole ++ fraction, exponent - fraction.length)

/-- The double nearest to a decimal fraction given by its digits and an exponent. -/
def nearestDouble (negative : Bool) (digits : List Nat) (exponent : Int) : Binary64 :=
  Binary64.ofScientific negative (value digits) exponent

/-- The double that a text denotes: a decimal fraction, or a name of an infinity or of the
not-a-number in letters of either case. -/
def double? (text : String) : Option Binary64 :=
  match joinedDigits? false (Text.trimmed text.toList) with
  | none => none
  | some characters =>
      let (negative, unsigned) := splitSign characters
      let name := String.ofList (unsigned.map Char.toLower)
      if name == "inf" || name == "infinity" then some (.infinite negative)
      else if name == "nan" then some (.nan none)
      else (scientific? unsigned).map fun (digits, exponent) =>
        nearestDouble negative digits exponent

end Numeral

end DecisionTables
