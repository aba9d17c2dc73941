import DecisionTables.Number.Digits

/-!
# Decimal numbers

A decimal number is a signed coefficient times a power of ten, an infinity, or not a number. The
exponent is part of the number: `1.50` and `1.5` are equal and yet written differently.

An operation rounds its exact result to `precision` digits, a half going to the even neighbour, and
keeps the adjusted exponent (the one of the first digit) between `minAdjusted` and `maxAdjusted`. A
result above that range and an operation without a result are faults. There are two kinds of
not-a-numbers: a quiet one passes through every operation, and a signaling one makes every operation
a fault. Like a double both keep the label of the place they were read from.
-/

namespace DecisionTables

/-- A decimal number. -/
inductive Decimal where
  | nan (negative : Bool) (diagnostic : Nat) (label : Option Nat)
  | signaling (negative : Bool) (diagnostic : Nat) (label : Option Nat)
  | infinite (negative : Bool)
  | finite (negative : Bool) (coefficient : Nat) (exponent : Int)
  deriving DecidableEq

/-- Why a decimal operation has no result. -/
inductive DecimalFault where
  /-- The operation is not defined for its operands. -/
  | invalid
  /-- The result lies above the range of decimal numbers. -/
  | overflow
  deriving DecidableEq

namespace Decimal

/-- The number of digits that an operation keeps. -/
def precision : Nat := 28

/-- The greatest adjusted exponent of a result. -/
def maxAdjusted : Int := 999999

/-- The least adjusted exponent of a result of full precision. -/
def minAdjusted : Int := -999999

/-- The least exponent of a result. -/
def minExponent : Int := minAdjusted - precision + 1

def digitCount (coefficient : Nat) : Nat := (Numeral.digits coefficient).length

/-- A coefficient shortened by `count` digits to the nearest, a half going to the even neighbour. -/
def shorten (coefficient count : Nat) : Nat :=
  roundHalfEven coefficient (Nat.pow 10 count)

/-- A result brought into the precision and range of decimal numbers. -/
def settle (negative : Bool) (coefficient : Nat) (exponent : Int) : Except DecimalFault Decimal :=
  if coefficient = 0 then
    .ok (.finite negative 0 (max minExponent (min maxAdjusted exponent)))
  else
    let excess : Int := max (digitCount coefficient - precision) (minExponent - exponent)
    let (kept, unit) :=
      if excess ≤ 0 then (coefficient, exponent)
      else (shorten coefficient excess.toNat, exponent + excess)
    let (kept, unit) :=
      if kept = Nat.pow 10 precision then (Nat.pow 10 (precision - 1), unit + 1) else (kept, unit)
    if maxAdjusted < unit + digitCount kept - 1 then .error .overflow
    else .ok (.finite negative kept unit)

/-- The exact value, which a not-a-number does not have. -/
def extended? : Decimal → Option Extended
  | .nan .. | .signaling .. => none
  | .infinite negative => some (Extended.infinity negative)
  | .finite negative coefficient exponent =>
      some (.finite (Fraction.scaled 10 (by decide) (signed negative coefficient) exponent))

def ofInt (value : Int) : Decimal := .finite (decide (value < 0)) value.natAbs 0

def isSignaling : Decimal → Bool
  | .signaling .. => true
  | _ => false

def isZero : Decimal → Bool
  | .finite _ coefficient _ => coefficient == 0
  | _ => false

/-- The number of opposite sign. Zero becomes the positive zero. -/
def negate : Decimal → Except DecimalFault Decimal
  | .signaling .. => .error .invalid
  | .nan negative diagnostic _ => .ok (.nan negative diagnostic none)
  | .infinite negative => .ok (.infinite !negative)
  | .finite negative coefficient exponent =>
      settle (if coefficient = 0 then false else !negative) coefficient exponent

def add : Decimal → Decimal → Except DecimalFault Decimal
  | .signaling .., _ | _, .signaling .. => .error .invalid
  | .nan negative diagnostic _, _ => .ok (.nan negative diagnostic none)
  | _, .nan negative diagnostic _ => .ok (.nan negative diagnostic none)
  | .infinite left, .infinite right => if left == right then .ok (.infinite left) else .error .invalid
  | .infinite left, .finite .. => .ok (.infinite left)
  | .finite .., .infinite right => .ok (.infinite right)
  | .finite leftSign leftCoefficient leftExponent, .finite rightSign rightCoefficient rightExponent =>
      let exponent := min leftExponent rightExponent
      let left := signed leftSign (leftCoefficient * Nat.pow 10 (leftExponent - exponent).toNat)
      let right := signed rightSign (rightCoefficient * Nat.pow 10 (rightExponent - exponent).toNat)
      let total := left + right
      settle (if total = 0 then leftSign && rightSign else decide (total < 0)) total.natAbs exponent

/-- The number with its sign reversed and no rounding. -/
def reversed : Decimal → Decimal
  | .nan negative diagnostic label => .nan negative diagnostic label
  | .signaling negative diagnostic label => .signaling negative diagnostic label
  | .infinite negative => .infinite !negative
  | .finite negative coefficient exponent => .finite (!negative) coefficient exponent

def sub (left right : Decimal) : Except DecimalFault Decimal :=
  left.add right.reversed

def mul : Decimal → Decimal → Except DecimalFault Decimal
  | .signaling .., _ | _, .signaling .. => .error .invalid
  | .nan negative diagnostic _, _ => .ok (.nan negative diagnostic none)
  | _, .nan negative diagnostic _ => .ok (.nan negative diagnostic none)
  | .infinite left, .infinite right => .ok (.infinite (left != right))
  | .infinite left, .finite right coefficient _ =>
      if coefficient = 0 then .error .invalid else .ok (.infinite (left != right))
  | .finite left coefficient _, .infinite right =>
      if coefficient = 0 then .error .invalid else .ok (.infinite (left != right))
  | .finite leftSign leftCoefficient leftExponent, .finite rightSign rightCoefficient rightExponent =>
      settle (leftSign != rightSign) (leftCoefficient * rightCoefficient) (leftExponent + rightExponent)

/-- A coefficient without trailing zeros, of which at most `count` are removed. -/
def stripZeros : (count : Nat) → Nat → Nat
  | 0, coefficient => coefficient
  | count + 1, coefficient =>
      if coefficient % 10 = 0 then stripZeros count (coefficient / 10) else coefficient

/-- The number of trailing zeros of a coefficient, counted up to `count`. -/
def trailingZeros : (count : Nat) → Nat → Nat
  | 0, _ => 0
  | count + 1, coefficient =>
      if coefficient % 10 = 0 then trailingZeros count (coefficient / 10) + 1 else 0

/-- The quotient of two coefficients whose exponents differ by `ideal`. The division is carried to
one digit more than the precision. An inexact quotient ends in a digit that shows it, so that it is
rounded only once; an exact one comes as close to the exponent `ideal` as its zeros allow. -/
def quotient (negative : Bool) (left right : Nat) (ideal : Int) : Except DecimalFault Decimal :=
  let shift : Int := (digitCount right : Int) - digitCount left + precision + 1
  let top := left * Nat.pow 10 shift.toNat
  let bottom := right * Nat.pow 10 (-shift).toNat
  let whole := top / bottom
  if top % bottom = 0 then
    let zeros := trailingZeros shift.toNat whole
    settle negative (stripZeros zeros whole) (ideal - shift + zeros)
  else
    settle negative (if whole % 5 = 0 then whole + 1 else whole) (ideal - shift)

/-- The quotient of two decimal numbers of which the second is not zero. -/
def div : Decimal → Decimal → Except DecimalFault Decimal
  | .signaling .., _ | _, .signaling .. => .error .invalid
  | .nan negative diagnostic _, _ => .ok (.nan negative diagnostic none)
  | _, .nan negative diagnostic _ => .ok (.nan negative diagnostic none)
  | .infinite _, .infinite _ => .error .invalid
  | .infinite left, .finite right _ _ => .ok (.infinite (left != right))
  | .finite left _ _, .infinite right => .ok (.finite (left != right) 0 minExponent)
  | .finite leftSign leftCoefficient leftExponent, .finite rightSign rightCoefficient rightExponent =>
      let ideal := leftExponent - rightExponent
      if leftCoefficient = 0 then settle (leftSign != rightSign) 0 ideal
      else quotient (leftSign != rightSign) leftCoefficient rightCoefficient ideal

/-- The integer between zero and the number that is nearest to the number. -/
def truncate? : Decimal → Option Int
  | .finite negative coefficient exponent =>
      some (signed negative
        (if 0 ≤ exponent then coefficient * Nat.pow 10 exponent.toNat
        else coefficient / Nat.pow 10 (-exponent).toNat))
  | _ => none

/-- The double nearest to the number, which a signaling not-a-number does not have. -/
def toDouble? : Decimal → Option Binary64
  | .signaling .. => none
  | .nan .. => some (.nan none)
  | .infinite negative => some (.infinite negative)
  | .finite negative coefficient exponent =>
      some (Binary64.ofScientific negative coefficient exponent)

/-- The characters of a not-a-number of the kind of a name. -/
def writtenNotANumber (name : String) (negative : Bool) (diagnostic : Nat) : List Char :=
  (if negative then ['-'] else []) ++ name.toList ++
    (if diagnostic = 0 then [] else Numeral.digits diagnostic)

/-- The characters of a decimal number. The exponent is written when it is positive or the first
digit lies more than six places after the point. -/
def written : Decimal → List Char
  | .nan negative diagnostic _ => writtenNotANumber "NaN" negative diagnostic
  | .signaling negative diagnostic _ => writtenNotANumber "sNaN" negative diagnostic
  | .infinite negative => if negative then "-Infinity".toList else "Infinity".toList
  | .finite negative coefficient exponent =>
      let sign := if negative then ['-'] else []
      let shown := Numeral.digits coefficient
      let adjusted := exponent + shown.length - 1
      let point (parts : List Char × List Char) :=
        parts.1 ++ (if parts.2.isEmpty then [] else '.' :: parts.2)
      if exponent ≤ 0 ∧ -6 ≤ adjusted then
        sign ++ point (Numeral.pointed shown (adjusted + 1))
      else
        sign ++ point (Numeral.pointed shown 1) ++ 'E' :: (if adjusted < 0 then '-' else '+') ::
          Numeral.digits adjusted.natAbs

def render (number : Decimal) : String :=
  String.ofList number.written

/-- The diagnostic digits after the name of a quiet not-a-number. -/
def diagnostic? : List Char → Option Nat
  | 'n' :: 'a' :: 'n' :: rest =>
      if rest.all Text.isAsciiDigit then some (Numeral.value (rest.map Text.asciiDigitValue)) else none
  | _ => none

/-- The not-a-number of a sign and a name in lower case. -/
def ofName? (negative : Bool) : List Char → Option Decimal
  | 's' :: rest => (diagnostic? rest).map (.signaling negative · none)
  | name => (diagnostic? name).map (.nan negative · none)

/-- The decimal number that a text denotes, kept digit for digit. -/
def ofText? (text : String) : Option Decimal :=
  let (negative, unsigned) := Numeral.splitSign text.toList
  let lowered := unsigned.map Char.toLower
  let name := String.ofList lowered
  if name == "inf" || name == "infinity" then some (.infinite negative)
  else
    match ofName? negative lowered with
    | some notANumber => some notANumber
    | none =>
        (Numeral.scientific? unsigned).map fun (digits, exponent) =>
          .finite negative (Numeral.value digits) exponent

end Decimal

end DecisionTables
