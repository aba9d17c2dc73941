import DecisionTables.Number.Numeral

/-!
# Writing numbers

Decimal digits, integers, and the shortest decimal fraction that reads back as a given double. The
search tries one significant digit after the other. On each grid only the two neighbours of the
exact value can read back if any point does, and of two that do the nearer one is taken.
-/

namespace DecisionTables

namespace Numeral

/-- The decimal digits of a natural number. -/
def digits (number : Nat) : List Char := Nat.toDigits 10 number

/-- The digits with zeros in front up to a width. -/
def paddedDigits (width number : Nat) : List Char :=
  let written := digits number
  List.replicate (width - written.length) '0' ++ written

/-- An integer in decimal digits. -/
def writtenInteger (number : Int) : List Char :=
  if number < 0 then '-' :: digits number.natAbs else digits number.natAbs

/-- Whether an integer has too many digits to be written in a message or a text. -/
def isTooLong (number : Int) : Bool :=
  decide (Nat.pow 10 maxDigits ≤ number.natAbs)

/-- The digits of a decimal fraction with the point after `whole` of them, where zeros stand for the
digits that are missing at either end. -/
def pointed (written : List Char) (whole : Int) : List Char × List Char :=
  if whole ≤ 0 then (['0'], List.replicate (-whole).toNat '0' ++ written)
  else
    let count := whole.toNat
    (written.take count ++ List.replicate (count - written.length) '0', written.drop count)

end Numeral

/-- How a decimal fraction is laid out. -/
structure DecimalLayout where
  /-- Below this decimal exponent the exponent is written. -/
  leastPositional : Int
  /-- From this decimal exponent on the exponent is written. -/
  firstScientific : Int
  /-- The mark before a written exponent. -/
  exponentMark : Char
  /-- The least number of digits of a written exponent. -/
  exponentWidth : Nat

namespace DecimalLayout

def exponentText (layout : DecimalLayout) (exponent : Int) : List Char :=
  layout.exponentMark :: (if exponent < 0 then '-' else '+') ::
    Numeral.paddedDigits layout.exponentWidth exponent.natAbs

/-- Significant digits and a decimal exponent of the first of them, laid out. Only the positional
form ends in a zero after the point when it has no other fractional digit. -/
def write (layout : DecimalLayout) (written : List Char) (exponent : Int) : List Char :=
  if exponent < layout.leastPositional || layout.firstScientific ≤ exponent then
    let (whole, fraction) := Numeral.pointed written 1
    whole ++ (if fraction.isEmpty then [] else '.' :: fraction) ++ layout.exponentText exponent
  else
    let (whole, fraction) := Numeral.pointed written (exponent + 1)
    whole ++ '.' :: (if fraction.isEmpty then ['0'] else fraction)

end DecimalLayout

namespace Binary64

/-- Doubles are written positionally from `1e-04` up to below `1e+16`, and a written exponent has
at least two digits. -/
def layout : DecimalLayout := ⟨-4, 16, 'e', 2⟩

/-- The number of factors ten that bring a fraction below one to at least one, searched for within
`fuel` steps. -/
def tenfoldSteps : (fuel : Nat) → (numerator denominator : Nat) → Nat
  | 0, _, _ => 0
  | fuel + 1, numerator, denominator =>
      if denominator ≤ numerator then 0
      else tenfoldSteps fuel (numerator * 10) denominator + 1

/-- The decimal exponent of the first significant digit of a positive fraction. -/
def leadingExponent (numerator denominator : Nat) : Int :=
  if denominator ≤ numerator then ((Numeral.digits (numerator / denominator)).length : Int) - 1
  else -(tenfoldSteps 400 numerator denominator : Int)

/-- The neighbours of `numerator / denominator` among the multiples of `10 ^ exponent`, counted in
that unit, the nearer one first. -/
def neighbours (numerator denominator : Nat) (exponent : Int) : Nat × Nat :=
  let top := numerator * Nat.pow 10 (-exponent).toNat
  let bottom := denominator * Nat.pow 10 exponent.toNat
  let below := top / bottom
  if roundHalfEven top bottom = below then (below, below + 1) else (below + 1, below)

/-- The shortest decimal fraction, as digits and an exponent of the last one, that reads back as a
positive double, found with at most `count + fuel` digits. -/
def shortestFrom : (fuel count : Nat) → (double : Binary64) → (numerator denominator : Nat) →
    Nat × Int
  | 0, count, _, numerator, denominator =>
      let exponent := leadingExponent numerator denominator + 1 - count
      ((neighbours numerator denominator exponent).1, exponent)
  | fuel + 1, count, double, numerator, denominator =>
      let exponent := leadingExponent numerator denominator + 1 - count
      let (nearer, farther) := neighbours numerator denominator exponent
      if ofScientific false nearer exponent = double then (nearer, exponent)
      else if ofScientific false farther exponent = double then (farther, exponent)
      else shortestFrom fuel (count + 1) double numerator denominator

/-- A double in the shortest form that reads back as the same double. -/
def written : Binary64 → List Char
  | .nan _ => "nan".toList
  | .infinite negative => if negative then "-inf".toList else "inf".toList
  | .finite negative significand exponent canonical =>
      let sign := if negative then ['-'] else []
      if significand = 0 then sign ++ "0.0".toList
      else
        let (shortest, last) := shortestFrom 16 1 (.finite false significand exponent canonical)
          (significand * Nat.pow 2 exponent.toNat) (Nat.pow 2 (-exponent).toNat)
        let shown := Numeral.digits shortest
        let significant := (shown.reverse.dropWhile (· == '0')).reverse
        sign ++ layout.write significant (last + shown.length - 1)

def render (double : Binary64) : String :=
  String.ofList double.written

end Binary64

end DecisionTables
