import DecisionTables.Number.Fraction

/-!
# Double-precision numbers

A double is not a number, an infinity, or a signed significand below `2 ^ 53` times a power of two.
Significand and exponent are kept in the one form in which each magnitude occurs once. Every
operation computes its exact result as a fraction and rounds it once, to the nearest double with a
half going to the even significand.

A not-a-number equals nothing by value. It keeps a label of the place it was read from, so that a
container can still recognise the very member it was built with; one that an operation produced has
no label.
-/

namespace DecisionTables

namespace Binary64

def minExponent : Int := -1074

def maxExponent : Int := 971

/-- The form in which a magnitude is kept: the significand is as large as its exponent allows. -/
def Canonical (significand : Nat) (exponent : Int) : Prop :=
  significand < Nat.pow 2 53 ∧ minExponent ≤ exponent ∧ exponent ≤ maxExponent ∧
    (Nat.pow 2 52 ≤ significand ∨ exponent = minExponent)

instance (significand : Nat) (exponent : Int) : Decidable (Canonical significand exponent) :=
  inferInstanceAs (Decidable (_ ∧ _))

end Binary64

/-- A double-precision number. -/
inductive Binary64 where
  | nan (label : Option Nat)
  | infinite (negative : Bool)
  | finite (negative : Bool) (significand : Nat) (exponent : Int)
      (canonical : Binary64.Canonical significand exponent)
  deriving DecidableEq

namespace Binary64

def zero (negative : Bool) : Binary64 :=
  .finite negative 0 minExponent (by decide)

/-- The double of a significand in its kept form; a larger magnitude becomes infinite. -/
def ofSignificand (negative : Bool) (significand : Nat) (exponent : Int) : Binary64 :=
  if canonical : Canonical significand exponent then
    .finite negative significand exponent canonical
  else .infinite negative

/-- `numerator / denominator` in units of `2 ^ exponent`, rounded to an integer. -/
def inUnits (numerator denominator : Nat) (exponent : Int) : Nat :=
  roundHalfEven (numerator * Nat.pow 2 (-exponent).toNat) (denominator * Nat.pow 2 exponent.toNat)

/-- Whether `numerator / denominator` is at least `2 ^ 53` units of `2 ^ exponent`. -/
def exceedsUnits (numerator denominator : Nat) (exponent : Int) : Bool :=
  decide (denominator * Nat.pow 2 exponent.toNat * Nat.pow 2 53 ≤
    numerator * Nat.pow 2 (-exponent).toNat)

/-- The exponent of the unit in which `numerator / denominator` is rounded. The quotient of the
leading powers of two settles it up to one step. -/
def unitExponent (numerator denominator : Nat) : Int :=
  let estimate : Int := (numerator.log2 : Int) - (denominator.log2 : Int) - 53
  if estimate < minExponent then minExponent
  else if exceedsUnits numerator denominator estimate then estimate + 1
  else estimate

/-- The double nearest to a fraction of two natural numbers. -/
def ofRatio (negative : Bool) (numerator denominator : Nat) : Binary64 :=
  if numerator = 0 then zero negative
  else
    let exponent := unitExponent numerator denominator
    let significand := inUnits numerator denominator exponent
    if significand = Nat.pow 2 53 then ofSignificand negative (Nat.pow 2 52) (exponent + 1)
    else ofSignificand negative significand exponent

/-- The double nearest to `coefficient * 10 ^ exponent`. Magnitudes far outside the range of doubles
are settled by their number of digits. -/
def ofScientific (negative : Bool) (coefficient : Nat) (exponent : Int) : Binary64 :=
  if coefficient = 0 then zero negative
  else if 400 < exponent then .infinite negative
  else if exponent + (coefficient.log2 : Int) < -1200 then zero negative
  else ofRatio negative (coefficient * Nat.pow 10 exponent.toNat) (Nat.pow 10 (-exponent).toNat)

/-- The double nearest to an integer, unless that lies beyond the largest double. -/
def ofInt? (value : Int) : Option Binary64 :=
  match ofRatio (decide (value < 0)) value.natAbs 1 with
  | .infinite _ => none
  | double => some double

/-- The exact value, which a not-a-number does not have. -/
def extended? : Binary64 → Option Extended
  | .nan _ => none
  | .infinite negative => some (Extended.infinity negative)
  | .finite negative significand exponent _ =>
      some (.finite (Fraction.scaled 2 Nat.two_pos (signed negative significand) exponent))

def isZero : Binary64 → Bool
  | .finite _ significand _ _ => significand == 0
  | _ => false

def negate : Binary64 → Binary64
  | .nan _ => .nan none
  | .infinite negative => .infinite !negative
  | .finite negative significand exponent canonical =>
      .finite (!negative) significand exponent canonical

/-- The double nearest to `value * 2 ^ exponent`, where `zeroSign` is the sign of a zero sum. -/
def ofScaled (zeroSign : Bool) (value : Int) (exponent : Int) : Binary64 :=
  if value = 0 then zero zeroSign
  else
    ofRatio (decide (value < 0)) (value.natAbs * Nat.pow 2 exponent.toNat)
      (Nat.pow 2 (-exponent).toNat)

def add : Binary64 → Binary64 → Binary64
  | .nan _, _ => .nan none
  | _, .nan _ => .nan none
  | .infinite left, .infinite right => if left == right then .infinite left else .nan none
  | .infinite left, .finite .. => .infinite left
  | .finite .., .infinite right => .infinite right
  | .finite leftSign leftSignificand leftExponent _,
    .finite rightSign rightSignificand rightExponent _ =>
      let exponent := min leftExponent rightExponent
      let left := signed leftSign (leftSignificand * Nat.pow 2 (leftExponent - exponent).toNat)
      let right := signed rightSign (rightSignificand * Nat.pow 2 (rightExponent - exponent).toNat)
      ofScaled (leftSign && rightSign) (left + right) exponent

def sub (left right : Binary64) : Binary64 :=
  left.add right.negate

def mul : Binary64 → Binary64 → Binary64
  | .nan _, _ => .nan none
  | _, .nan _ => .nan none
  | .infinite left, .infinite right => .infinite (left != right)
  | .infinite left, .finite right significand _ _ =>
      if significand = 0 then .nan none else .infinite (left != right)
  | .finite left significand _ _, .infinite right =>
      if significand = 0 then .nan none else .infinite (left != right)
  | .finite leftSign leftSignificand leftExponent _,
    .finite rightSign rightSignificand rightExponent _ =>
      let exponent := leftExponent + rightExponent
      ofRatio (leftSign != rightSign) (leftSignificand * rightSignificand * Nat.pow 2 exponent.toNat)
        (Nat.pow 2 (-exponent).toNat)

/-- The quotient of two doubles of which the second is not zero. -/
def div : Binary64 → Binary64 → Binary64
  | .nan _, _ => .nan none
  | _, .nan _ => .nan none
  | .infinite _, .infinite _ => .nan none
  | .infinite left, .finite right _ _ _ => .infinite (left != right)
  | .finite left _ _ _, .infinite right => zero (left != right)
  | .finite leftSign leftSignificand leftExponent _,
    .finite rightSign rightSignificand rightExponent _ =>
      let exponent := leftExponent - rightExponent
      ofRatio (leftSign != rightSign) (leftSignificand * Nat.pow 2 exponent.toNat)
        (rightSignificand * Nat.pow 2 (-exponent).toNat)

/-- The quotient of two integers of which the second is not zero, unless it lies beyond the largest
double. A zero quotient of integers of unlike sign is the negative zero. -/
def ofQuotient? (left right : Int) : Option Binary64 :=
  match ofRatio (decide (left < 0) != decide (right < 0)) left.natAbs right.natAbs with
  | .infinite _ => none
  | double => some double

end Binary64

end DecisionTables
