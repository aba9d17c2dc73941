/-!
# Exact fractions

Numbers of every kind are compared by their exact value. A finite value is a fraction with a
positive denominator, compared by cross multiplication; the two infinities lie beyond all of them.
Rounding a quotient to the nearest integer, with a half going to the even neighbour, is the one
rounding rule that the numeric formats share.
-/

namespace DecisionTables

/-- An exact value, not necessarily in lowest terms. -/
structure Fraction where
  numerator : Int
  denominator : Nat
  positive : 0 < denominator

namespace Fraction

def ofInt (value : Int) : Fraction := ⟨value, 1, Nat.one_pos⟩

/-- `coefficient` times a power of `base`. -/
def scaled (base : Nat) (base_pos : 0 < base) (coefficient : Int) (exponent : Int) : Fraction :=
  if 0 ≤ exponent then ⟨coefficient * (Nat.pow base exponent.toNat : Nat), 1, Nat.one_pos⟩
  else ⟨coefficient, Nat.pow base (-exponent).toNat, Nat.pow_pos base_pos⟩

def order (left right : Fraction) : Ordering :=
  compare (left.numerator * right.denominator) (right.numerator * left.denominator)

/-- The integer between zero and the value that is nearest to the value. -/
def truncate (value : Fraction) : Int :=
  value.numerator.tdiv value.denominator

end Fraction

/-- A value of the number line closed by its two infinities. -/
inductive Extended where
  | negativeInfinity
  | finite (value : Fraction)
  | positiveInfinity

def Extended.order : Extended → Extended → Ordering
  | .negativeInfinity, .negativeInfinity => .eq
  | .negativeInfinity, _ => .lt
  | .finite _, .negativeInfinity => .gt
  | .finite left, .finite right => left.order right
  | .finite _, .positiveInfinity => .lt
  | .positiveInfinity, .positiveInfinity => .eq
  | .positiveInfinity, _ => .gt

def Extended.infinity (negative : Bool) : Extended :=
  if negative then .negativeInfinity else .positiveInfinity

/-- The integer nearest to `numerator / denominator`, a half going to the even neighbour. -/
def roundHalfEven (numerator denominator : Nat) : Nat :=
  let quotient := numerator / denominator
  let doubled := 2 * (numerator % denominator)
  if doubled < denominator then quotient
  else if denominator < doubled then quotient + 1
  else if quotient % 2 = 0 then quotient
  else quotient + 1

/-- A natural number with a sign. -/
def signed (negative : Bool) (magnitude : Nat) : Int :=
  if negative then -(magnitude : Int) else magnitude

end DecisionTables
