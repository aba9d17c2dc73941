import DecisionTables.Proofs.Breakdown
import DecisionTables.Proofs.Number.DecimalRange

/-!
# Operations without a result

Arithmetic has no result where an integer is too large for the double that it has to become, where a
quotient of integers is too large for one, and where decimal numbers meet an infinity that they
cannot be combined with or have an exact result beyond their range. This module says so for each
operation in terms of exact values, apart from the way in which the operation computes and rounds.
-/

namespace DecisionTables

/-- The exact result of an operation on exact values. -/
def Arithmetic.exact : Arithmetic → ℚ → ℚ → ℚ
  | .add, left, right => left + right
  | .sub, left, right => left - right
  | .mul, left, right => left * right
  | .div, left, right => left / right

theorem signed_cast (negative : Bool) (magnitude : Nat) :
    (signed negative magnitude : ℚ) = if negative then -(magnitude : ℚ) else magnitude := by
  unfold signed
  split
  · push_cast
    rfl
  · rfl

theorem abs_signed (negative : Bool) (magnitude : Nat) :
    |(signed negative magnitude : ℚ)| = magnitude := by
  rw [signed_cast]
  split
  · rw [abs_neg, Nat.abs_cast]
  · exact Nat.abs_cast magnitude

/-! ## Decimal numbers -/

namespace Decimal

/-- The exact value of a number that is neither infinite nor no number. -/
def value? : Decimal → Option ℚ
  | .finite negative coefficient exponent =>
      some ((signed negative coefficient : ℚ) * 10 ^ exponent)
  | _ => none

/-- Whether an operation cannot combine its operands because of a signaling not-a-number or an infinity
among them. -/
def Incompatible : Arithmetic → Decimal → Decimal → Prop
  | _, .signaling .., _ | _, _, .signaling .. => True
  | .add, .infinite left, .infinite right => left ≠ right
  | .sub, .infinite left, .infinite right => left = right
  | .mul, .infinite _, .finite _ coefficient _ => coefficient = 0
  | .mul, .finite _ coefficient _, .infinite _ => coefficient = 0
  | .div, .infinite _, .infinite _ => True
  | _, _, _ => False

/-- Whether the exact result of an operation is beyond the range of decimal numbers. -/
def Overflows (operation : Arithmetic) (left right : Decimal) : Prop :=
  ∃ leftValue rightValue, left.value? = some leftValue ∧ right.value? = some rightValue ∧
    overflowThreshold ≤ |operation.exact leftValue rightValue|

theorem abs_scaled (negative : Bool) (coefficient : Nat) (exponent : Int) :
    |(signed negative coefficient : ℚ) * 10 ^ exponent| = (coefficient : ℚ) * 10 ^ exponent := by
  rw [abs_mul, abs_signed, abs_of_pos (by positivity)]

/-- A number is not changed by zeros at its end. -/
theorem aligned {negative : Bool} {coefficient : Nat} {exponent lower : Int}
    (below : lower ≤ exponent) :
    (signed negative (coefficient * Nat.pow 10 (exponent - lower).toNat) : ℚ) * 10 ^ lower =
      (signed negative coefficient : ℚ) * 10 ^ exponent := by
  obtain ⟨power, rfl⟩ : ∃ power : Nat, exponent = lower + power :=
    ⟨(exponent - lower).toNat, by omega⟩
  rw [add_sub_cancel_left, Int.toNat_natCast, zpow_add₀ (by norm_num), zpow_natCast, signed_cast,
    signed_cast]
  simp only [Nat.pow_eq, Nat.cast_mul, Nat.cast_pow, Nat.cast_ofNat]
  split <;> ring

section Operations

variable {left right : Decimal}

/-- Whether a number has no number of opposite sign: it is signaling, or has to be rounded beyond the
range. -/
def NotNegatable (number : Decimal) : Prop :=
  number.isSignaling = true ∨ ∃ value, number.value? = some value ∧ overflowThreshold ≤ |value|

theorem negate_fails_iff : (∃ fault, left.negate = .error fault) ↔ left.NotNegatable := by
  cases left with
  | nan | signaling | infinite => simp [negate, NotNegatable, value?, isSignaling]
  | finite negative coefficient exponent =>
      simp only [negate, settle_fails_iff, NotNegatable, isSignaling, Bool.false_eq_true, false_or,
        value?, Option.some.injEq, exists_eq_left', abs_scaled]

theorem value?_reversed : left.reversed.value? = left.value?.map (- ·) := by
  cases left with
  | nan | signaling | infinite => rfl
  | finite negative coefficient exponent =>
      simp only [reversed, value?, Option.map_some, Option.some.injEq, signed_cast]
      cases negative <;> simp

theorem add_finite_fails_iff {leftSign rightSign : Bool} {leftCoefficient rightCoefficient : Nat}
    {leftExponent rightExponent : Int} :
    (∃ fault, (Decimal.finite leftSign leftCoefficient leftExponent).add
        (.finite rightSign rightCoefficient rightExponent) = .error fault) ↔
      overflowThreshold ≤ |(signed leftSign leftCoefficient : ℚ) * 10 ^ leftExponent +
        (signed rightSign rightCoefficient : ℚ) * 10 ^ rightExponent| := by
  simp only [add, settle_fails_iff]
  rw [← aligned (min_le_left leftExponent rightExponent),
    ← aligned (min_le_right leftExponent rightExponent), ← add_mul, abs_mul,
    abs_of_pos (by positivity : (0 : ℚ) < 10 ^ min leftExponent rightExponent),
    Binary64.natAbs_cast, Int.cast_add]

/-- Adding fails exactly for signaling operands, opposite infinities and a sum beyond the range. -/
theorem add_fails_iff :
    (∃ fault, left.add right = .error fault) ↔
      Incompatible .add left right ∨ Overflows .add left right := by
  cases left with
  | signaling => simp [add, Incompatible]
  | nan => cases right <;> simp [add, Incompatible, Overflows, value?]
  | infinite leftSign =>
      cases right with
      | nan | signaling | finite => simp [add, Incompatible, Overflows, value?]
      | infinite rightSign =>
          simp only [add, Incompatible, Overflows, value?]
          cases leftSign <;> cases rightSign <;> simp
  | finite =>
      cases right with
      | nan | signaling | infinite => simp [add, Incompatible, Overflows, value?]
      | finite =>
          simp only [add_finite_fails_iff, Incompatible, Overflows, value?, Option.some.injEq,
            exists_and_left, exists_eq_left', false_or, Arithmetic.exact]

theorem sub_fails_iff :
    (∃ fault, left.sub right = .error fault) ↔
      Incompatible .sub left right ∨ Overflows .sub left right := by
  rw [sub, add_fails_iff]
  apply or_congr
  · cases left with
    | nan | signaling | finite => cases right <;> simp [Incompatible, reversed]
    | infinite leftSign =>
        cases right with
        | nan | signaling | finite => simp [Incompatible, reversed]
        | infinite rightSign => cases leftSign <;> cases rightSign <;> simp [Incompatible, reversed]
  · simp only [Overflows, value?_reversed, Option.map_eq_some_iff, Arithmetic.exact]
    constructor
    · intro shown
      rcases shown with ⟨leftValue, _, first, ⟨rightValue, second, rfl⟩, reached⟩
      exact ⟨leftValue, rightValue, first, second, by rwa [← sub_eq_add_neg] at reached⟩
    · intro shown
      rcases shown with ⟨leftValue, rightValue, first, second, reached⟩
      exact ⟨leftValue, _, first, ⟨rightValue, second, rfl⟩, by rwa [← sub_eq_add_neg]⟩

theorem mul_fails_iff :
    (∃ fault, left.mul right = .error fault) ↔
      Incompatible .mul left right ∨ Overflows .mul left right := by
  cases left with
  | signaling => simp [mul, Incompatible]
  | nan => cases right <;> simp [mul, Incompatible, Overflows, value?]
  | infinite leftSign =>
      cases right with
      | nan | signaling | infinite => simp [mul, Incompatible, Overflows, value?]
      | finite rightSign coefficient exponent =>
          by_cases zero : coefficient = 0 <;> simp [mul, Incompatible, Overflows, value?, zero]
  | finite leftSign leftCoefficient leftExponent =>
      cases right with
      | nan | signaling => simp [mul, Incompatible, Overflows, value?]
      | infinite rightSign =>
          by_cases zero : leftCoefficient = 0 <;>
            simp [mul, Incompatible, Overflows, value?, zero]
      | finite rightSign rightCoefficient rightExponent =>
          simp only [mul, settle_fails_iff, Incompatible, Overflows, value?, Option.some.injEq,
            exists_and_left, exists_eq_left', false_or, Arithmetic.exact, abs_mul, abs_signed]
          rw [abs_of_pos (by positivity), abs_of_pos (by positivity), zpow_add₀ (by norm_num),
            Nat.cast_mul, mul_mul_mul_comm]

theorem div_fails_iff (nonzero : right.isZero = false) :
    (∃ fault, left.div right = .error fault) ↔
      Incompatible .div left right ∨ Overflows .div left right := by
  cases left with
  | signaling => simp [div, Incompatible]
  | nan => cases right <;> simp [div, Incompatible, Overflows, value?]
  | infinite leftSign => cases right with
      | nan | signaling | infinite | finite => simp [div, Incompatible, Overflows, value?]
  | finite leftSign leftCoefficient leftExponent =>
      cases right with
      | nan | signaling | infinite => simp [div, Incompatible, Overflows, value?]
      | finite rightSign rightCoefficient rightExponent =>
          have right_pos : 0 < rightCoefficient := by
            simpa [isZero, Nat.pos_iff_ne_zero] using nonzero
          simp only [div, Incompatible, Overflows, value?, Option.some.injEq,
            exists_and_left, exists_eq_left', false_or, Arithmetic.exact, abs_div, abs_scaled]
          have value : (leftCoefficient : ℚ) * 10 ^ leftExponent /
              ((rightCoefficient : ℚ) * 10 ^ rightExponent) =
                (leftCoefficient : ℚ) / rightCoefficient * 10 ^ (leftExponent - rightExponent) := by
            rw [zpow_sub₀ (by norm_num), mul_div_mul_comm]
          rw [value]
          obtain rfl | left_pos := Nat.eq_zero_or_pos leftCoefficient
          · simp only [if_true, settle_fails_iff, Nat.cast_zero, zero_div]
          · rw [if_neg (Nat.ne_of_gt left_pos), quotient_fails_iff left_pos right_pos]

end Operations

/-- Whether a decimal operation has no result. -/
def Undefined (operation : Arithmetic) (left right : Decimal) : Prop :=
  Incompatible operation left right ∨ Overflows operation left right

end Decimal

/-! ## Numbers of all kinds -/

namespace Number

/-- Whether a number cannot become a double: it is an integer that is too large, or signaling. -/
def HasNoDouble : Number → Prop
  | .integer value => Binary64.overflowThreshold ≤ |(value : ℚ)|
  | .double _ => False
  | .decimal value => value.isSignaling = true

def IsNotANumber : Number → Prop
  | .double (.nan _) | .decimal (.nan ..) | .decimal (.signaling ..) => True
  | _ => False

/-- Whether two numbers cannot be ordered: one is a decimal number, and one is no number. -/
def Unordered (left right : Number) : Prop :=
  (left.isDecimal = true ∨ right.isDecimal = true) ∧ (left.IsNotANumber ∨ right.IsNotANumber)

/-- Whether an operation has no result, where the second number is not zero in a division: a number
cannot become the double that it has to, or the operation on decimal numbers has no result. A division
by zero is a failure, but only once both operands are of one kind. The last case is that of a decimal
number and one of another kind. -/
def Undefined (operation : Arithmetic) : Number → Number → Prop
  | .integer left, .integer right =>
      operation = .div ∧ right ≠ 0 ∧ Binary64.overflowThreshold ≤ |(left : ℚ) / right|
  | .decimal left, .decimal right =>
      (operation = .div → right.isZero = false) ∧ Decimal.Undefined operation left right
  | .integer left, .double right =>
      (operation = .div → right.isZero = false) ∧ HasNoDouble (.integer left)
  | .double _, .integer right => HasNoDouble (.integer right)
  | .double _, .double _ => False
  | left, right => left.HasNoDouble ∨ right.HasNoDouble

/-- Whether a number cannot be added to a running total, which lets integers join decimal numbers
exactly. -/
def Unaddable : Number → Number → Prop
  | .integer left, .decimal right => Decimal.Undefined .add (Decimal.ofInt left) right
  | .decimal left, .integer right => Decimal.Undefined .add left (Decimal.ofInt right)
  | .decimal left, .decimal right => Decimal.Undefined .add left right
  | .integer _, .integer _ => False
  | left, right => left.HasNoDouble ∨ right.HasNoDouble

@[simp] theorem toDouble_double (value : Binary64) : (double value).toDouble = .ok value := rfl

@[simp] theorem not_hasNoDouble_double {value : Binary64} : ¬(double value).HasNoDouble := id

theorem breaks_toDouble_iff {number : Number} : Breaks number.toDouble ↔ number.HasNoDouble := by
  cases number with
  | integer value =>
      rw [HasNoDouble, ← Binary64.ofInt?_eq_none_iff, toDouble]
      cases Binary64.ofInt? value with
      | none => simp
      | some nearest => simp
  | double => simp
  | decimal value =>
      cases value <;> simp [toDouble, HasNoDouble, Decimal.toDouble?, Decimal.isSignaling]

/-- A number that cannot become a double is not zero. -/
theorem isZero_of_hasNoDouble {number : Number} (unfit : number.HasNoDouble) :
    number.isZero = false := by
  cases number with
  | integer value =>
      have positive : (0 : ℚ) < |(value : ℚ)| :=
        lt_of_lt_of_le (by unfold Binary64.overflowThreshold; positivity) unfit
      simpa [isZero] using positive
  | double => exact unfit.elim
  | decimal value =>
      cases value with
      | nan | infinite | finite => cases unfit
      | signaling => rfl

/-- Two numbers cannot be compared for equality exactly if one of them is signaling. -/
theorem equality_eq_error_iff {left right : Number} {fault : Fault} :
    left.equality right = .error fault ↔
      fault = .invalidDecimal ∧ (left.isSignaling = true ∨ right.isSignaling = true) := by
  rw [equality, ← Bool.or_eq_true]
  cases left.isSignaling || right.isSignaling <;> simp [@eq_comm _ fault]

theorem extended?_eq_none_iff {number : Number} :
    number.extended? = none ↔ number.IsNotANumber := by
  cases number with
  | integer value => simp [extended?, IsNotANumber]
  | double value => cases value <;> simp [extended?, IsNotANumber, Binary64.extended?]
  | decimal value => cases value <;> simp [extended?, IsNotANumber, Decimal.extended?]

/-- Two numbers have no order exactly if they cannot be ordered, and then for one reason. -/
theorem relate_eq_error_iff {relation : Relation} {left right : Number} {fault : Fault} :
    left.relate relation right = .error fault ↔
      fault = .invalidDecimal ∧ Unordered left right := by
  have decided : (if left.isDecimal = true ∨ right.isDecimal = true then
      (Except.error Fault.invalidDecimal : Except Fault Bool) else .ok false) = .error fault ↔
      fault = .invalidDecimal ∧ (left.isDecimal = true ∨ right.isDecimal = true) := by
    split
    case isTrue decimal => simp only [Except.error.injEq, decimal, and_true, @eq_comm _ fault]
    case isFalse other => simp [other]
  simp only [relate, Unordered, ← extended?_eq_none_iff]
  cases left.extended? with
  | some leftValue =>
      cases right.extended? with
      | some rightValue => simp
      | none => simp [decided]
  | none => simp [decided]

theorem breaks_ofDecimal_iff {outcome : Except DecimalFault Decimal} :
    Breaks (ofDecimal outcome) ↔ ∃ fault, outcome = .error fault := by
  rcases outcome with (_ | _) | value
  all_goals simp [ofDecimal]

theorem breaks_onDecimals_iff {operation : Arithmetic} {left right : Decimal}
    (nonzero : operation = .div → right.isZero = false) :
    Breaks (onDecimals operation left right) ↔ Decimal.Undefined operation left right := by
  cases operation with
  | add => rw [onDecimals, breaks_ofDecimal_iff, Decimal.add_fails_iff, Decimal.Undefined]
  | sub => rw [onDecimals, breaks_ofDecimal_iff, Decimal.sub_fails_iff, Decimal.Undefined]
  | mul => rw [onDecimals, breaks_ofDecimal_iff, Decimal.mul_fails_iff, Decimal.Undefined]
  | div => rw [onDecimals, breaks_ofDecimal_iff, Decimal.div_fails_iff (nonzero rfl),
      Decimal.Undefined]

theorem breaks_onIntegers_iff {operation : Arithmetic} {left right : Int}
    (nonzero : operation = .div → right ≠ 0) :
    Breaks (onIntegers operation left right) ↔
      operation = .div ∧ Binary64.overflowThreshold ≤ |(left : ℚ) / right| := by
  cases operation with
  | add | sub | mul => simp [onIntegers]
  | div =>
      rw [← Binary64.ofQuotient?_eq_none_iff (nonzero rfl), onIntegers]
      cases Binary64.ofQuotient? left right with
      | none => simp
      | some nearest => simp

theorem breaks_negate_iff {number : Number} :
    Breaks number.negate ↔ ∃ decimal, number = .decimal decimal ∧ decimal.NotNegatable := by
  cases number with
  | integer | double => simp [negate]
  | decimal decimal => simp [negate, breaks_ofDecimal_iff, Decimal.negate_fails_iff]

theorem breaks_accumulate_iff {left right : Number} :
    Breaks (left.accumulate right) ↔ Unaddable left right := by
  have joined (left right : Decimal) :
      Breaks (onDecimals .add left right) ↔ Decimal.Undefined .add left right :=
    breaks_onDecimals_iff fun division => nomatch division
  cases left with
  | integer leftValue =>
      cases right with
      | integer => simp [accumulate, apply, onIntegers, Unaddable]
      | double => simp [accumulate, apply, breaks_toDouble_iff, Unaddable]
      | decimal => exact joined _ _
  | double leftValue =>
      cases right with
      | integer | double | decimal => simp [accumulate, apply, breaks_toDouble_iff, Unaddable]
  | decimal leftValue =>
      cases right with
      | integer => exact joined _ _
      | double => simp [accumulate, apply, breaks_toDouble_iff, Unaddable]
      | decimal => exact joined _ _

end Number

end DecisionTables
