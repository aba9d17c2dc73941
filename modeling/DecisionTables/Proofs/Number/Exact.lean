import Mathlib.Algebra.Order.Field.Rat
import Mathlib.Order.WithBot
import Mathlib.Tactic.FieldSimp
import DecisionTables.Number.Basic

/-!
# Exact values as points of a line

Numbers of all kinds are compared by their exact values. The exact values are the points of a line:
the rational numbers between two ends. The order of two exact values is that of their points, and so
numbers are equal exactly if they have the same point.
-/

namespace DecisionTables

def Fraction.value (fraction : Fraction) : ℚ :=
  fraction.numerator / fraction.denominator

/-- The order of fractions by cross multiplication is that of their rational numbers. -/
theorem Fraction.order_eq_compare (left right : Fraction) :
    left.order right = compare left.value right.value := by
  have leftPositive : (0 : ℚ) < left.denominator := by exact_mod_cast left.positive
  have rightPositive : (0 : ℚ) < right.denominator := by exact_mod_cast right.positive
  have leftScaled : ((left.numerator * right.denominator : Int) : ℚ) =
      left.value * (left.denominator * right.denominator) := by
    push_cast [value]
    field_simp
  have rightScaled : ((right.numerator * left.denominator : Int) : ℚ) =
      right.value * (left.denominator * right.denominator) := by
    push_cast [value]
    field_simp
  rw [order, ← cmp_eq_compare, ← cmp_eq_compare]
  calc cmp (left.numerator * right.denominator) (right.numerator * left.denominator)
      = cmp ((left.numerator * right.denominator : Int) : ℚ)
          ((right.numerator * left.denominator : Int) : ℚ) :=
        (Int.cast_strictMono.cmp_map_eq _ _).symm
    _ = cmp left.value right.value := by
        rw [leftScaled, rightScaled, cmp_mul_pos_right (mul_pos leftPositive rightPositive)]

/-- The line of exact values: the rational numbers between two ends. -/
abbrev Line := WithBot (WithTop ℚ)

def Extended.point : Extended → Line
  | .negativeInfinity => ⊥
  | .finite fraction => (fraction.value : WithTop ℚ)
  | .positiveInfinity => (⊤ : WithTop ℚ)

/-- The order of exact values is that of their points. -/
theorem Extended.order_eq_compare (left right : Extended) :
    left.order right = compare left.point right.point := by
  cases left with
  | negativeInfinity =>
      cases right with
      | negativeInfinity => exact (compare_eq_iff_eq.mpr rfl).symm
      | finite | positiveInfinity => exact (compare_lt_iff_lt.mpr (WithBot.bot_lt_coe _)).symm
  | finite left =>
      cases right with
      | negativeInfinity => exact (compare_gt_iff_gt.mpr (WithBot.bot_lt_coe _)).symm
      | finite right =>
          have embeds : StrictMono fun value : ℚ => ((value : WithTop ℚ) : Line) :=
            WithBot.coe_strictMono.comp WithTop.coe_strictMono
          rw [order, Fraction.order_eq_compare, ← cmp_eq_compare, ← cmp_eq_compare]
          exact (embeds.cmp_map_eq left.value right.value).symm
      | positiveInfinity =>
          exact (compare_lt_iff_lt.mpr (WithBot.coe_lt_coe.mpr (WithTop.coe_lt_top _))).symm
  | positiveInfinity =>
      cases right with
      | negativeInfinity => exact (compare_gt_iff_gt.mpr (WithBot.bot_lt_coe _)).symm
      | finite right =>
          exact (compare_gt_iff_gt.mpr (WithBot.coe_lt_coe.mpr (WithTop.coe_lt_top _))).symm
      | positiveInfinity => exact (compare_eq_iff_eq.mpr rfl).symm

namespace Number

/-- The point of a number, which a not-a-number does not have. -/
def point? (number : Number) : Option Line :=
  number.extended?.map Extended.point

/-- Numbers are equal if they have the same point. -/
theorem equal_iff {left right : Number} :
    left.equal right = true ↔ ∃ point, left.point? = some point ∧ right.point? = some point := by
  simp only [equal, point?]
  cases left.extended? with
  | none => simp
  | some leftValue =>
      cases right.extended? with
      | none => simp
      | some rightValue =>
          simp only [Extended.order_eq_compare, beq_iff_eq, compare_eq_iff_eq, Option.map_some,
            Option.some.injEq, exists_eq_left']
          exact eq_comm

/-- A signaling not-a-number has no point. -/
theorem isSignaling_of_point {number : Number} {point : Line} (found : number.point? = some point) :
    number.isSignaling = false := by
  cases number with
  | integer | double => rfl
  | decimal value =>
      cases value with
      | nan | infinite | finite => rfl
      | signaling => cases found

/-- Comparing two numbers tells that they are equal exactly if they have the same point. -/
theorem equality_eq_true_iff {left right : Number} : left.equality right = .ok true ↔
    ∃ point, left.point? = some point ∧ right.point? = some point := by
  rw [← equal_iff, equality]
  split
  case isTrue signaling =>
      refine iff_of_false (by simp) ?_
      intro equal
      obtain ⟨point, leftPoint, rightPoint⟩ := equal_iff.mp equal
      simp [isSignaling_of_point leftPoint, isSignaling_of_point rightPoint] at signaling
  case isFalse => simp

end Number

end DecisionTables
