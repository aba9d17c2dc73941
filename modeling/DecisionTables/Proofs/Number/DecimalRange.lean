import Mathlib.Data.Nat.Cast.Field
import Mathlib.Data.Nat.Cast.Order.Field
import DecisionTables.Proofs.Number.Rounding

/-!
# The range of decimal numbers

An operation on decimal numbers rounds its exact result to the precision. It overflows exactly if
that result reaches half a unit below the first power of ten that is out of range, whichever way the
result is written as a coefficient and an exponent.
-/

namespace DecisionTables.Decimal

/-! ## Digits -/

theorem digitCount_le_iff {coefficient count : Nat} (positive : 0 < count) :
    digitCount coefficient ≤ count ↔ coefficient < 10 ^ count :=
  Nat.length_toDigits_le_iff (by decide) positive

theorem digitCount_pos (coefficient : Nat) : 0 < digitCount coefficient :=
  Nat.length_toDigits_pos

theorem lt_pow_digitCount (coefficient : Nat) : coefficient < 10 ^ digitCount coefficient :=
  (digitCount_le_iff (digitCount_pos coefficient)).mp le_rfl

theorem pow_le_of_lt_digitCount {coefficient count : Nat} (positive : 0 < coefficient)
    (below : count < digitCount coefficient) : 10 ^ count ≤ coefficient := by
  obtain zero | nonzero := Nat.eq_zero_or_pos count
  · subst zero
    exact positive
  · by_contra beyond
    have few := (digitCount_le_iff nonzero).mpr (Nat.lt_of_not_le beyond)
    exact absurd below (Nat.not_lt_of_le few)

theorem digitCount_eq {coefficient count : Nat} (lower : 10 ^ count ≤ coefficient)
    (upper : coefficient < 10 ^ (count + 1)) : digitCount coefficient = count + 1 := by
  have most := (digitCount_le_iff (Nat.succ_pos count)).mpr upper
  by_contra fewer
  have below : coefficient < 10 ^ count := by
    obtain zero | nonzero := Nat.eq_zero_or_pos count
    · have positive := digitCount_pos coefficient
      omega
    · exact (digitCount_le_iff nonzero).mp (by omega)
  exact absurd lower (Nat.not_le_of_lt below)

/-! ## Settling a result -/

/-- The greatest exponent of a result of full precision. -/
def maxExponent : Int := maxAdjusted - precision + 1

/-- The least magnitude that overflows: half a unit below the first power of ten that is out of
range. -/
def overflowThreshold : ℚ :=
  (10 ^ precision - 1 / 2) * 10 ^ maxExponent

theorem overflowThreshold_pos : 0 < overflowThreshold := by
  unfold overflowThreshold precision
  apply mul_pos
  · norm_num
  · positivity

theorem overflowThreshold_le : overflowThreshold ≤ 10 ^ precision * 10 ^ maxExponent :=
  mul_le_mul_of_nonneg_right (sub_le_self _ (by norm_num)) (by positivity)

section Settle

variable {negative : Bool} {coefficient : Nat} {exponent : Int}

/-- A coefficient that needs no further rounding overflows if its first digit is out of range. -/
theorem checked_eq_overflow_iff (kept : Nat) (unit : Int) :
    (if maxAdjusted < unit + digitCount kept - 1 then Except.error DecimalFault.overflow
      else Except.ok (Decimal.finite negative kept unit)) = .error .overflow ↔
      maxAdjusted < unit + digitCount kept - 1 := by
  split
  · rename_i above
    exact ⟨fun _ => above, fun _ => rfl⟩
  · rename_i inside
    constructor
    · intro shown
      cases shown
    · intro above
      exact absurd above inside

theorem checked_ne_invalid (kept : Nat) (unit : Int) :
    (if maxAdjusted < unit + digitCount kept - 1 then Except.error DecimalFault.overflow
      else Except.ok (Decimal.finite negative kept unit)) ≠ .error .invalid := by
  split <;> rintro ⟨⟩

theorem settle_ne_invalid : settle negative coefficient exponent ≠ .error .invalid := by
  unfold settle
  split
  · intro equal
    cases equal
  · exact checked_ne_invalid _ _

/-- A result that needs no rounding overflows if its first digit is out of range. -/
theorem settle_exact_iff (positive : 0 < coefficient) (short : digitCount coefficient ≤ precision)
    (within : minExponent ≤ exponent) :
    settle negative coefficient exponent = .error .overflow ↔
      maxAdjusted < exponent + digitCount coefficient - 1 := by
  have exact : max ((digitCount coefficient : Int) - precision) (minExponent - exponent) ≤ 0 := by
    omega
  have small : coefficient < 10 ^ precision := (digitCount_le_iff (by decide)).mp short
  have unfilled : coefficient ≠ Nat.pow 10 precision := Nat.ne_of_lt small
  simp only [settle, Nat.ne_of_gt positive, exact, unfilled, if_true, if_false,
    checked_eq_overflow_iff]

/-- A result that is rounded to a unit overflows if the unit is out of range, or if it is rounded up
from the last one. -/
theorem settle_rounded_iff (positive : 0 < coefficient) {unit : Int} (rounded : exponent < unit)
    (excess : max ((digitCount coefficient : Int) - precision) (minExponent - exponent) =
      unit - exponent)
    (most : shorten coefficient (unit - exponent).toNat ≤ Nat.pow 10 precision)
    (least : maxExponent < unit →
      Nat.pow 10 (precision - 1) ≤ shorten coefficient (unit - exponent).toNat) :
    settle negative coefficient exponent = .error .overflow ↔
      maxExponent < unit ∨ (unit = maxExponent ∧
        Nat.pow 10 precision ≤ shorten coefficient (unit - exponent).toNat) := by
  have some : ¬unit - exponent ≤ 0 := by omega
  have target : exponent + (unit - exponent) = unit := by omega
  simp only [settle, Nat.ne_of_gt positive, excess, some, target, if_false]
  generalize shorten coefficient (unit - exponent).toNat = kept at *
  have limits : maxExponent = maxAdjusted - precision + 1 := rfl
  by_cases full : kept = Nat.pow 10 precision
  · have digits : digitCount (Nat.pow 10 (precision - 1)) = precision :=
      digitCount_eq le_rfl (by decide)
    simp only [full, if_true, le_refl, and_true]
    rw [checked_eq_overflow_iff, digits]
    omega
  · have below : kept < 10 ^ precision := Nat.lt_of_le_of_ne most full
    have short : digitCount kept ≤ precision := (digitCount_le_iff (by decide)).mpr below
    have unfilled : ¬Nat.pow 10 precision ≤ kept := Nat.not_le_of_lt below
    simp only [full, if_false, checked_eq_overflow_iff, unfilled, and_false, or_false]
    constructor
    · intro above
      omega
    · intro above
      have digits : digitCount kept = precision := digitCount_eq (least above) below
      omega

/-- A coefficient without rounding reaches the threshold if its first digit is out of range. -/
theorem threshold_le_exact_iff (positive : 0 < coefficient)
    (short : digitCount coefficient ≤ precision) :
    overflowThreshold ≤ (coefficient : ℚ) * 10 ^ exponent ↔
      maxAdjusted < exponent + digitCount coefficient - 1 := by
  have scale_pos : (0 : ℚ) < 10 ^ exponent := by positivity
  have last_pos : (0 : ℚ) < 10 ^ maxExponent := by positivity
  have digits_pos := digitCount_pos coefficient
  have limits : maxExponent = maxAdjusted - precision + 1 := rfl
  have width : precision = 28 := rfl
  constructor
  · intro reached
    by_contra inside
    unfold overflowThreshold at reached
    obtain low | high := lt_or_ge exponent maxExponent
    · have small : (coefficient : ℚ) < 10 ^ 28 := by
        exact_mod_cast (digitCount_le_iff (by decide)).mp short
      have next : (10 : ℚ) ^ (exponent + 1) ≤ 10 ^ maxExponent :=
        zpow_le_zpow_right₀ (by norm_num) low
      rw [zpow_add_one₀ (by norm_num)] at next
      have bounded : (coefficient : ℚ) * 10 ^ exponent < 10 ^ 28 * 10 ^ exponent := by gcongr
      rw [width] at reached
      linarith
    · have upper : (coefficient : ℚ) + 1 ≤ 10 ^ digitCount coefficient := by
        exact_mod_cast lt_pow_digitCount coefficient
      have raised : (10 : ℚ) ^ maxExponent ≤ 10 ^ exponent :=
        zpow_le_zpow_right₀ (by norm_num) high
      have within :
          (10 : ℚ) ^ (digitCount coefficient + exponent) ≤ 10 ^ (precision + maxExponent) :=
        zpow_le_zpow_right₀ (by norm_num) (by omega)
      rw [zpow_add₀ (by norm_num), zpow_add₀ (by norm_num), zpow_natCast, zpow_natCast] at within
      have bounded : ((coefficient : ℚ) + 1) * 10 ^ exponent ≤
          10 ^ digitCount coefficient * 10 ^ exponent := by gcongr
      linarith
  · intro above
    have lower : (10 : ℚ) ^ (digitCount coefficient - 1) ≤ coefficient := by
      exact_mod_cast pow_le_of_lt_digitCount positive (Nat.sub_lt digits_pos Nat.one_pos)
    have beyond : (10 : ℚ) ^ (maxExponent + precision) ≤
        10 ^ ((digitCount coefficient - 1 : Nat) + exponent) :=
      zpow_le_zpow_right₀ (by norm_num) (by omega)
    rw [zpow_add₀ (by norm_num), zpow_add₀ (by norm_num), zpow_natCast, zpow_natCast] at beyond
    unfold overflowThreshold
    nlinarith

theorem shorten_eq {unit : Int} (rounded : exponent < unit) :
    shorten coefficient (unit - exponent).toNat =
      roundHalfEven (coefficient * Nat.pow 10 (-(unit - exponent)).toNat)
        (1 * Nat.pow 10 (unit - exponent).toNat) := by
  have none : (-(unit - exponent)).toNat = 0 := by omega
  rw [none, Nat.one_mul, shorten]
  simp

section Rounded

variable {unit : Int} (positive : 0 < coefficient) (rounded : exponent < unit)
  (excess : max ((digitCount coefficient : Int) - precision) (minExponent - exponent) =
    unit - exponent)

include positive rounded excess

/-- A coefficient takes less than `10 ^ 28` of the units that it is rounded in, and at least `10 ^
27` of them if the unit is beyond the last one. -/
theorem rounded_bounds :
    (coefficient : ℚ) < 10 ^ 28 * 10 ^ (unit - exponent) ∧
      (maxExponent < unit → (10 : ℚ) ^ 27 * 10 ^ (unit - exponent) ≤ coefficient) := by
  have width : precision = 28 := rfl
  constructor
  · have digits : (coefficient : ℚ) < 10 ^ digitCount coefficient := by
      exact_mod_cast lt_pow_digitCount coefficient
    have wide : (10 : ℚ) ^ (digitCount coefficient : Int) ≤ 10 ^ (28 + (unit - exponent)) :=
      zpow_le_zpow_right₀ (by norm_num) (by omega)
    rw [zpow_natCast, zpow_add₀ (by norm_num)] at wide
    exact lt_of_lt_of_le digits wide
  · intro above
    have beyond : minExponent < unit := lt_trans (by decide) above
    have digits : (10 : ℚ) ^ (digitCount coefficient - 1) ≤ coefficient := by
      exact_mod_cast pow_le_of_lt_digitCount positive
        (Nat.sub_lt (digitCount_pos coefficient) Nat.one_pos)
    have same : (10 : ℚ) ^ (27 + (unit - exponent)) =
        10 ^ ((digitCount coefficient - 1 : Nat) : Int) := by
      congr 1
      omega
    rw [zpow_natCast, zpow_add₀ (by norm_num)] at same
    exact le_trans (le_of_eq same) digits

theorem settle_rounded_eq_overflow_iff :
    settle negative coefficient exponent = .error .overflow ↔
      overflowThreshold ≤ (coefficient : ℚ) * 10 ^ exponent := by
  obtain ⟨upper, lower⟩ := rounded_bounds positive rounded excess
  have scale : (10 : ℚ) ^ unit = 10 ^ (unit - exponent) * 10 ^ exponent := by
    rw [← zpow_add₀ (by norm_num), sub_add_cancel]
  have scale_pos : (0 : ℚ) < 10 ^ exponent := by positivity
  have shortened := @shorten_eq coefficient exponent unit rounded
  have most : shorten coefficient (unit - exponent).toNat ≤ Nat.pow 10 precision := by
    rw [shortened]
    exact roundHalfEven_scaled_le (by decide) Nat.one_pos _ (by norm_num [precision]; linarith)
  have least : maxExponent < unit →
      Nat.pow 10 (precision - 1) ≤ shorten coefficient (unit - exponent).toNat := by
    intro above
    rw [shortened]
    exact le_roundHalfEven_scaled (by decide) Nat.one_pos _
      (by have enough := lower above; norm_num [precision]; linarith)
  have scaled_upper : (coefficient : ℚ) * 10 ^ exponent < 1 * 10 ^ (27 + 1) * 10 ^ unit := by
    calc (coefficient : ℚ) * 10 ^ exponent
        < 10 ^ 28 * 10 ^ (unit - exponent) * 10 ^ exponent := by gcongr
      _ = 1 * 10 ^ (27 + 1) * 10 ^ unit := by rw [scale]; ring
  have scaled_lower : maxExponent < unit →
      (1 : ℚ) * 10 ^ 27 * 10 ^ unit ≤ (coefficient : ℚ) * 10 ^ exponent := by
    intro above
    have enough := lower above
    calc (1 : ℚ) * 10 ^ 27 * 10 ^ unit
        = (10 : ℚ) ^ 27 * 10 ^ (unit - exponent) * 10 ^ exponent := by rw [scale]; ring
      _ ≤ (coefficient : ℚ) * 10 ^ exponent := by gcongr
  have reached := threshold_le_iff (by norm_num) one_pos scaled_upper scaled_lower
  have half := @le_roundHalfEven_scaled_iff 10 coefficient 1 (unit - exponent) (by decide)
    Nat.one_pos (Nat.pow 10 precision) (by decide) (by decide)
  rw [settle_rounded_iff positive rounded excess most least, shortened, half]
  have threshold : overflowThreshold = (10 ^ (27 + 1) - 1 / 2) * 10 ^ maxExponent * 1 := by
    rw [mul_one]
    rfl
  have cancel : (10 ^ (27 + 1) - 1 / 2) * 1 * (10 : ℚ) ^ unit ≤ coefficient * 10 ^ exponent ↔
      ((Nat.pow 10 precision : Nat) - 1 / 2) * ((1 : Nat) : ℚ) *
        ((10 : Nat) : ℚ) ^ (unit - exponent) ≤ coefficient := by
    rw [scale, ← mul_assoc, mul_le_mul_iff_of_pos_right scale_pos]
    norm_num [precision]
  rw [threshold, reached, cancel]

end Rounded

/-- Settling overflows exactly from the threshold on. -/
theorem settle_eq_overflow_iff :
    settle negative coefficient exponent = .error .overflow ↔
      overflowThreshold ≤ (coefficient : ℚ) * 10 ^ exponent := by
  obtain rfl | positive := Nat.eq_zero_or_pos coefficient
  · rw [Nat.cast_zero, zero_mul]
    constructor
    · intro shown
      cases shown
    · intro reached
      exact absurd overflowThreshold_pos (not_lt_of_ge reached)
  · generalize within :
      max ((digitCount coefficient : Int) - precision) (minExponent - exponent) = excess
    by_cases exact : excess ≤ 0
    · have short : digitCount coefficient ≤ precision := by omega
      rw [settle_exact_iff positive short (by omega), threshold_le_exact_iff positive short]
    · obtain ⟨unit, target⟩ : ∃ unit, unit - exponent = excess := ⟨exponent + excess, by omega⟩
      exact settle_rounded_eq_overflow_iff positive (by omega) (within.trans target.symm)

end Settle

/-- Settling fails exactly from the threshold on. -/
theorem settle_fails_iff {negative : Bool} {coefficient : Nat} {exponent : Int} :
    (∃ fault, settle negative coefficient exponent = .error fault) ↔
      overflowThreshold ≤ (coefficient : ℚ) * 10 ^ exponent := by
  rw [← @settle_eq_overflow_iff negative]
  constructor
  · intro shown
    rcases shown with ⟨_ | _, failed⟩
    · exact absurd failed settle_ne_invalid
    · exact failed
  · intro failed
    exact ⟨_, failed⟩

/-! ## Quotients -/

theorem stripZeros_trailingZeros (count coefficient : Nat) :
    stripZeros (trailingZeros count coefficient) coefficient *
      10 ^ trailingZeros count coefficient = coefficient := by
  induction count generalizing coefficient with
  | zero => simp [trailingZeros, stripZeros]
  | succ count ih =>
      simp only [trailingZeros]
      split
      · rename_i divisible
        rw [stripZeros, if_pos divisible, pow_succ, ← Nat.mul_assoc, ih]
        omega
      · simp [stripZeros]

/-- The digit that shows an inexact quotient does not lift it to a multiple of five. -/
theorem le_marked_iff {whole bound : Nat} (five : bound % 5 = 0) :
    bound ≤ (if whole % 5 = 0 then whole + 1 else whole) ↔ bound ≤ whole := by
  split <;> omega

/-- Half a unit below a power of ten is, in a smaller unit, a multiple of five. -/
theorem threshold_in_unit {unit : Int} (below : unit < maxExponent) :
    ∃ bound : Nat, bound % 5 = 0 ∧ overflowThreshold = (bound : ℚ) * 10 ^ unit := by
  obtain ⟨power, steps⟩ : ∃ power : Nat, maxExponent = unit + (power + 1) :=
    ⟨(maxExponent - unit - 1).toNat, by omega⟩
  refine ⟨5 * ((2 * 10 ^ precision - 1) * 10 ^ power), by omega, ?_⟩
  have scale : (10 : ℚ) ^ maxExponent = 10 ^ unit * 10 ^ power * 10 := by
    rw [steps, zpow_add₀ (by norm_num), zpow_add_one₀ (by norm_num), zpow_natCast]
    ring
  have one_le : 1 ≤ 2 * 10 ^ precision := by decide
  rw [overflowThreshold, scale]
  push_cast [Nat.cast_sub one_le]
  ring

section Quotient

variable {left right : Nat} (left_pos : 0 < left) (right_pos : 0 < right)

/-- The numerator and the denominator of a division that is carried to a number of places. -/
theorem carried_eq (right_pos : 0 < right) (shift : Int) :
    ((left * Nat.pow 10 shift.toNat : Nat) : ℚ) / (right * Nat.pow 10 (-shift).toNat : Nat) =
      (left : ℚ) / right * 10 ^ shift := by
  have right_cast : (right : ℚ) ≠ 0 := by exact_mod_cast Nat.ne_of_gt right_pos
  obtain ⟨power, rfl | rfl⟩ := Int.eq_nat_or_neg shift
  · rw [Int.toNat_natCast, Int.toNat_neg_natCast, zpow_natCast]
    norm_num
    ring
  · rw [neg_neg, Int.toNat_natCast, Int.toNat_neg_natCast, zpow_neg, zpow_natCast]
    norm_num
    field_simp

include left_pos right_pos

/-- A division is carried far enough for the quotient to have more digits than the precision. -/
theorem pow_precision_le_carried {shift : Int}
    (far : shift = (digitCount right : Int) - digitCount left + precision + 1) :
    10 ^ precision ≤ left * Nat.pow 10 shift.toNat / (right * Nat.pow 10 (-shift).toNat) := by
  have bottom_pos : 0 < right * Nat.pow 10 (-shift).toNat :=
    Nat.mul_pos right_pos (Nat.pow_pos (by decide))
  rw [Nat.le_div_iff_mul_le bottom_pos]
  have left_le : (10 : ℚ) ^ (digitCount left - 1) ≤ left := by
    exact_mod_cast pow_le_of_lt_digitCount left_pos
      (Nat.sub_lt (digitCount_pos left) Nat.one_pos)
  have right_lt : (right : ℚ) < 10 ^ digitCount right := by
    exact_mod_cast lt_pow_digitCount right
  have meets : (10 : ℚ) ^ precision * 10 ^ digitCount right =
      10 ^ (digitCount left - 1) * 10 ^ shift := by
    rw [← zpow_natCast, ← zpow_natCast, ← zpow_natCast, ← zpow_add₀ (by norm_num),
      ← zpow_add₀ (by norm_num)]
    congr 1
    have digits_pos := digitCount_pos left
    omega
  have scaled : (10 : ℚ) ^ precision * right ≤ left * 10 ^ shift := by
    calc (10 : ℚ) ^ precision * right
        ≤ 10 ^ precision * 10 ^ digitCount right := by gcongr
      _ = 10 ^ (digitCount left - 1) * 10 ^ shift := meets
      _ ≤ left * 10 ^ shift := by gcongr
  have swapped := @scaled_le_iff 10 (by decide) (10 ^ precision * right) left (-shift)
  rw [neg_neg, Nat.mul_assoc] at swapped
  rw [swapped, zpow_neg, ← div_eq_mul_inv, div_le_iff₀ (by positivity)]
  exact_mod_cast scaled

/-- A quotient fails exactly if its exact value reaches the threshold. -/
theorem quotient_fails_iff {negative : Bool} {ideal : Int} :
    (∃ fault, quotient negative left right ideal = .error fault) ↔
      overflowThreshold ≤ (left : ℚ) / right * 10 ^ ideal := by
  simp only [quotient]
  generalize far : (digitCount right : Int) - digitCount left + precision + 1 = shift
  have many := pow_precision_le_carried left_pos right_pos far.symm
  have carried := @carried_eq left right right_pos shift
  have bottom_pos : 0 < right * Nat.pow 10 (-shift).toNat :=
    Nat.mul_pos right_pos (Nat.pow_pos (by decide))
  generalize left * Nat.pow 10 shift.toNat = top at *
  generalize right * Nat.pow 10 (-shift).toNat = bottom at *
  have bottom_cast : (0 : ℚ) < bottom := by exact_mod_cast bottom_pos
  have value : (left : ℚ) / right * 10 ^ ideal = (top : ℚ) / bottom * 10 ^ (ideal - shift) := by
    rw [carried, mul_assoc, ← zpow_add₀ (by norm_num)]
    congr 2
    omega
  have scale_pos : (0 : ℚ) < 10 ^ (ideal - shift) := by positivity
  rw [value]
  split
  · rename_i exact
    have whole : (top : ℚ) / bottom = (top / bottom : Nat) :=
      (Nat.cast_div (Nat.dvd_of_mod_eq_zero exact) (ne_of_gt bottom_cast)).symm
    have stripped := stripZeros_trailingZeros shift.toNat (top / bottom)
    have same : (stripZeros (trailingZeros shift.toNat (top / bottom)) (top / bottom) : ℚ) *
        10 ^ trailingZeros shift.toNat (top / bottom) = (top / bottom : Nat) := by
      exact_mod_cast stripped
    rw [settle_fails_iff, whole, zpow_add₀ (by norm_num), zpow_natCast, ← same,
      mul_comm ((10 : ℚ) ^ (ideal - shift)), mul_assoc]
  · rename_i inexact
    rw [settle_fails_iff]
    obtain below | above := lt_or_ge (ideal - shift) maxExponent
    · obtain ⟨bound, five, threshold⟩ := threshold_in_unit below
      rw [threshold, mul_le_mul_iff_of_pos_right scale_pos, mul_le_mul_iff_of_pos_right scale_pos,
        Nat.cast_le, le_marked_iff five, Nat.le_div_iff_mul_le bottom_pos, le_div_iff₀ bottom_cast]
      exact_mod_cast Iff.rfl
    · -- The threshold lies within the precision, which the quotient exceeds either way.
      have raised : (10 : ℚ) ^ maxExponent ≤ 10 ^ (ideal - shift) :=
        zpow_le_zpow_right₀ (by norm_num) above
      have reaches : ∀ value : ℚ, 10 ^ precision ≤ value →
          overflowThreshold ≤ value * 10 ^ (ideal - shift) := by
        intro value large
        have value_nonneg : 0 ≤ value := le_trans (by norm_num) large
        calc overflowThreshold
            ≤ 10 ^ precision * 10 ^ maxExponent := overflowThreshold_le
          _ ≤ value * 10 ^ (ideal - shift) := by gcongr
      have whole_ge : (10 : ℚ) ^ precision ≤ (top / bottom : Nat) := by exact_mod_cast many
      constructor
      · intro _
        exact reaches _ (le_trans whole_ge Nat.cast_div_le)
      · intro _
        apply reaches
        refine le_trans whole_ge (Nat.cast_le.mpr ?_)
        split
        · exact Nat.le_succ _
        · exact le_rfl

end Quotient

end DecisionTables.Decimal
