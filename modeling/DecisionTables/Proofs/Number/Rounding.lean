import Mathlib.Algebra.Order.Field.Power
import Mathlib.Algebra.Order.Field.Rat
import Mathlib.Tactic.FieldSimp
import Mathlib.Tactic.Linarith
import Mathlib.Tactic.NormNum
import Mathlib.Tactic.Positivity
import Mathlib.Tactic.Ring
import DecisionTables.Number.Basic

/-!
# Rounding and the range of doubles

Rounding to the nearest integer reaches an even number exactly from half a unit below it. A fraction
is rounded to a double in a unit of which it takes at least `2 ^ 52` and less than `2 ^ 53`, unless
it is too small for that. The double is infinite exactly if the fraction reaches half a unit below
the first power of two that is out of range.
-/

namespace DecisionTables

/-! ## The nearest integer -/

section Nearest

variable {numerator denominator bound : Nat}

/-- Half a unit below a number is reached either by the quotient, or by a quotient that is one less
with a remainder of at least one half. -/
theorem half_below_iff (positive : 0 < denominator) :
    (2 * bound - 1) * denominator ≤ 2 * numerator ↔
      bound ≤ numerator / denominator ∨
        (bound = numerator / denominator + 1 ∧ denominator ≤ 2 * (numerator % denominator)) := by
  have whole := Nat.div_add_mod numerator denominator
  have remainder := Nat.mod_lt numerator positive
  generalize numerator / denominator = quotient at *
  generalize numerator % denominator = rest at *
  rcases Nat.lt_trichotomy bound (quotient + 1) with below | equal | above
  · have reached : (2 * bound - 1) * denominator ≤ (2 * quotient) * denominator :=
      Nat.mul_le_mul_right denominator (by omega)
    have total : 2 * quotient * denominator = 2 * (denominator * quotient) := by ring
    constructor
    · intro _
      exact .inl (Nat.le_of_lt_succ below)
    · intro _
      omega
  · have half : (2 * bound - 1) * denominator = 2 * (denominator * quotient) + denominator := by
      rw [equal, show 2 * (quotient + 1) - 1 = 2 * quotient + 1 by omega]
      ring
    omega
  · have exceeded : (2 * quotient + 3) * denominator ≤ (2 * bound - 1) * denominator :=
      Nat.mul_le_mul_right denominator (by omega)
    have total : (2 * quotient + 3) * denominator =
        2 * (denominator * quotient) + 3 * denominator := by ring
    omega

/-- An even number is reached from half a unit below it. -/
theorem le_roundHalfEven_iff (positive : 0 < denominator) (even : bound % 2 = 0) :
    bound ≤ roundHalfEven numerator denominator ↔
      (2 * bound - 1) * denominator ≤ 2 * numerator := by
  rw [half_below_iff positive]
  simp only [roundHalfEven]
  split
  · omega
  · split
    · omega
    · split <;> omega

theorem roundHalfEven_le (below : numerator ≤ bound * denominator) (positive : 0 < denominator) :
    roundHalfEven numerator denominator ≤ bound := by
  have whole := Nat.div_add_mod numerator denominator
  have remainder := Nat.mod_lt numerator positive
  have quotient : numerator / denominator ≤ bound := by
    rw [Nat.div_le_iff_le_mul_add_pred positive]
    have := Nat.mul_comm bound denominator
    omega
  obtain short | full := Nat.lt_or_eq_of_le quotient
  · unfold roundHalfEven
    simp only
    split
    · omega
    · split
      · omega
      · split <;> omega
  · have exact : numerator % denominator = 0 := by
      rw [full, Nat.mul_comm] at whole
      omega
    simp only [roundHalfEven, exact, Nat.mul_zero, positive, if_true]
    exact quotient

theorem le_roundHalfEven (reached : bound * denominator ≤ numerator) (positive : 0 < denominator) :
    bound ≤ roundHalfEven numerator denominator := by
  have quotient : bound ≤ numerator / denominator := (Nat.le_div_iff_mul_le positive).mpr reached
  simp only [roundHalfEven]
  split
  · exact quotient
  · split
    · omega
    · split <;> omega

end Nearest

/-! ## Powers of a base -/

/-- A power that is written on the left for positive exponents and on the right for negative ones.
-/
theorem scaled_le_iff {base : Nat} (positive : 0 < base) (left right : Nat) (exponent : Int) :
    left * Nat.pow base exponent.toNat ≤ right * Nat.pow base (-exponent).toNat ↔
      (left : ℚ) * (base : ℚ) ^ exponent ≤ right := by
  have base_pos : (0 : ℚ) < base := by exact_mod_cast positive
  obtain ⟨power, rfl | rfl⟩ := Int.eq_nat_or_neg exponent
  · rw [Int.toNat_natCast, Int.toNat_neg_natCast, zpow_natCast, ← Nat.cast_pow, ← Nat.cast_mul,
      Nat.cast_le]
    simp
  · rw [neg_neg, Int.toNat_natCast, Int.toNat_neg_natCast, zpow_neg, zpow_natCast,
      ← div_eq_mul_inv, div_le_iff₀ (by positivity), ← Nat.cast_pow, ← Nat.cast_mul, Nat.cast_le]
    simp

theorem scaled_lt_iff {base : Nat} (positive : 0 < base) (left right : Nat) (exponent : Int) :
    right * Nat.pow base (-exponent).toNat < left * Nat.pow base exponent.toNat ↔
      (right : ℚ) < (left : ℚ) * (base : ℚ) ^ exponent := by
  rw [← not_le, ← not_le, scaled_le_iff positive]

section Scaled

variable {base numerator denominator : Nat} {exponent : Int} (positive : 0 < base)
  (denominator_pos : 0 < denominator) (bound : Nat)

include positive denominator_pos

theorem scaled_pos : 0 < denominator * Nat.pow base exponent.toNat :=
  Nat.mul_pos denominator_pos (Nat.pow_pos positive)

theorem roundHalfEven_scaled_le
    (below : (numerator : ℚ) < denominator * bound * (base : ℚ) ^ exponent) :
    roundHalfEven (numerator * Nat.pow base (-exponent).toNat)
      (denominator * Nat.pow base exponent.toNat) ≤ bound := by
  apply roundHalfEven_le _ (scaled_pos positive denominator_pos)
  rw [← Nat.mul_assoc, Nat.mul_comm bound]
  rw [← Nat.cast_mul] at below
  exact Nat.le_of_lt ((scaled_lt_iff positive (denominator * bound) numerator exponent).mpr below)

theorem le_roundHalfEven_scaled
    (reached : (denominator : ℚ) * bound * (base : ℚ) ^ exponent ≤ numerator) :
    bound ≤ roundHalfEven (numerator * Nat.pow base (-exponent).toNat)
      (denominator * Nat.pow base exponent.toNat) := by
  apply le_roundHalfEven _ (scaled_pos positive denominator_pos)
  rw [← Nat.mul_assoc, Nat.mul_comm bound]
  rw [← Nat.cast_mul] at reached
  exact (scaled_le_iff positive (denominator * bound) numerator exponent).mpr reached

/-- In any unit, an even number is reached from half a unit below it. -/
theorem le_roundHalfEven_scaled_iff (even : bound % 2 = 0) (nonzero : 0 < bound) :
    bound ≤ roundHalfEven (numerator * Nat.pow base (-exponent).toNat)
        (denominator * Nat.pow base exponent.toNat) ↔
      ((bound : ℚ) - 1 / 2) * denominator * (base : ℚ) ^ exponent ≤ numerator := by
  rw [le_roundHalfEven_iff (scaled_pos positive denominator_pos) even, ← Nat.mul_assoc,
    ← Nat.mul_assoc,
    scaled_le_iff positive ((2 * bound - 1) * denominator) (2 * numerator) exponent]
  have one_le : 1 ≤ 2 * bound := by omega
  push_cast [Nat.cast_sub one_le]
  constructor
  · intro reached
    linarith
  · intro reached
    linarith

end Scaled

/-- A quantity of at most `digits + 1` digits in a unit, and of exactly as many if the unit is
beyond the last one, reaches half a unit below the first quantity out of range exactly if its unit
is beyond the last one or it reaches as far in the last one. -/
theorem threshold_le_iff {base numerator denominator : ℚ} {digits : Nat} {last unit : Int}
    (two_le : 2 ≤ base) (positive : 0 < denominator)
    (upper : numerator < denominator * base ^ (digits + 1) * base ^ unit)
    (lower : last < unit → denominator * base ^ digits * base ^ unit ≤ numerator) :
    (base ^ (digits + 1) - 1 / 2) * base ^ last * denominator ≤ numerator ↔
      last < unit ∨
        (unit = last ∧ (base ^ (digits + 1) - 1 / 2) * denominator * base ^ unit ≤ numerator) := by
  have base_pos : 0 < base := lt_of_lt_of_le two_pos two_le
  have one_le : 1 ≤ base := le_trans one_le_two two_le
  have digits_ge : 1 ≤ base ^ digits := one_le_pow₀ one_le
  have full : 2 * base ^ digits ≤ base ^ (digits + 1) := by
    rw [pow_succ, mul_comm 2]
    gcongr
  have last_pos : 0 < denominator * base ^ last := by positivity
  constructor
  · intro reached
    rcases lt_trichotomy unit last with below | equal | above
    · have next : base ^ (unit + 1) ≤ base ^ last := zpow_le_zpow_right₀ one_le below
      rw [zpow_add_one₀ (ne_of_gt base_pos)] at next
      have shorter : denominator * base ^ (digits + 1) * base ^ unit ≤
          base ^ digits * (denominator * base ^ last) := by
        calc denominator * base ^ (digits + 1) * base ^ unit
            = denominator * base ^ digits * (base ^ unit * base) := by ring
          _ ≤ denominator * base ^ digits * base ^ last := by gcongr
          _ = base ^ digits * (denominator * base ^ last) := by ring
      nlinarith
    · refine .inr ⟨equal, ?_⟩
      rw [equal]
      linarith
    · exact .inl above
  · intro shown
    rcases shown with above | ⟨rfl, reached⟩
    · have next : base ^ (last + 1) ≤ base ^ unit := zpow_le_zpow_right₀ one_le above
      rw [zpow_add_one₀ (ne_of_gt base_pos)] at next
      have longer : denominator * base ^ (digits + 1) * base ^ last ≤
          denominator * base ^ digits * base ^ unit := by
        calc denominator * base ^ (digits + 1) * base ^ last
            = denominator * base ^ digits * (base ^ last * base) := by ring
          _ ≤ denominator * base ^ digits * base ^ unit := by gcongr
      have reached := lower above
      nlinarith
    · linarith

/-! ## Units of doubles -/

namespace Binary64

variable {numerator denominator : Nat} {exponent : Int}

theorem exceedsUnits_iff :
    exceedsUnits numerator denominator exponent = true ↔
      (denominator : ℚ) * 2 ^ 53 * 2 ^ exponent ≤ numerator := by
  have shifted := scaled_le_iff Nat.two_pos (denominator * Nat.pow 2 53) numerator exponent
  rw [exceedsUnits, decide_eq_true_eq, Nat.mul_right_comm, shifted]
  norm_num

/-- The power of two that the estimate of the unit starts from. -/
theorem estimate_bounds (numerator_pos : 0 < numerator) (denominator_pos : 0 < denominator) :
    let estimate : Int := (numerator.log2 : Int) - (denominator.log2 : Int) - 53
    (denominator : ℚ) * 2 ^ 52 * 2 ^ estimate ≤ numerator ∧
      (numerator : ℚ) < denominator * 2 ^ 54 * 2 ^ estimate := by
  intro estimate
  have numerator_le : ((2 : ℚ) ^ (numerator.log2 : ℤ)) ≤ numerator := by
    rw [zpow_natCast]
    exact_mod_cast Nat.log2_self_le (Nat.ne_of_gt numerator_pos)
  have numerator_lt : (numerator : ℚ) < 2 ^ (numerator.log2 + 1 : ℤ) := by
    exact_mod_cast Nat.lt_log2_self
  have denominator_le : ((2 : ℚ) ^ (denominator.log2 : ℤ)) ≤ denominator := by
    rw [zpow_natCast]
    exact_mod_cast Nat.log2_self_le (Nat.ne_of_gt denominator_pos)
  have denominator_lt : (denominator : ℚ) < 2 ^ (denominator.log2 + 1 : ℤ) := by
    exact_mod_cast Nat.lt_log2_self
  have scale_pos : (0 : ℚ) < 2 ^ estimate := by positivity
  constructor
  · have meets : (2 : ℚ) ^ (denominator.log2 + 1 : ℤ) * 2 ^ 52 * 2 ^ estimate =
        2 ^ (numerator.log2 : ℤ) := by
      rw [← zpow_natCast 2 52, ← zpow_add₀ two_ne_zero, ← zpow_add₀ two_ne_zero]
      congr 1
      simp only [estimate]
      push_cast
      ring
    calc (denominator : ℚ) * 2 ^ 52 * 2 ^ estimate
        ≤ 2 ^ (denominator.log2 + 1 : ℤ) * 2 ^ 52 * 2 ^ estimate := by gcongr
      _ = 2 ^ (numerator.log2 : ℤ) := meets
      _ ≤ numerator := numerator_le
  · have meets : (2 : ℚ) ^ (denominator.log2 : ℤ) * 2 ^ 54 * 2 ^ estimate =
        2 ^ (numerator.log2 + 1 : ℤ) := by
      rw [← zpow_natCast 2 54, ← zpow_add₀ two_ne_zero, ← zpow_add₀ two_ne_zero]
      congr 1
      simp only [estimate]
      push_cast
      ring
    calc (numerator : ℚ)
        < 2 ^ (numerator.log2 + 1 : ℤ) := numerator_lt
      _ = 2 ^ (denominator.log2 : ℤ) * 2 ^ 54 * 2 ^ estimate := meets.symm
      _ ≤ denominator * 2 ^ 54 * 2 ^ estimate := by gcongr

/-- A fraction takes less than `2 ^ 53` of the units that it is rounded in, and at least `2 ^ 52` of
them unless the unit is the least one. -/
theorem unitExponent_bounds (numerator_pos : 0 < numerator) (denominator_pos : 0 < denominator) :
    minExponent ≤ unitExponent numerator denominator ∧
      (numerator : ℚ) < denominator * 2 ^ 53 * 2 ^ unitExponent numerator denominator ∧
      (minExponent < unitExponent numerator denominator →
        (denominator : ℚ) * 2 ^ 52 * 2 ^ unitExponent numerator denominator ≤ numerator) := by
  obtain ⟨lower, upper⟩ := estimate_bounds numerator_pos denominator_pos
  have denominator_cast : (0 : ℚ) < denominator := by exact_mod_cast denominator_pos
  simp only [unitExponent]
  generalize (numerator.log2 : Int) - (denominator.log2 : Int) - 53 = estimate at lower upper ⊢
  have next : (2 : ℚ) ^ (estimate + 1) = 2 ^ estimate * 2 := zpow_add_one₀ two_ne_zero estimate
  have scale_pos : (0 : ℚ) < 2 ^ estimate := by positivity
  split
  · rename_i small
    refine ⟨le_refl _, ?_, fun above => absurd above (lt_irrefl _)⟩
    have raised : (2 : ℚ) ^ (estimate + 1) ≤ 2 ^ minExponent :=
      zpow_le_zpow_right₀ one_le_two small
    calc (numerator : ℚ)
        < denominator * 2 ^ 54 * 2 ^ estimate := upper
      _ = denominator * 2 ^ 53 * 2 ^ (estimate + 1) := by rw [next]; ring
      _ ≤ denominator * 2 ^ 53 * 2 ^ minExponent := by gcongr
  · rename_i large
    split
    · rename_i exceeds
      refine ⟨by omega, ?_, fun _ => ?_⟩
      · rw [next]
        linarith
      · rw [next]
        linarith [exceedsUnits_iff.mp exceeds]
    · rename_i within
      rw [Bool.not_eq_true, ← Bool.not_eq_true, exceedsUnits_iff, not_le] at within
      exact ⟨by omega, within, fun _ => lower⟩

/-! ## Doubles out of range -/

/-- The least magnitude that is rounded to infinity: half a unit below the first power of two that
is out of range. -/
def overflowThreshold : ℚ :=
  (2 ^ 53 - 1 / 2) * 2 ^ maxExponent

theorem ofSignificand_infinite_iff {negative : Bool} {significand : Nat} :
    (∃ sign, ofSignificand negative significand exponent = .infinite sign) ↔
      ¬Canonical significand exponent := by
  unfold ofSignificand
  split
  · rename_i canonical
    simp [canonical]
  · rename_i beyond
    simp [beyond]

/-- A fraction with a numerator is rounded to infinity if its unit is out of range, or if it is
rounded up from the last unit. -/
theorem ofRatio_infinite_iff_unit {negative : Bool} (numerator_pos : 0 < numerator)
    (denominator_pos : 0 < denominator) :
    (∃ sign, ofRatio negative numerator denominator = .infinite sign) ↔
      maxExponent < unitExponent numerator denominator ∨
        (unitExponent numerator denominator = maxExponent ∧
          Nat.pow 2 53 ≤
            inUnits numerator denominator (unitExponent numerator denominator)) := by
  obtain ⟨least, upper, lower⟩ := unitExponent_bounds numerator_pos denominator_pos
  have most : inUnits numerator denominator (unitExponent numerator denominator) ≤ Nat.pow 2 53 :=
    roundHalfEven_scaled_le Nat.two_pos denominator_pos _ (by exact_mod_cast upper)
  rw [ofRatio, if_neg (Nat.ne_of_gt numerator_pos)]
  simp only
  generalize unitExponent numerator denominator = unit at *
  split
  · rename_i full
    have canonical : Canonical (Nat.pow 2 52) (unit + 1) ↔ unit + 1 ≤ maxExponent := by
      simp only [Canonical, le_refl, true_or, and_true]
      constructor
      · intro shown
        rcases shown with ⟨_, _, within⟩
        exact within
      · intro within
        exact ⟨by decide, by omega, within⟩
    rw [ofSignificand_infinite_iff, canonical, full]
    simp only [le_refl, and_true]
    omega
  · rename_i partly
    have canonical : Canonical (inUnits numerator denominator unit) unit ↔ unit ≤ maxExponent := by
      constructor
      · intro shown
        rcases shown with ⟨_, _, within, _⟩
        exact within
      · intro within
        refine ⟨Nat.lt_of_le_of_ne most partly, least, within, ?_⟩
        obtain equal | above := Int.lt_or_eq_of_le least
        · exact .inl (le_roundHalfEven_scaled Nat.two_pos denominator_pos _
            (by exact_mod_cast lower equal))
        · exact .inr above.symm
    have short : ¬Nat.pow 2 53 ≤ inUnits numerator denominator unit := by omega
    rw [ofSignificand_infinite_iff, canonical]
    simp only [short, and_false, or_false, not_le]

/-- A rounded fraction is infinite exactly from the threshold on. -/
theorem ofRatio_infinite_iff {negative : Bool} (denominator_pos : 0 < denominator) :
    (∃ sign, ofRatio negative numerator denominator = .infinite sign) ↔
      overflowThreshold * denominator ≤ numerator := by
  obtain none | numerator_pos := Nat.eq_zero_or_pos numerator
  · have threshold_pos : 0 < overflowThreshold * denominator := by
      have denominator_cast : (0 : ℚ) < denominator := by exact_mod_cast denominator_pos
      unfold overflowThreshold
      apply mul_pos
      · apply mul_pos
        · norm_num
        · positivity
      · exact denominator_cast
    subst none
    simp only [ofRatio, if_true, zero, reduceCtorEq, exists_false, Nat.cast_zero, false_iff, not_le]
    exact threshold_pos
  · obtain ⟨least, upper, lower⟩ := unitExponent_bounds numerator_pos denominator_pos
    have denominator_cast : (0 : ℚ) < denominator := by exact_mod_cast denominator_pos
    have reached := threshold_le_iff le_rfl denominator_cast upper fun above : maxExponent < _ =>
      lower (lt_trans (by decide) above)
    have rounded := @le_roundHalfEven_scaled_iff 2 numerator denominator
      (unitExponent numerator denominator) Nat.two_pos denominator_pos (Nat.pow 2 53) (by decide)
      (by decide)
    rw [ofRatio_infinite_iff_unit numerator_pos denominator_pos, overflowThreshold, reached,
      inUnits, rounded]
    norm_num

theorem natAbs_cast (value : Int) : (value.natAbs : ℚ) = |(value : ℚ)| := by
  rw [Nat.cast_natAbs, Int.cast_abs]

/-- An integer has no double exactly if its magnitude reaches the threshold. -/
theorem ofInt?_eq_none_iff {value : Int} :
    ofInt? value = none ↔ overflowThreshold ≤ |(value : ℚ)| := by
  have range := @ofRatio_infinite_iff value.natAbs 1 (decide (value < 0)) Nat.one_pos
  rw [Nat.cast_one, mul_one, natAbs_cast] at range
  rw [← range, ofInt?]
  cases ofRatio (decide (value < 0)) value.natAbs 1 with
  | infinite | nan | finite => simp

/-- A quotient has no double exactly if its magnitude reaches the threshold. -/
theorem ofQuotient?_eq_none_iff {left right : Int} (nonzero : right ≠ 0) :
    ofQuotient? left right = none ↔ overflowThreshold ≤ |(left : ℚ) / right| := by
  have range := @ofRatio_infinite_iff left.natAbs right.natAbs
    (decide (left < 0) != decide (right < 0)) (Int.natAbs_pos.mpr nonzero)
  have positive : 0 < |(right : ℚ)| := abs_pos.mpr (by exact_mod_cast nonzero)
  rw [natAbs_cast, natAbs_cast, ← le_div_iff₀ positive, ← abs_div] at range
  rw [← range, ofQuotient?]
  cases ofRatio (decide (left < 0) != decide (right < 0)) left.natAbs right.natAbs with
  | infinite | nan | finite => simp

end Binary64

end DecisionTables
