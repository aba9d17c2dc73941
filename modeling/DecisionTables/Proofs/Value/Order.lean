import Mathlib.Data.Prod.Lex
import Mathlib.Data.String.Basic
import Mathlib.Data.Sum.Order
import DecisionTables.Expression.Eval
import DecisionTables.Proofs.Calendar.Zone
import DecisionTables.Proofs.Value.Equality

/-!
# The order of values

The language orders values of one kind: numbers by their exact values, texts by code points, days by
the calendar and moments by their instants. Each kind is a linear order of its own, and so a value
that is ordered at all has a point in one linear order of all kinds. What the language says of two
comparable values, it says of their points. A not-a-number has no point, and the points of moments
say something only if the moments have a timescale in common.
-/

namespace DecisionTables

/-- Whether an evaluation ends without a value. -/
def Evaluated.Fails {α : Type} (outcome : Evaluated α) : Prop :=
  ∃ interruption, outcome = .error interruption

/-! ## Relations -/

section Relations

variable {α β : Type} [LinearOrder α] [LinearOrder β]

/-- What an order relation says of two members of a linear order. -/
def Relation.On (relation : Relation) (first second : α) : Prop :=
  match relation with
  | .less => first < second
  | .atMost => first ≤ second
  | .greater => second < first
  | .atLeast => second ≤ first

theorem Relation.holds_compare_iff {relation : Relation} {first second : α} :
    relation.holds (compare first second) = true ↔ relation.On first second := by
  cases relation with
  | less => exact beq_iff_eq.trans compare_lt_iff_lt
  | atMost => exact bne_iff_ne.trans compare_le_iff_le
  | greater => exact beq_iff_eq.trans compare_gt_iff_gt
  | atLeast => exact bne_iff_ne.trans compare_ge_iff_ge

instance (relation : Relation) (first second : α) : Decidable (relation.On first second) :=
  match relation with
  | .less => inferInstanceAs (Decidable (first < second))
  | .atMost => inferInstanceAs (Decidable (first ≤ second))
  | .greater => inferInstanceAs (Decidable (second < first))
  | .atLeast => inferInstanceAs (Decidable (second ≤ first))

theorem Relation.holds_compare (relation : Relation) (first second : α) :
    relation.holds (compare first second) = decide (relation.On first second) := by
  rw [Bool.eq_iff_iff, holds_compare_iff, decide_eq_true_iff]

theorem compare_of_strictMono {image : α → β} (mono : StrictMono image) (first second : α) :
    compare (image first) (image second) = compare first second := by
  rw [← cmp_eq_compare, ← cmp_eq_compare]
  exact mono.cmp_map_eq first second

end Relations

/-! ## Points -/

/-- One order of all kinds of values: first the line of numbers, then texts, then days by year,
month and day, then the times of a scale. -/
abbrev OrderPoint := Line ⊕ₗ String ⊕ₗ (ℕ ×ₗ ℕ ×ₗ ℕ) ⊕ₗ ℤ

namespace OrderPoint

def ofPoint (point : Line) : OrderPoint := toLex (.inl point)

def ofText (text : String) : OrderPoint := toLex (.inr (toLex (.inl text)))

def ofDate (date : Date) : OrderPoint :=
  toLex (.inr (toLex (.inr (toLex (.inl (toLex (date.year, toLex (date.month, date.day))))))))

def ofTime (time : Int) : OrderPoint := toLex (.inr (toLex (.inr (toLex (.inr time)))))

/-- Points of one kind are ordered as what they are made from. -/
theorem compare_ofPoint (left right : Line) :
    compare (ofPoint left) (ofPoint right) = compare left right :=
  compare_of_strictMono Sum.Lex.inl_strictMono left right

theorem compare_ofText (left right : String) :
    compare (ofText left) (ofText right) = compare left right :=
  compare_of_strictMono (Sum.Lex.inr_strictMono.comp Sum.Lex.inl_strictMono) left right

theorem compare_ofTime (left right : Int) :
    compare (ofTime left) (ofTime right) = compare left right :=
  compare_of_strictMono
    (Sum.Lex.inr_strictMono.comp (Sum.Lex.inr_strictMono.comp Sum.Lex.inr_strictMono)) left right

theorem compare_ofDate (left right : Date) :
    compare (ofDate left) (ofDate right) = left.order right := by
  have mono : StrictMono fun triple : ℕ ×ₗ ℕ ×ₗ ℕ =>
      (toLex (.inr (toLex (.inr (toLex (.inl triple))))) : OrderPoint) :=
    Sum.Lex.inr_strictMono.comp (Sum.Lex.inr_strictMono.comp Sum.Lex.inl_strictMono)
  refine (compare_of_strictMono mono _ _).trans ?_
  simp only [Prod.Lex.compare_def, compareLex, compareOn]
  rfl

theorem ofDate_inj {left right : Date} : ofDate left = ofDate right ↔ left = right := by
  cases left
  cases right
  simp [ofDate]

end OrderPoint

/-! ## Comparable values -/

namespace Value

variable {scale : Timescale} {left middle right : Value} {first second : OrderPoint}

/-- The pairs of values that the language orders. -/
inductive Comparable : Value → Value → Prop
  | numbers {left right : Number} : Comparable (.number left) (.number right)
  | texts {left right : String} : Comparable (.text left) (.text right)
  | dates {left right : Date} : Comparable (.date left) (.date right)
  | moments {left right : Moment} : Comparable (.moment left) (.moment right)

theorem comparable_iff : comparable left right = true ↔ Comparable left right := by
  constructor
  · intro alike
    unfold comparable at alike
    split at alike
    · exact .numbers
    · exact .texts
    · exact .dates
    · exact .moments
    · cases alike
  · intro alike
    cases alike <;> rfl

theorem Comparable.symm (alike : Comparable left right) : Comparable right left := by
  cases alike <;> constructor

theorem Comparable.trans (before : Comparable left middle) (after : Comparable middle right) :
    Comparable left right := by
  cases before <;> cases after <;> constructor

theorem Comparable.not_null (alike : Comparable left right) : left ≠ .null ∧ right ≠ .null := by
  cases alike <;> exact ⟨nofun, nofun⟩

/-- Whether a value takes part in the order of its kind: it is no not-a-number, and if it is a
moment it belongs to the scale. -/
def Orderly (scale : Timescale) : Value → Prop
  | .number value => ∃ point, value.point? = some point
  | .moment value => scale.Contains value
  | _ => True

/-- The point of a value in the order of its kind. -/
def orderPoint? (scale : Timescale) : Value → Option OrderPoint
  | .number value => value.point?.map .ofPoint
  | .text value => some (.ofText value)
  | .date value => some (.ofDate value)
  | .moment value => some (.ofTime (scale.time value))
  | _ => none

/-- Whether two values are equal and ordered as two points are. -/
structure Ranked (left right : Value) (first second : OrderPoint) : Prop where
  related : ∀ relation, relate relation left right = .ok (relation.holds (compare first second))
  equal : left.equals right = .ok (compare first second == .eq)

theorem Comparable.exists_orderPoint (alike : Comparable left right)
    (orderly : left.Orderly scale) : ∃ point, left.orderPoint? scale = some point := by
  cases alike with
  | numbers =>
      obtain ⟨point, found⟩ := orderly
      exact ⟨_, congrArg (Option.map OrderPoint.ofPoint) found⟩
  | texts | dates | moments => exact ⟨_, rfl⟩

/-- Comparable values are equal and ordered as their points are. -/
theorem Comparable.ranked (alike : Comparable left right) (leftOrderly : left.Orderly scale)
    (rightOrderly : right.Orderly scale) (leftGiven : left.orderPoint? scale = some first)
    (rightGiven : right.orderPoint? scale = some second) : Ranked left right first second := by
  cases alike with
  | @numbers left right =>
      obtain ⟨leftPoint, leftFound, rfl⟩ := Option.map_eq_some_iff.mp leftGiven
      obtain ⟨rightPoint, rightFound, rfl⟩ := Option.map_eq_some_iff.mp rightGiven
      constructor
      · intro relation
        obtain ⟨leftValue, leftExact, rfl⟩ := Option.map_eq_some_iff.mp leftFound
        obtain ⟨rightValue, rightExact, rfl⟩ := Option.map_eq_some_iff.mp rightFound
        rw [OrderPoint.compare_ofPoint, ← Extended.order_eq_compare]
        simp only [relate, Number.relate, leftExact, rightExact]
      · have told : left.equality right = .ok (left.equal right) := by
          rw [Number.equality, Number.isSignaling_of_point leftFound,
            Number.isSignaling_of_point rightFound]
          rfl
        have equal : left.equal right = (compare leftPoint rightPoint == .eq) := by
          rw [Bool.eq_iff_iff, beq_iff_eq, compare_eq_iff_eq, Number.equal_iff, leftFound, rightFound]
          simp [eq_comm]
        rw [OrderPoint.compare_ofPoint, ← equal]
        exact told
  | @texts left right =>
      cases leftGiven
      cases rightGiven
      constructor
      · intro relation
        rw [OrderPoint.compare_ofText, LinearOrder.compare_eq_compareOfLessAndEq]
        rfl
      · have equal : (left == right) = (compare left right == .eq) := by
          rw [Bool.eq_iff_iff, beq_iff_eq, beq_iff_eq, compare_eq_iff_eq]
        rw [OrderPoint.compare_ofText, ← equal]
        rfl
  | @dates left right =>
      cases leftGiven
      cases rightGiven
      constructor
      · intro relation
        rw [OrderPoint.compare_ofDate]
        rfl
      · have equal : (left == right) = (compare (OrderPoint.ofDate left) (.ofDate right) == .eq) := by
          rw [Bool.eq_iff_iff, beq_iff_eq, beq_iff_eq, compare_eq_iff_eq, OrderPoint.ofDate_inj]
        rw [← equal]
        rfl
  | @moments left right =>
      cases leftGiven
      cases rightGiven
      constructor
      · intro relation
        rw [OrderPoint.compare_ofTime, relate, relateMoments,
          Timescale.order?_eq leftOrderly rightOrderly]
      · rw [OrderPoint.compare_ofTime, ← Timescale.equal_eq leftOrderly rightOrderly]
        rfl

/-! ## Comparisons -/

/-- A comparison of comparable values compares their points. -/
theorem Ranked.compareWith_eq (ranked : Ranked left right first second)
    (alike : Comparable left right) (relation : Relation) :
    compareWith (.relation relation) left right =
      .ok (.boolean (relation.holds (compare first second))) := by
  have ordered := comparable_iff.mpr alike
  have related := ranked.related relation
  cases alike
  all_goals
    simp only [compareWith, isNull, Bool.or_self, Bool.false_eq_true, if_false, ordered, if_true,
      related]
    rfl

/-- An order relation with null is null. -/
theorem compareWith_of_null (absent : left = .null ∨ right = .null) (relation : Relation) :
    compareWith (.relation relation) left right = .ok .null := by
  rcases absent with rfl | rfl
  · rfl
  · simp [compareWith, isNull]

/-- Values that are neither null nor comparable are not compared. -/
theorem compareWith_of_not_comparable (present : left ≠ .null ∧ right ≠ .null)
    (apart : ¬Comparable left right) (relation : Relation) :
    compareWith (.relation relation) left right =
      .error (.failure (.notComparable left.typeName right.typeName)) := by
  have leftPresent : left.isNull = false := by
    cases left <;> first | rfl | exact absurd rfl present.1
  have rightPresent : right.isNull = false := by
    cases right <;> first | rfl | exact absurd rfl present.2
  have unordered : left.comparable right = false :=
    eq_false_of_ne_true (comparable_iff.not.mpr apart)
  simp only [compareWith, leftPresent, rightPresent, unordered, Bool.or_self, Bool.false_eq_true,
    if_false]

/-- What an order relation holds of is comparable. -/
theorem comparable_of_compareWith {relation : Relation} {holds : Bool}
    (compared : compareWith (.relation relation) left right = .ok (.boolean holds)) :
    Comparable left right := by
  by_contra apart
  by_cases absent : left = .null ∨ right = .null
  · rw [compareWith_of_null absent] at compared
    cases compared
  · rw [compareWith_of_not_comparable (not_or.mp absent) apart] at compared
    cases compared

theorem compareWith_equal_iff {equal : Bool} :
    compareWith .equal left right = .ok (.boolean equal) ↔ left.equals right = .ok equal := by
  rw [compareWith]
  cases left.equals right <;> simp [Evaluated.ofFault]

/-- A relation that holds of values holds of their points. -/
theorem on_of_compareWith {relation : Relation} (leftOrderly : left.Orderly scale)
    (rightOrderly : right.Orderly scale) (leftGiven : left.orderPoint? scale = some first)
    (rightGiven : right.orderPoint? scale = some second)
    (compared : compareWith (.relation relation) left right = .ok (.boolean true)) :
    relation.On first second := by
  have alike := comparable_of_compareWith compared
  have ranked := alike.ranked leftOrderly rightOrderly leftGiven rightGiven
  rw [ranked.compareWith_eq alike] at compared
  injection compared with compared
  injection compared with compared
  exact Relation.holds_compare_iff.mp compared

theorem Comparable.compareWith_eq_boolean (alike : Comparable left right)
    (leftOrderly : left.Orderly scale) (rightOrderly : right.Orderly scale) (relation : Relation) :
    ∃ holds, compareWith (.relation relation) left right = .ok (.boolean holds) := by
  obtain ⟨first, leftGiven⟩ := alike.exists_orderPoint leftOrderly
  obtain ⟨second, rightGiven⟩ := alike.symm.exists_orderPoint rightOrderly
  have ranked := alike.ranked leftOrderly rightOrderly leftGiven rightGiven
  exact ⟨_, ranked.compareWith_eq alike relation⟩

/-- An order relation is null only with null. -/
theorem compareWith_eq_null_iff (leftOrderly : left.Orderly scale)
    (rightOrderly : right.Orderly scale) {relation : Relation} :
    compareWith (.relation relation) left right = .ok .null ↔ left = .null ∨ right = .null := by
  constructor
  · intro null
    by_contra absent
    by_cases alike : Comparable left right
    · obtain ⟨holds, compared⟩ := alike.compareWith_eq_boolean leftOrderly rightOrderly relation
      rw [compared] at null
      cases null
    · rw [compareWith_of_not_comparable (not_or.mp absent) alike] at null
      cases null
  · intro absent
    exact compareWith_of_null absent relation

/-- An order relation fails between values that are neither null nor comparable. -/
theorem compareWith_fails_iff (leftOrderly : left.Orderly scale)
    (rightOrderly : right.Orderly scale) {relation : Relation} :
    (compareWith (.relation relation) left right).Fails ↔
      (left ≠ .null ∧ right ≠ .null) ∧ ¬Comparable left right := by
  constructor
  · rintro ⟨interruption, failed⟩
    constructor
    · by_contra absent
      rw [← not_or, not_not] at absent
      rw [compareWith_of_null absent] at failed
      cases failed
    · intro alike
      obtain ⟨holds, compared⟩ := alike.compareWith_eq_boolean leftOrderly rightOrderly relation
      rw [compared] at failed
      cases failed
  · rintro ⟨present, apart⟩
    exact ⟨_, compareWith_of_not_comparable present apart relation⟩

/-- Two comparable values are ordered in one of three ways. -/
theorem Comparable.decided (alike : Comparable left right) (leftOrderly : left.Orderly scale)
    (rightOrderly : right.Orderly scale) : ∃ less equal greater,
      compareWith (.relation .less) left right = .ok (.boolean less) ∧
        compareWith .equal left right = .ok (.boolean equal) ∧
        compareWith (.relation .greater) left right = .ok (.boolean greater) ∧
        [less, equal, greater].count true = 1 ∧
        compareWith (.relation .atMost) left right = .ok (.boolean (less || equal)) ∧
        compareWith (.relation .atLeast) left right =
          compareWith (.relation .atMost) right left := by
  obtain ⟨first, leftGiven⟩ := alike.exists_orderPoint leftOrderly
  obtain ⟨second, rightGiven⟩ := alike.symm.exists_orderPoint rightOrderly
  have ranked := alike.ranked leftOrderly rightOrderly leftGiven rightGiven
  have turned := alike.symm.ranked rightOrderly leftOrderly rightGiven leftGiven
  have equal : compareWith .equal left right = .ok (.boolean (compare first second == .eq)) := by
    rw [compareWith, ranked.equal]
    rfl
  have swapped : compare second first = (compare first second).swap := Std.OrientedOrd.eq_swap
  simp only [ranked.compareWith_eq alike, turned.compareWith_eq alike.symm, equal, swapped]
  refine ⟨_, _, _, rfl, rfl, rfl, ?_⟩
  cases compare first second <;> exact ⟨rfl, rfl, rfl⟩

theorem less_trans_of_orderly (leftOrderly : left.Orderly scale)
    (middleOrderly : middle.Orderly scale) (rightOrderly : right.Orderly scale)
    (before : compareWith (.relation .less) left middle = .ok (.boolean true))
    (after : compareWith (.relation .less) middle right = .ok (.boolean true)) :
    compareWith (.relation .less) left right = .ok (.boolean true) := by
  have leftAlike := comparable_of_compareWith before
  have rightAlike := comparable_of_compareWith after
  have alike := leftAlike.trans rightAlike
  obtain ⟨first, leftGiven⟩ := leftAlike.exists_orderPoint leftOrderly
  obtain ⟨second, middleGiven⟩ := rightAlike.exists_orderPoint middleOrderly
  obtain ⟨third, rightGiven⟩ := rightAlike.symm.exists_orderPoint rightOrderly
  have below := on_of_compareWith leftOrderly middleOrderly leftGiven middleGiven before
  have above := on_of_compareWith middleOrderly rightOrderly middleGiven rightGiven after
  have ranked := alike.ranked leftOrderly rightOrderly leftGiven rightGiven
  have on : Relation.less.On first third := lt_trans below above
  rw [ranked.compareWith_eq alike, Relation.holds_compare_iff.mpr on]

end Value

end DecisionTables
