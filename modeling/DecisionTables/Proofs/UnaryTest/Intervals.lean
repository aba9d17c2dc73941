import DecisionTables.Proofs.Outcome
import DecisionTables.Proofs.Value.Order
import DecisionTables.UnaryTest.Eval

/-!
# Orders and intervals

Comparisons form an order of every kind of values: of two values that can be compared, exactly one
is less, or they are equal, and the relations that admit equality say what the others say. So
intervals that share an end divide the interval that they cover, without a gap and without an
overlap. This is what a table relies on in which exactly one rule is to match. Moments have to have a
timescale in common: one that a clock shows twice can be neither equal to a moment of another zone nor
before or after it.
-/

namespace DecisionTables

/-! ## Tests of a ranked subject -/

section Tests

variable {environment : Environment} {expression start finish : Expression} {value : Value}
  {first second : OrderPoint}

theorem Environment.holds_of_compareWith {comparison : Comparison} {result : Value}
    (evaluates : expression.evaluate environment = .ok value)
    (compared : Value.compareWith comparison environment.subject value = .ok result) :
    environment.holds comparison expression = .ok result.isTrue := by
  simp only [holds, evaluates, Except.ok_bind, compared, Except.pure_eq_ok]

/-- Whether the subject lies in an interval, given how it stands to the two ends. -/
theorem UnaryTest.accepts_interval {startClosed finishClosed above below : Bool}
    (lower : environment.holds (.relation (if startClosed then .atLeast else .greater)) start =
      .ok above)
    (upper : environment.holds (.relation (if finishClosed then .atMost else .less)) finish =
      .ok below) :
    (UnaryTest.interval start finish startClosed finishClosed).accepts environment =
      .ok (above && below) := by
  simp only [accepts, lower, Except.ok_bind, Except.pure_eq_ok]
  cases above with
  | true => exact upper
  | false => rfl

end Tests

/-! ## Consistency -/

/-- Whether two adjacent intervals divide the interval that they cover, and that interval and what
lies below and above it divide all subjects. -/
structure Tiles (environment : Environment) (start inner finish : Expression) : Prop where
  /-- The subject lies in the whole interval if it lies in exactly one of the adjacent ones. -/
  divided : ∃ whole lower upper,
    (UnaryTest.interval start finish true true).accepts environment = .ok whole ∧
      (UnaryTest.interval start inner true false).accepts environment = .ok lower ∧
      (UnaryTest.interval inner finish true true).accepts environment = .ok upper ∧
      (whole = true ↔ [lower, upper].count true = 1)
  /-- A subject other than null lies below the interval, in it or above it. -/
  exhausted : environment.subject ≠ .null → ∃ below within above,
    (UnaryTest.comparison (.relation .less) start).accepts environment = .ok below ∧
      (UnaryTest.interval start finish true true).accepts environment = .ok within ∧
      (UnaryTest.comparison (.relation .greater) finish).accepts environment = .ok above ∧
      [below, within, above].count true = 1

open Value in
/-- Whether comparisons treat three values, and subjects that are alike, as members of orders. -/
structure ConsistentlyOrdered (alike : Value → Prop) (left middle right : Value) : Prop where
  /-- An order relation is null if one of its sides is. -/
  null_iff : ∀ relation, compareWith (.relation relation) left middle = .ok .null ↔
    left = .null ∨ middle = .null
  /-- It fails if it does the other way round, and if another one does. -/
  fails_iff : ∀ relation other, (compareWith (.relation relation) left middle).Fails ↔
    (compareWith (.relation other) middle left).Fails
  /-- Otherwise exactly one of two values is less or they are equal, and the relations that admit
  equality follow. -/
  decided : left ≠ .null → middle ≠ .null → ¬(compareWith (.relation .less) left middle).Fails →
    ∃ less equal greater,
      compareWith (.relation .less) left middle = .ok (.boolean less) ∧
        compareWith .equal left middle = .ok (.boolean equal) ∧
        compareWith (.relation .greater) left middle = .ok (.boolean greater) ∧
        [less, equal, greater].count true = 1 ∧
        compareWith (.relation .atMost) left middle = .ok (.boolean (less || equal)) ∧
        compareWith (.relation .atLeast) left middle = compareWith (.relation .atMost) middle left
  less_trans : compareWith (.relation .less) left middle = .ok (.boolean true) →
    compareWith (.relation .less) middle right = .ok (.boolean true) →
    compareWith (.relation .less) left right = .ok (.boolean true)
  equal_trans : compareWith .equal left middle = .ok (.boolean true) →
    compareWith .equal middle right = .ok (.boolean true) →
    compareWith .equal left right = .ok (.boolean true)
  /-- Intervals between three values that ascend divide the subjects. -/
  tiles : ∀ environment start inner finish,
    start.evaluate environment = .ok left → inner.evaluate environment = .ok middle →
    finish.evaluate environment = .ok right →
    compareWith (.relation .atMost) left middle = .ok (.boolean true) →
    compareWith (.relation .atMost) middle right = .ok (.boolean true) →
    alike environment.subject →
    (environment.subject = .null ∨ environment.subject.comparable left = true) →
    Tiles environment start inner finish

/-! ## Tiling -/

section Tiling

variable {environment : Environment} {start inner finish : Expression}

/-- Nothing holds of a subject that is null. -/
theorem Tiles.of_null (null : environment.subject = .null)
    (atStart : ∀ relation, environment.holds (.relation relation) start = .ok false)
    (atInner : ∀ relation, environment.holds (.relation relation) inner = .ok false)
    (atFinish : ∀ relation, environment.holds (.relation relation) finish = .ok false) :
    Tiles environment start inner finish := by
  constructor
  · exact ⟨false, false, false, UnaryTest.accepts_interval (atStart _) (atFinish _),
      UnaryTest.accepts_interval (atStart _) (atInner _),
      UnaryTest.accepts_interval (atInner _) (atFinish _), by decide⟩
  · intro present
    exact absurd null present

/-- Intervals between points that ascend divide the points. -/
theorem Tiles.of_points {point first second third : OrderPoint}
    (atStart : ∀ relation, environment.holds (.relation relation) start =
      .ok (relation.holds (compare point first)))
    (atInner : ∀ relation, environment.holds (.relation relation) inner =
      .ok (relation.holds (compare point second)))
    (atFinish : ∀ relation, environment.holds (.relation relation) finish =
      .ok (relation.holds (compare point third)))
    (ascends : first ≤ second) (further : second ≤ third) :
    Tiles environment start inner finish := by
  constructor
  · refine ⟨_, _, _, UnaryTest.accepts_interval (atStart .atLeast) (atFinish .atMost),
      UnaryTest.accepts_interval (atStart .atLeast) (atInner .less),
      UnaryTest.accepts_interval (atInner .atLeast) (atFinish .atMost), ?_⟩
    rcases lt_or_ge point second with before | after
    · have within : point ≤ third := before.le.trans further
      simp [Relation.holds_compare, Relation.On, before, before.not_ge, within, List.count_cons]
    · have above : first ≤ point := ascends.trans after
      simp [Relation.holds_compare, Relation.On, after, after.not_gt, above, List.count_cons]
  · intro _
    refine ⟨_, _, _, atStart .less,
      UnaryTest.accepts_interval (atStart .atLeast) (atFinish .atMost), atFinish .greater, ?_⟩
    rcases lt_or_ge point first with before | after
    · have within : point ≤ third := before.le.trans (ascends.trans further)
      simp [Relation.holds_compare, Relation.On, before, before.not_ge, within.not_gt]
    · rcases lt_or_ge third point with beyond | within
      · simp [Relation.holds_compare, Relation.On, after, after.not_gt, beyond, beyond.not_ge]
      · simp [Relation.holds_compare, Relation.On, after, after.not_gt, within, within.not_gt]

end Tiling

section Triples

open Value

variable {scale : Timescale} {left middle right : Value}

/-- Between three values that ascend, intervals divide the subjects. -/
theorem tiles_of_ascending {environment : Environment} {start inner finish : Expression}
    (leftOrderly : left.Orderly scale) (middleOrderly : middle.Orderly scale)
    (rightOrderly : right.Orderly scale) (subjectOrderly : environment.subject.Orderly scale)
    (atStart : start.evaluate environment = .ok left)
    (atInner : inner.evaluate environment = .ok middle)
    (atFinish : finish.evaluate environment = .ok right)
    (ascends : compareWith (.relation .atMost) left middle = .ok (.boolean true))
    (further : compareWith (.relation .atMost) middle right = .ok (.boolean true))
    (met : environment.subject = .null ∨ environment.subject.comparable left = true) :
    Tiles environment start inner finish := by
  rcases met with null | alike
  · have unmet : ∀ {expression value}, expression.evaluate environment = .ok value →
        ∀ relation, environment.holds (.relation relation) expression = .ok false :=
      fun evaluates relation =>
        Environment.holds_of_compareWith evaluates (compareWith_of_null (.inl null) relation)
    exact .of_null null (unmet atStart) (unmet atInner) (unmet atFinish)
  · have toStart := comparable_iff.mp alike
    have toInner := toStart.trans (comparable_of_compareWith ascends)
    have toFinish := toInner.trans (comparable_of_compareWith further)
    obtain ⟨point, given⟩ := toStart.exists_orderPoint subjectOrderly
    obtain ⟨first, leftGiven⟩ := toStart.symm.exists_orderPoint leftOrderly
    obtain ⟨second, middleGiven⟩ := toInner.symm.exists_orderPoint middleOrderly
    obtain ⟨third, rightGiven⟩ := toFinish.symm.exists_orderPoint rightOrderly
    have meets : ∀ {expression value found}, expression.evaluate environment = .ok value →
        environment.subject.Comparable value → value.Orderly scale →
        value.orderPoint? scale = some found → ∀ relation,
          environment.holds (.relation relation) expression =
            .ok (relation.holds (compare point found)) := by
      intro expression value found evaluates alike orderly givenThere relation
      have ranked := alike.ranked subjectOrderly orderly given givenThere
      exact Environment.holds_of_compareWith evaluates (ranked.compareWith_eq alike relation)
    have below := on_of_compareWith leftOrderly middleOrderly leftGiven middleGiven ascends
    have above := on_of_compareWith middleOrderly rightOrderly middleGiven rightGiven further
    exact .of_points (meets atStart toStart leftOrderly leftGiven)
      (meets atInner toInner middleOrderly middleGiven)
      (meets atFinish toFinish rightOrderly rightGiven) below above

/-- Comparisons treat values without a not-a-number as members of orders, moments as long as they have
a timescale in common. -/
theorem consistentlyOrdered (leftOrderly : left.Orderly scale)
    (middleOrderly : middle.Orderly scale) (rightOrderly : right.Orderly scale)
    (named : left.WellNamed) : ConsistentlyOrdered (Orderly scale) left middle right := by
  constructor
  · intro relation
    exact compareWith_eq_null_iff leftOrderly middleOrderly
  · intro relation other
    have turned : Comparable left middle ↔ Comparable middle left := ⟨.symm, .symm⟩
    rw [compareWith_fails_iff leftOrderly middleOrderly,
      compareWith_fails_iff middleOrderly leftOrderly, turned, and_comm (a := left ≠ .null)]
  · intro leftPresent middlePresent compared
    have alike : Comparable left middle := by
      by_contra apart
      exact compared ((compareWith_fails_iff leftOrderly middleOrderly).mpr
        ⟨⟨leftPresent, middlePresent⟩, apart⟩)
    exact alike.decided leftOrderly middleOrderly
  · exact less_trans_of_orderly leftOrderly middleOrderly rightOrderly
  · intro before after
    rw [compareWith_equal_iff] at before after ⊢
    exact equals_trans named before after
  · intro environment start inner finish atStart atInner atFinish ascends further subjectOrderly met
    exact tiles_of_ascending leftOrderly middleOrderly rightOrderly subjectOrderly atStart atInner
      atFinish ascends further met

end Triples

def oneAndHalf : Value :=
  .number (.decimal (.finite false 15 (-1)))

/-- Integers and a decimal number in ascending order, and intervals between them. -/
theorem oneAndHalf_consistentlyOrdered :
    (Value.integer 1).Orderly .universal ∧ oneAndHalf.Orderly .universal ∧
      (Value.integer 2).Orderly .universal ∧ (Value.integer 1).WellNamed ∧
      ConsistentlyOrdered (Value.Orderly .universal) (.integer 1) oneAndHalf (.integer 2) ∧
      Tiles ⟨.ofBindings [], oneAndHalf⟩ (.literal (.integer 1)) (.literal oneAndHalf)
        (.literal (.integer 2)) := by
  have ordered :
      ConsistentlyOrdered (Value.Orderly .universal) (.integer 1) oneAndHalf (.integer 2) :=
    consistentlyOrdered ⟨_, rfl⟩ ⟨_, rfl⟩ ⟨_, rfl⟩ .number
  exact ⟨⟨_, rfl⟩, ⟨_, rfl⟩, ⟨_, rfl⟩, .number, ordered,
    ordered.tiles _ _ _ _ rfl rfl rfl rfl rfl ⟨_, rfl⟩ (.inr rfl)⟩

/-! ## Moments of different zones -/

/-- Whether a value is no not-a-number, and has a zone if it is a moment. -/
def Value.Zoned : Value → Prop
  | .number value => ∃ point, value.point? = some point
  | .moment value => value.zone.isSome = true
  | _ => True

/-- The last Sunday of October 2024, when clocks in Berlin were put back. -/
def autumnDay : Date := ⟨2024, 10, 27, by decide⟩

/-- A zone whose clock is put back by an hour at one o'clock universal time on that day. -/
def autumnZone : TimeZone :=
  ⟨"Europe/Berlin", 7200000000, [⟨(autumnDay.ordinal * 24 + 1) * 3600000000, 3600000000⟩],
    ⟨nofun, trivial⟩⟩

/-- The first of the two moments at which that clock shows half past two. -/
def halfPastTwo : Moment :=
  { Moment.first with
    date := autumnDay, hour := ⟨2, by decide⟩, minute := ⟨30, by decide⟩,
    zone := some (.named autumnZone) }

/-- The same instant by a clock of universal time. -/
def halfPastMidnight : Moment :=
  { halfPastTwo with hour := Moment.first.hour, zone := some (.fixed 0) }

/-- The first is neither before the second nor equal to it nor after it. And null is equal to null, but
not at most null. -/
theorem halfPastTwo_not_consistentlyOrdered :
    (Value.moment halfPastTwo).Zoned ∧ (Value.moment halfPastMidnight).Zoned ∧
      ¬ConsistentlyOrdered Value.Zoned (.moment halfPastTwo) (.moment halfPastMidnight)
        (.moment halfPastMidnight) ∧
      Value.compareWith .equal .null .null = .ok (.boolean true) ∧
      Value.compareWith (.relation .atMost) .null .null = .ok .null := by
  have instant : halfPastTwo.order? halfPastMidnight = some .eq := by decide +kernel
  have twice : halfPastTwo.equal halfPastMidnight = false := by decide +kernel
  have related (relation : Relation) : Value.compareWith (.relation relation) (.moment halfPastTwo)
      (.moment halfPastMidnight) = .ok (.boolean (relation.holds .eq)) := by
    change (Evaluated.ofFault (Value.relateMoments relation halfPastTwo halfPastMidnight)).map
      Value.boolean = _
    rw [Value.relateMoments, instant]
    rfl
  have apart : Value.compareWith .equal (.moment halfPastTwo) (.moment halfPastMidnight) =
      .ok (.boolean false) := by
    change Except.ok (Value.boolean (halfPastTwo.equal halfPastMidnight)) = _
    rw [twice]
  have present (moment : Moment) : Value.moment moment ≠ .null := by
    intro same
    cases same
  refine ⟨rfl, rfl, fun ordered => ?_, rfl, rfl⟩
  obtain ⟨less, equal, greater, lessGiven, equalGiven, greaterGiven, once, _⟩ :=
    ordered.decided (present _) (present _) (by rw [related]; rintro ⟨_, ⟨⟩⟩)
  cases (related .less).symm.trans lessGiven
  cases apart.symm.trans equalGiven
  cases (related .greater).symm.trans greaterGiven
  exact absurd once (by decide)

end DecisionTables
