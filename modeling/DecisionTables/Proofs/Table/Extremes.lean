import DecisionTables.Proofs.Table.Reductions

/-!
# Where extremes follow the language

The language orders numbers, texts, days and moments, each among themselves, and so does the search
for the least or the greatest value. But the search orders more: booleans count as numbers, lists are
ordered by their first unequal items, and so may be objects that the language has no order for. It also
compares each value with the extreme so far alone. What it finds among numbers of which one is a
not-a-number bounds nothing, and among moments of several zones it need not bound all of them. This
module says for which values an extreme is what the language would have it be: it exists exactly if the
language orders every two of the values, it bounds all of them, and otherwise an error tells that there
is none.
-/

namespace DecisionTables

/-! ## Values without an order -/

/-- The families of values that aggregations order among themselves, if they order them at all. -/
inductive ValueFamily where
  | null | counted | text | date | list | map
  /-- Moments, all of them with a zone or all without. -/
  | moment (zoned : Bool)
  /-- Objects of one type. -/
  | object (type : String)
  deriving DecidableEq

namespace Value

def family : Value → ValueFamily
  | .null => .null
  | .boolean _ | .number _ => .counted
  | .text _ => .text
  | .date _ => .date
  | .moment value => .moment value.zone.isSome
  | .object value => .object value.type
  | .list _ => .list
  | .map _ => .map

/-- Whether aggregations have no order between two values: they are of different families, or of one
that has no order. Objects need ranks, and of two lists the first items that differ count. -/
inductive Apart : Value → Value → Prop
  | families {left right : Value} : left.family ≠ right.family → Apart left right
  | nulls : Apart .null .null
  | maps {lefts rights : List (String × Value)} : Apart (.map lefts) (.map rights)
  | objects {left right : Object} :
      left.rank = none ∨ right.rank = none → Apart (.object left) (.object right)
  | items {left right : Value} {lefts rights : List Value} :
      matchesMember left right = .ok false → Apart left right →
      Apart (.list (left :: lefts)) (.list (right :: rights))
  | rest {left right : Value} {lefts rights : List Value} :
      matchesMember left right = .ok true → Apart (.list lefts) (.list rights) →
      Apart (.list (left :: lefts)) (.list (right :: rights))

variable {relation : Relation} {left right : Value}

/-- Within a family of numbers, texts, days or moments there is an order. -/
theorem not_apart_of_family (same : left.family = right.family)
    (ordered : left.family ∈ [.counted, .text, .date, .moment true, .moment false]) :
    ¬Apart left right := by
  intro apart
  cases apart with
  | families differ => exact differ same
  | nulls | maps | objects | items | rest => simp [family] at ordered

theorem apart_items_iff {lefts rights : List Value} :
    Apart (.list (left :: lefts)) (.list (right :: rights)) ↔
      (matchesMember left right = .ok true ∧ Apart (.list lefts) (.list rights)) ∨
        matchesMember left right = .ok false ∧ Apart left right := by
  constructor
  · intro apart
    cases apart with
    | families differ => exact absurd rfl differ
    | items differ first => exact .inr ⟨differ, first⟩
    | rest same later => exact .inl ⟨same, later⟩
  · rintro (⟨same, later⟩ | ⟨differ, first⟩)
    · exact .rest same later
    · exact .items differ first

theorem not_apart_nil {values : List Value} :
    ¬Apart (.list []) (.list values) ∧ ¬Apart (.list values) (.list []) := by
  constructor <;> intro apart <;> cases apart with
  | families differ => exact differ rfl

theorem relateMoments_unordered_iff {left right : Moment} :
    relateMoments relation left right = .error .unordered ↔
      left.zone.isSome ≠ right.zone.isSome := by
  rw [relateMoments, ← Moment.order?_eq_none_iff]
  cases left.order? right <;> simp

theorem relateObjects_unordered_iff {left right : Object} :
    relateObjects relation left right = .error .unordered ↔ Apart (.object left) (.object right) := by
  have parts : Apart (.object left) (.object right) ↔
      left.type ≠ right.type ∨ left.rank = none ∨ right.rank = none := by
    constructor
    · intro apart
      cases apart with
      | families differ => exact .inl (by simpa [family] using differ)
      | objects unranked => exact .inr unranked
    · rintro (differ | unranked)
      · exact .families (by simpa [family] using differ)
      · exact .objects unranked
  rw [parts, relateObjects]
  cases left.rank with
  | none => simp
  | some leftRank =>
      cases right.rank with
      | none => simp
      | some rightRank => simp

theorem relate_counted_ne_unordered {left right : Number} :
    left.relate relation right ≠ .error .unordered := by
  intro failed
  cases (Number.relate_eq_error_iff.mp failed).1

mutual

/-- A comparison ends for the lack of an order exactly between values that have none. -/
theorem relate_unordered_iff : (left right : Value) →
    (relate relation left right = .error .unordered ↔ Apart left right)
  | .boolean left, right | .number left, right => by
      cases right with
      | boolean | number =>
          rw [relate]
          exact iff_of_false relate_counted_ne_unordered
            (not_apart_of_family rfl (by simp [family]))
      | null | text | date | moment | object | list | map =>
          exact iff_of_true rfl (.families (by simp [family]))
  | .text left, right => by
      cases right with
      | text => exact iff_of_false nofun (not_apart_of_family rfl (by simp [family]))
      | null | boolean | number | date | moment | object | list | map =>
          exact iff_of_true rfl (.families (by simp [family]))
  | .date left, right => by
      cases right with
      | date => exact iff_of_false nofun (not_apart_of_family rfl (by simp [family]))
      | null | boolean | number | text | moment | object | list | map =>
          exact iff_of_true rfl (.families (by simp [family]))
  | .moment left, right => by
      cases right with
      | moment right =>
          rw [relate, relateMoments_unordered_iff]
          constructor
          · exact fun differ => .families (by simpa [family] using differ)
          · intro apart same
            refine not_apart_of_family (by simp [family, same]) ?_ apart
            cases zoned : left.zone <;> simp [family, zoned]
      | null | boolean | number | text | date | object | list | map =>
          exact iff_of_true rfl (.families (by simp [family]))
  | .object left, right => by
      cases right with
      | object right => exact relateObjects_unordered_iff
      | null | boolean | number | text | date | moment | list | map =>
          exact iff_of_true rfl (.families (by simp [family]))
  | .list lefts, right => by
      cases right with
      | list rights => exact relateItems_unordered_iff lefts rights
      | null | boolean | number | text | date | moment | object | map =>
          exact iff_of_true rfl (.families (by simp [family]))
  | .null, right => by
      cases right with
      | null => exact iff_of_true rfl .nulls
      | boolean | number | text | date | moment | object | list | map =>
          exact iff_of_true rfl (.families (by simp [family]))
  | .map _, right => by
      cases right with
      | map => exact iff_of_true rfl .maps
      | null | boolean | number | text | date | moment | object | list =>
          exact iff_of_true rfl (.families (by simp [family]))

theorem relateItems_unordered_iff : (lefts rights : List Value) →
    (relateItems relation lefts rights = .error .unordered ↔ Apart (.list lefts) (.list rights))
  | [], rights => iff_of_false (by simp [relateItems]) not_apart_nil.1
  | left :: lefts, [] => iff_of_false (by simp [relateItems]) not_apart_nil.2
  | left :: lefts, right :: rights => by
      rw [apart_items_iff, ← relate_unordered_iff left right,
        ← relateItems_unordered_iff lefts rights, relateItems]
      cases told : matchesMember left right with
      | ok same => cases same <;> simp
      | error fault =>
          have invalid := (matchesMember_eq_error_iff.mp told).1
          simp [invalid]

end

/-! ## Values of one kind -/

/-- A comparison in an order relation, where it has a truth value, is that of aggregations. -/
theorem relate_of_compareWith {holds : Bool}
    (compared : compareWith (.relation relation) left right = .ok (.boolean holds)) :
    relate relation left right = .ok holds := by
  rw [compareWith] at compared
  split at compared
  · cases compared
  · split at compared
    · cases related : relate relation left right with
      | ok found =>
          rw [related] at compared
          cases compared
          rfl
      | error fault =>
          rw [related] at compared
          cases compared
    · cases compared

/-- Whether a value is a moment with a zone. -/
inductive IsZoned : Value → Prop
  | moment {value : Moment} : value.zone.isSome = true → IsZoned (.moment value)

theorem isZoned_moment_iff {value : Moment} :
    IsZoned (.moment value) ↔ value.zone.isSome = true := by
  constructor
  · rintro ⟨zoned⟩
    exact zoned
  · exact .moment

/-- Of two values in an order relation both are moments with zones or none is, and then they take part in
the order of their kind. -/
theorem zoned_of_compareWith
    (compared : compareWith (.relation relation) left right = .ok (.boolean true)) :
    (left.IsZoned ↔ right.IsZoned) ∧ (¬right.IsZoned → right.Orderly (.clock none)) := by
  have related := relate_of_compareWith compared
  have alike := comparable_of_compareWith compared
  cases alike with
  | texts | dates =>
      refine ⟨iff_of_false ?_ ?_, fun _ => trivial⟩ <;> rintro ⟨⟩
  | @numbers left right =>
      refine ⟨iff_of_false (by rintro ⟨⟩) (by rintro ⟨⟩), fun _ => ?_⟩
      rw [relate, Number.relate] at related
      split at related
      · rename_i rightExact
        exact ⟨_, congrArg (Option.map _) rightExact⟩
      · split at related <;> cases related
  | @moments left right =>
      have same : left.zone.isSome = right.zone.isSome := by
        by_contra differ
        rw [relate, relateMoments_unordered_iff.mpr differ] at related
        cases related
      rw [isZoned_moment_iff, isZoned_moment_iff, same]
      refine ⟨Iff.rfl, fun unzoned => ?_⟩
      simpa [Orderly, Timescale.Contains] using unzoned

/-- What is comparable to a value and takes part in the order of its kind, with moments of one timescale,
is of one kind. -/
theorem exists_kind (scale : Timescale) (value : Value) : ∃ kind : OrderedKind,
    ∀ other, Comparable value other → other.Orderly scale → kind.Contains other := by
  cases value with
  | number =>
      refine ⟨.number, fun other alike orderly => ?_⟩
      cases alike
      obtain ⟨point, found⟩ := orderly
      exact .number found
  | text =>
      refine ⟨.text, fun other alike _ => ?_⟩
      cases alike
      exact .text
  | date =>
      refine ⟨.date, fun other alike _ => ?_⟩
      cases alike
      exact .date
  | moment =>
      refine ⟨.moment scale, fun other alike orderly => ?_⟩
      cases alike
      exact .moment orderly
  | null | boolean | object | list | map => exact ⟨.number, nofun⟩

end Value

/-- The order relation in which the extreme that an aggregation looks for is to every value. -/
def Aggregation.bound? : Aggregation → Option Relation
  | .min => some .atMost
  | .max => some .atLeast
  | .sum | .count => none

namespace Aggregate

/-- The values that take part in an aggregation. -/
def present (values : List Value) : List Value :=
  values.filter fun value => !value.isNull

/-- Whether the search for an extreme comes to two values that have no order. -/
def MeetsApart (aggregation : Aggregation) (values : List Value) : Prop :=
  ∃ value other, Attempts aggregation (present values) (.ordering value other) ∧ value.Apart other

/-- Whether there is an extreme that the language has in relation to all of the values. -/
def HasBound (aggregation : Aggregation) (bound : Relation) (decisionId : String)
    (values : List Value) : Prop :=
  ∃ found, aggregation.apply values decisionId = .ok found ∧ ∀ value ∈ present values,
    Value.compareWith (.relation bound) found value = .ok (.boolean true)

/-- What the extreme of values is if it follows the order of the language. -/
structure FollowsLanguage (aggregation : Aggregation) (bound : Relation) (decisionId : String)
    (values : List Value) : Prop where
  /-- There is one exactly if the language orders every two of the values. -/
  found_iff : (∃ found, aggregation.apply values decisionId = .ok found) ↔
    (present values).Pairwise Value.Comparable
  /-- It is one of the values, and the language has it in relation to all of them. -/
  bounds : ∀ found, aggregation.apply values decisionId = .ok found →
    found ∈ present values ∧ ∀ value ∈ present values,
      Value.compareWith (.relation bound) found value = .ok (.boolean true)
  /-- Otherwise an error tells that there is none. -/
  refused : ¬(present values).Pairwise Value.Comparable →
    ∃ error, aggregation.apply values decisionId = .error (.notAllowed error)

variable {aggregation : Aggregation} {relation bound : Relation} {decisionId : String}
  {first found : Value} {values rest : List Value}

theorem mem_present_iff {value : Value} :
    value ∈ present values ↔ value ∈ values ∧ value ≠ .null := by
  rw [present, List.mem_filter]
  cases value <;> simp [Value.isNull]

theorem exists_relation (bounded : aggregation.bound? = some bound) :
    ∃ relation, aggregation.relation? = some relation := by
  cases aggregation with
  | min | max => exact ⟨_, rfl⟩
  | sum | count => cases bounded

theorem findsExtreme_of_bound (bounded : aggregation.bound? = some bound) (decisionId : String) :
    FindsExtreme aggregation bound decisionId := by
  cases aggregation with
  | min => cases bounded; exact findsExtreme_min decisionId
  | max => cases bounded; exact findsExtreme_max decisionId
  | sum | count => cases bounded

theorem apply_eq_extremeOf (related : aggregation.relation? = some relation)
    (given : present values = first :: rest) :
    aggregation.apply values decisionId = extremeOf aggregation relation decisionId first rest := by
  unfold Aggregation.apply
  rw [← present, given]
  cases aggregation with
  | min | max => cases related; rfl
  | sum | count => cases related

theorem extremeOf_eq_ok_iff : extremeOf aggregation relation decisionId first rest = .ok found ↔
    extreme relation first rest = .ok found := by
  rw [extremeOf]
  rcases extreme relation first rest with (_ | _) | _ <;> simp

/-- An extreme is refused with an error exactly if the search comes to two values that have no order
and the values can be written. -/
theorem extremeOf_refused_iff (related : aggregation.relation? = some relation) :
    (∃ error, extremeOf aggregation relation decisionId first rest = .error (.notAllowed error)) ↔
      (∃ value other, Attempts aggregation (first :: rest) (.ordering value other) ∧
        value.Apart other) ∧ ∀ value ∈ first :: rest, ¬value.Unwritable := by
  have comes (value other : Value) : Attempts aggregation (first :: rest) (.ordering value other) ↔
      AttemptsExtreme relation first rest (.ordering value other) := by
    simp [attempts_extreme_iff related]
  simp only [comes, ← @Value.relate_unordered_iff relation, ← extreme_error_iff,
    ← @fail_told_iff decisionId (first :: rest) aggregation]
  rw [extremeOf]
  rcases extreme relation first rest with (_ | _) | _ <;> simp

theorem apply_refused_iff (bounded : aggregation.bound? = some bound)
    (nonempty : present values ≠ []) :
    (∃ error, aggregation.apply values decisionId = .error (.notAllowed error)) ↔
      MeetsApart aggregation values ∧ ∀ value ∈ values, ¬value.Unwritable := by
  obtain ⟨relation, related⟩ := exists_relation bounded
  obtain ⟨first, rest, given⟩ := List.exists_cons_of_ne_nil nonempty
  rw [apply_eq_extremeOf related given, extremeOf_refused_iff related, ← given, MeetsApart]
  refine and_congr_right fun _ => ?_
  simp only [mem_present_iff]
  constructor
  · intro writable value among unwritable
    refine writable value ⟨among, ?_⟩ unwritable
    cases unwritable <;> nofun
  · exact fun writable value among => writable value among.1

theorem apply_mem (bounded : aggregation.bound? = some bound) (nonempty : present values ≠ [])
    (given : aggregation.apply values decisionId = .ok found) : found ∈ present values := by
  obtain ⟨relation, related⟩ := exists_relation bounded
  obtain ⟨first, rest, taken⟩ := List.exists_cons_of_ne_nil nonempty
  rw [apply_eq_extremeOf related taken, extremeOf_eq_ok_iff] at given
  rw [taken]
  exact extreme_mem given

/-! ## Values of one kind -/

theorem pairwise_of_covers {kind : OrderedKind} (covers : kind.Covers values) :
    (present values).Pairwise Value.Comparable := by
  obtain ⟨members, given⟩ := covers.exists_members
  rw [present, ← given, List.pairwise_map]
  exact List.pairwise_of_forall fun left right => left.property.comparable right.property

/-- Values that are comparable to one value, with moments of one timescale, are of one kind. -/
theorem exists_covers (scale : Timescale) (value : Value)
    (alike : ∀ other ∈ present values, Value.Comparable value other)
    (orderly : ∀ other ∈ present values, other.Orderly scale) :
    ∃ kind : OrderedKind, kind.Covers values := by
  obtain ⟨kind, contains⟩ := value.exists_kind scale
  refine ⟨kind, fun other among => ?_⟩
  by_cases null : other = .null
  · exact .inl null
  · have shown := mem_present_iff.mpr ⟨among, null⟩
    exact .inr (contains other (alike other shown) (orderly other shown))

theorem followsLanguage_of_covers {kind : OrderedKind} (bounded : aggregation.bound? = some bound)
    (nonempty : present values ≠ []) (covers : kind.Covers values) :
    FollowsLanguage aggregation bound decisionId values := by
  have alike := pairwise_of_covers covers
  obtain ⟨found, given, _, bounds⟩ :=
    (findsExtreme_of_bound bounded decisionId).bounds kind values covers
  refine ⟨iff_of_true ⟨found, given⟩ alike, ?_, fun differ => absurd alike differ⟩
  intro other again
  cases given.symm.trans again
  have among := apply_mem bounded nonempty given
  refine ⟨among, fun value member => ?_⟩
  obtain ⟨member, present⟩ := mem_present_iff.mp member
  exact (bounds (mem_present_iff.mp among).2).2 value member present

theorem followsLanguage_of_apart (bounded : aggregation.bound? = some bound)
    (nonempty : present values ≠ []) (differ : ¬(present values).Pairwise Value.Comparable)
    (apart : MeetsApart aggregation values) (writable : ∀ value ∈ values, ¬value.Unwritable) :
    FollowsLanguage aggregation bound decisionId values := by
  obtain ⟨error, refused⟩ : ∃ error, aggregation.apply values decisionId =
      .error (.notAllowed error) := (apply_refused_iff bounded nonempty).mpr ⟨apart, writable⟩
  constructor
  · exact iff_of_false (by simp [refused]) differ
  · intro found given
    rw [refused] at given
    cases given
  · exact fun _ => ⟨error, refused⟩

/-- Moments with zones are all comparable, whether or not an extreme bounds them. -/
theorem followsLanguage_of_zoned (bounded : aggregation.bound? = some bound)
    (nonempty : present values ≠ []) (zoned : ∀ value ∈ present values, value.IsZoned)
    (hasBound : HasBound aggregation bound decisionId values) :
    FollowsLanguage aggregation bound decisionId values := by
  have alike : (present values).Pairwise Value.Comparable := by
    refine List.pairwise_of_forall_mem_list fun left inLeft right inRight => ?_
    obtain ⟨_⟩ := zoned left inLeft
    obtain ⟨_⟩ := zoned right inRight
    exact .moments
  obtain ⟨found, given, bounds⟩ := hasBound
  refine ⟨iff_of_true ⟨found, given⟩ alike, ?_, fun differ => absurd alike differ⟩
  intro other again
  cases given.symm.trans again
  exact ⟨apply_mem bounded nonempty given, bounds⟩

/-- An extreme that follows the language is one of values of one kind, or bounds moments with zones, or
there is none and the search comes to two values without an order. -/
theorem FollowsLanguage.classified
    (follows : FollowsLanguage aggregation bound decisionId values)
    (bounded : aggregation.bound? = some bound) (nonempty : present values ≠ []) :
    (∃ kind : OrderedKind, kind.Covers values) ∨
      (¬(present values).Pairwise Value.Comparable ∧ MeetsApart aggregation values ∧
        ∀ value ∈ values, ¬value.Unwritable) ∨
      (∀ value ∈ present values, value.IsZoned) ∧
        HasBound aggregation bound decisionId values := by
  by_cases alike : (present values).Pairwise Value.Comparable
  · obtain ⟨found, given⟩ := follows.found_iff.mpr alike
    have bounds := (follows.bounds found given).2
    by_cases zoned : found.IsZoned
    · refine .inr (.inr ⟨fun value among => ?_, found, given, bounds⟩)
      exact (Value.zoned_of_compareWith (bounds value among)).1.mp zoned
    · refine .inl (exists_covers (.clock none) found ?_ ?_)
      · exact fun value among => Value.comparable_of_compareWith (bounds value among)
      · intro value among
        obtain ⟨same, orderly⟩ := Value.zoned_of_compareWith (bounds value among)
        exact orderly (same.not.mp zoned)
  · exact .inr (.inl ⟨alike, (apply_refused_iff bounded nonempty).mp (follows.refused alike)⟩)

end Aggregate

/-! ## Plain values -/

namespace Value

/-- Whether aggregations treat a value as the language does: it is no boolean, no list, no not-a-number
and no object with a rank, a moment belongs to the timescale, and the value can be written. -/
structure Plain (scale : Timescale) (value : Value) : Prop where
  orderly : value.Orderly scale
  single : value.isBoolean = false ∧ value.family ≠ .list
  unranked : ∀ object, value = .object object → object.rank = none
  writable : ¬value.Unwritable

variable {scale : Timescale} {relation : Relation} {left right : Value}

/-- Plain values other than null are comparable or have no order. -/
theorem Plain.comparable_of_not_apart (first : left.Plain scale) (present : left ≠ .null)
    (second : right.Plain scale) (ordered : ¬Apart left right) : Comparable left right := by
  have same : left.family = right.family := by
    by_contra differ
    exact ordered (.families differ)
  have single := first.single
  have singleToo := second.single
  cases left with
  | null => exact absurd rfl present
  | boolean => cases single.1
  | list => exact absurd rfl single.2
  | number =>
      cases right with
      | number => exact .numbers
      | boolean => cases singleToo.1
      | null | text | date | moment | object | list | map => cases same
  | text =>
      cases right with
      | text => exact .texts
      | null | boolean | number | date | moment | object | list | map => cases same
  | date =>
      cases right with
      | date => exact .dates
      | null | boolean | number | text | moment | object | list | map => cases same
  | moment =>
      cases right with
      | moment => exact .moments
      | null | boolean | number | text | date | object | list | map => cases same
  | map =>
      cases right with
      | map => exact absurd .maps ordered
      | null | boolean | number | text | date | moment | object | list => cases same
  | object object =>
      cases right with
      | object => exact absurd (.objects (.inl (first.unranked object rfl))) ordered
      | null | boolean | number | text | date | moment | list | map => cases same

theorem Plain.not_meetsNotANumber (first : left.Plain scale) (second : right.Plain scale) :
    ¬MeetsNotANumber left right := by
  have defined {value : Value} {number : Number} (plain : value.Plain scale)
      (counts : value.counted? = some number) : ¬number.IsNotANumber := by
    obtain ⟨orderly, single, _, _⟩ := plain
    cases value with
    | number =>
        cases counts
        obtain ⟨point, found⟩ := orderly
        rw [← Number.extended?_eq_none_iff]
        intro none
        rw [Number.point?, none] at found
        cases found
    | boolean => simp [isBoolean] at single
    | null | text | date | moment | object | list | map => cases counts
  intro meets
  cases meets with
  | numbers counts countsToo unordered =>
      exact unordered.2.elim (defined first counts) (defined second countsToo)
  | signal | items | rest => exact first.single.2 rfl

theorem Plain.comparable_of_relate {holds : Bool} (first : left.Plain scale)
    (present : left ≠ .null) (second : right.Plain scale)
    (related : relate relation left right = .ok holds) : Comparable left right := by
  apply first.comparable_of_not_apart present second
  rw [← @relate_unordered_iff relation, related]
  nofun

end Value

namespace Aggregate

variable {aggregation : Aggregation} {relation bound : Relation} {decisionId : String}
  {first found : Value} {values rest : List Value} {scale : Timescale}

theorem extreme_ne_invalid (plain : ∀ value ∈ first :: rest, value.Plain scale) :
    extreme relation first rest ≠ .error .invalidDecimal := by
  intro failed
  induction rest generalizing first with
  | nil => cases failed
  | cons value rest ih =>
      obtain ⟨firstPlain, valuePlain, restPlain⟩ := by simpa only [List.forall_mem_cons] using plain
      rw [extreme, Except.bind_eq_error_iff] at failed
      rcases failed with failed | ⟨_ | _, _, failed⟩
      · exact valuePlain.not_meetsNotANumber firstPlain
          ((Value.relate_invalid_iff value first).mp failed)
      · exact ih (List.forall_mem_cons.mpr ⟨firstPlain, restPlain⟩) failed
      · exact ih (List.forall_mem_cons.mpr ⟨valuePlain, restPlain⟩) failed

/-- If the search for an extreme of plain values ends with one, every value is comparable to the
first. -/
theorem comparable_of_extreme (plain : ∀ value ∈ first :: rest, value.Plain scale ∧ value ≠ .null)
    (given : extreme relation first rest = .ok found) :
    ∀ value ∈ rest, Value.Comparable value first := by
  induction rest generalizing first with
  | nil => exact nofun
  | cons value rest ih =>
      obtain ⟨⟨firstPlain, firstPresent⟩, ⟨valuePlain, valuePresent⟩, restPlain⟩ := by
        simpa only [List.forall_mem_cons] using plain
      rw [extreme, Except.bind_eq_ok_iff] at given
      obtain ⟨holds, related, given⟩ := given
      have alike := valuePlain.comparable_of_relate valuePresent firstPlain related
      refine List.forall_mem_cons.mpr ⟨alike, ?_⟩
      cases holds with
      | false => exact ih (List.forall_mem_cons.mpr ⟨⟨firstPlain, firstPresent⟩, restPlain⟩) given
      | true =>
          intro other among
          have reached :=
            ih (List.forall_mem_cons.mpr ⟨⟨valuePlain, valuePresent⟩, restPlain⟩) given
          exact (reached other among).trans alike

theorem pairwise_of_comparable_first (alike : ∀ value ∈ rest, Value.Comparable value first) :
    (first :: rest).Pairwise Value.Comparable := by
  refine List.pairwise_cons.mpr ⟨fun value among => (alike value among).symm, ?_⟩
  exact List.pairwise_of_forall_mem_list fun left inLeft right inRight =>
    (alike left inLeft).trans (alike right inRight).symm

/-- The search for an extreme of plain values that are not all comparable comes to two of them that
have no order. -/
theorem meetsApart_of_plain (bounded : aggregation.bound? = some bound)
    (nonempty : present values ≠ []) (plain : ∀ value ∈ present values, value.Plain scale)
    (differ : ¬(present values).Pairwise Value.Comparable) : MeetsApart aggregation values := by
  obtain ⟨relation, related⟩ := exists_relation bounded
  obtain ⟨first, rest, given⟩ := List.exists_cons_of_ne_nil nonempty
  have shown (value : Value) (among : value ∈ first :: rest) : value ≠ .null :=
    (mem_present_iff.mp (given ▸ among)).2
  rw [given] at plain differ
  cases searched : extreme relation first rest with
  | ok found =>
      have alike := comparable_of_extreme
        (fun value among => ⟨plain value among, shown value among⟩) searched
      exact absurd (pairwise_of_comparable_first alike) differ
  | error fault =>
      obtain rfl | rfl := extreme_fault searched
      · exact absurd searched (extreme_ne_invalid plain)
      · obtain ⟨value, other, attempts, failed⟩ := extreme_error_iff.mp searched
        exact ⟨value, other, given ▸ .ordering related attempts,
          (Value.relate_unordered_iff value other).mp failed⟩

/-- Comparable plain values, of which there are at least two, are of one kind. -/
theorem exists_covers_of_plain (several : 2 ≤ (present values).length)
    (plain : ∀ value ∈ present values, value.Plain scale)
    (alike : (present values).Pairwise Value.Comparable) :
    ∃ kind : OrderedKind, kind.Covers values := by
  obtain ⟨first, second, rest, given⟩ : ∃ first second rest,
      present values = first :: second :: rest := by
    rcases taken : present values with _ | ⟨first, _ | ⟨second, rest⟩⟩
    · simp [taken] at several
    · simp [taken] at several
    · exact ⟨first, second, rest, rfl⟩
  rw [given, List.pairwise_cons] at alike
  have fromFirst : ∀ value ∈ present values, Value.Comparable first value := by
    rw [given]
    refine List.forall_mem_cons.mpr ⟨?_, alike.1⟩
    have next := alike.1 second List.mem_cons_self
    exact next.trans next.symm
  exact exists_covers scale first fromFirst fun value among => (plain value among).orderly

/-- The extreme of plain values follows the language, in whatever order they stand. -/
theorem followsLanguage_of_plain (bounded : aggregation.bound? = some bound)
    (several : 2 ≤ (present values).length) (plain : ∀ value ∈ present values, value.Plain scale) :
    FollowsLanguage aggregation bound decisionId values := by
  have nonempty : present values ≠ [] := List.ne_nil_of_length_pos (by omega)
  by_cases alike : (present values).Pairwise Value.Comparable
  · obtain ⟨kind, covers⟩ := exists_covers_of_plain several plain alike
    exact followsLanguage_of_covers bounded nonempty covers
  · refine followsLanguage_of_apart bounded nonempty alike
      (meetsApart_of_plain bounded nonempty plain alike) ?_
    intro value among
    by_cases null : value = .null
    · subst null
      nofun
    · exact (plain value (mem_present_iff.mpr ⟨among, null⟩)).writable

/-- The extreme of at least two values follows the order of the language exactly if they are of one
kind, or if the language does not order all of them, the search comes to two that have no order, and all
can be written, or if they are moments with zones and it bounds them. So it does among plain values. -/
theorem followsLanguage_iff (bounded : aggregation.bound? = some bound)
    (several : 2 ≤ (present values).length) :
    (FollowsLanguage aggregation bound decisionId values ↔
      (∃ kind : OrderedKind, kind.Covers values) ∨
        (¬(present values).Pairwise Value.Comparable ∧ MeetsApart aggregation values ∧
          ∀ value ∈ values, ¬value.Unwritable) ∨
        (∀ value ∈ present values, value.IsZoned) ∧
          HasBound aggregation bound decisionId values) ∧
      ∀ scale, (∀ value ∈ present values, value.Plain scale) →
        FollowsLanguage aggregation bound decisionId values := by
  have nonempty : present values ≠ [] := List.ne_nil_of_length_pos (by omega)
  refine ⟨⟨fun follows => follows.classified bounded nonempty, ?_⟩,
    fun _ plain => followsLanguage_of_plain bounded several plain⟩
  rintro (⟨kind, covers⟩ | ⟨differ, apart, writable⟩ | ⟨zoned, hasBound⟩)
  · exact followsLanguage_of_covers bounded nonempty covers
  · exact followsLanguage_of_apart bounded nonempty differ apart writable
  · exact followsLanguage_of_zoned bounded nonempty zoned hasBound

def truthAndOne : List Value := [.boolean true, .integer 1]

/-- The language does not order them, but there is a least one. -/
theorem truthAndOne_not_followsLanguage :
    Aggregation.min.bound? = some .atMost ∧ 2 ≤ (present truthAndOne).length ∧
      Aggregation.min.apply truthAndOne "d" = .ok (.boolean true) ∧
      ¬FollowsLanguage .min .atMost "d" truthAndOne := by
  have several : 2 ≤ (present truthAndOne).length := Nat.le_refl 2
  have given : Aggregation.min.apply truthAndOne "d" = .ok (.boolean true) := rfl
  refine ⟨rfl, several, given, ?_⟩
  rw [(followsLanguage_iff rfl several).1]
  rintro (⟨kind, covers⟩ | ⟨_, apart, writable⟩ | ⟨zoned, _⟩)
  · rcases covers (.boolean true) List.mem_cons_self with null | contained
    · cases null
    · cases contained
  · have nonempty : present truthAndOne ≠ [] := List.cons_ne_nil _ _
    obtain ⟨error, refused⟩ : ∃ error, Aggregation.min.apply truthAndOne "d" =
        .error (.notAllowed error) := (apply_refused_iff rfl nonempty).mpr ⟨apart, writable⟩
    cases given.symm.trans refused
  · cases zoned (.boolean true) List.mem_cons_self

end Aggregate

end DecisionTables
