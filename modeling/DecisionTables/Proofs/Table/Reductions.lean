import Mathlib.Data.List.MinMax
import Mathlib.Tactic.Order
import DecisionTables.Proofs.Table.Aggregates
import DecisionTables.Proofs.Table.Typing
import DecisionTables.Proofs.Value.Order

/-!
# What aggregations reduce to

Nulls do not count in any aggregation. The sum of integers is exact, so that it depends neither on
their order nor on how they are grouped. Values of one ordered kind have a key in a linear order,
and an extreme is the first value with the least key; the extreme of two lists is that of their
extremes. A sum of anything but numbers is refused, with an error that shows the values if they can
be written.
-/

namespace DecisionTables

/-! ## Values of one kind -/

/-- The kinds of values that have an order. The moments of a timescale are a kind. -/
inductive OrderedKind where
  | number
  | text
  | date
  | moment (scale : Timescale)

namespace OrderedKind

/-- The values of a kind. A not-a-number is none of them. -/
inductive Contains : OrderedKind → Value → Prop
  | number {value : Number} {point : Line} :
      value.point? = some point → Contains .number (.number value)
  | text {value : String} : Contains .text (.text value)
  | date {value : Date} : Contains .date (.date value)
  | moment {value : Moment} {scale : Timescale} :
      scale.Contains value → Contains (.moment scale) (.moment value)

/-- Whether values are of a kind, apart from nulls. -/
def Covers (kind : OrderedKind) (values : List Value) : Prop :=
  ∀ value ∈ values, value = .null ∨ kind.Contains value

/-- The timescale that the moments of a kind belong to. The other kinds have no moments, and go with any
timescale. -/
def scale : OrderedKind → Timescale
  | .moment scale => scale
  | _ => .universal

variable {kind : OrderedKind} {value left right : Value}

theorem Contains.orderly (contained : kind.Contains value) : value.Orderly kind.scale := by
  cases contained with
  | number found => exact ⟨_, found⟩
  | text | date => trivial
  | moment among => exact among

theorem Contains.comparable (first : kind.Contains left) (second : kind.Contains right) :
    Value.Comparable left right := by
  cases first <;> cases second <;> constructor

theorem Contains.isNull (contained : kind.Contains value) : value.isNull = false := by
  cases contained <;> rfl

abbrev Member (kind : OrderedKind) := { value : Value // kind.Contains value }

namespace Member

theorem exists_point (member : kind.Member) : ∃ point, member.val.orderPoint? kind.scale = some point :=
  (member.property.comparable member.property).exists_orderPoint member.property.orderly

/-- The point of a value in the order of its kind. -/
noncomputable def point (member : kind.Member) : OrderPoint := member.exists_point.choose

theorem ranked (left right : kind.Member) :
    Value.Ranked left.val right.val left.point right.point :=
  (left.property.comparable right.property).ranked left.property.orderly right.property.orderly
    left.exists_point.choose_spec right.exists_point.choose_spec

theorem relate_eq {relation : Relation} (left right : kind.Member) :
    left.val.relate relation right.val = .ok (decide (relation.On left.point right.point)) := by
  rw [(left.ranked right).related, Relation.holds_compare]

theorem compareWith_relation {relation : Relation} (left right : kind.Member) :
    Value.compareWith (.relation relation) left.val right.val =
      .ok (.boolean (decide (relation.On left.point right.point))) := by
  rw [(left.ranked right).compareWith_eq (left.property.comparable right.property),
    Relation.holds_compare]

theorem compareWith_equal (left right : kind.Member) :
    Value.compareWith .equal left.val right.val =
      .ok (.boolean (decide (left.point = right.point))) := by
  have same : (compare left.point right.point == .eq) = decide (left.point = right.point) := by
    rw [Bool.eq_iff_iff, beq_iff_eq, compare_eq_iff_eq, decide_eq_true_iff]
  rw [Value.compareWith_equal_iff, (left.ranked right).equal, same]

end Member

/-- Values of a kind and nulls are members of the kind once the nulls are left out. -/
theorem Covers.exists_members {values : List Value} (covers : kind.Covers values) :
    ∃ members : List kind.Member,
      members.map Subtype.val = values.filter fun value => !value.isNull := by
  have contained : ∀ value ∈ values.filter (fun value => !value.isNull), kind.Contains value := by
    intro value among
    obtain ⟨among, present⟩ := List.mem_filter.mp among
    obtain rfl | contained := covers value among
    · cases present
    · exact contained
  lift values.filter (fun value => !value.isNull) to List kind.Member using contained with members
  exact ⟨members, rfl⟩

end OrderedKind

namespace Aggregate

/-! ## Extremes -/

section Extremes

variable {kind : OrderedKind} {β : Type} [LinearOrder β] {relation bound : Relation}
  {key : kind.Member → β} {members : List kind.Member}

/-- How a key puts the values of a kind in order, so that what comes first in a relation has the
least key. -/
structure Keys (relation bound : Relation) (key : kind.Member → β) : Prop where
  precedes : ∀ value best : kind.Member,
    value.val.relate relation best.val = .ok (decide (key value < key best))
  bounds : ∀ best value : kind.Member, Value.compareWith (.relation bound) best.val value.val =
    .ok (.boolean (decide (key best ≤ key value)))
  equal : ∀ left right : kind.Member, Value.compareWith .equal left.val right.val =
    .ok (.boolean (decide (key left = key right)))

/-- The least of values has the least point. -/
theorem keys_less : Keys .less .atMost (@OrderedKind.Member.point kind) where
  precedes value best := value.relate_eq best
  bounds best value := best.compareWith_relation value
  equal left right := left.compareWith_equal right

/-- The greatest of values has the least point in the reversed order. -/
theorem keys_greater :
    Keys .greater .atLeast fun member : kind.Member => OrderDual.toDual member.point where
  precedes value best := value.relate_eq best
  bounds best value := best.compareWith_relation value
  equal left right := left.compareWith_equal right

/-- The first of two values, unless the second has a smaller key. -/
def firstLeast {α : Type} (key : α → β) (first second : α) : α :=
  if key second < key first then second else first

theorem firstLeast_assoc {α : Type} (key : α → β) (first second third : α) :
    firstLeast key (firstLeast key first second) third =
      firstLeast key first (firstLeast key second third) := by
  by_cases before : key second < key first <;> by_cases behind : key third < key second
  · simp only [firstLeast, before, behind, behind.trans before, if_true]
  · simp only [firstLeast, before, behind, if_true, if_false]
  · simp only [firstLeast, before, behind, if_true, if_false]
  · have later : ¬key third < key first := by order
    simp only [firstLeast, before, behind, later, if_false]

theorem argmin_cons_eq {α : Type} (key : α → β) (first : α) (values : List α) :
    List.argmin key (first :: values) =
      some ((List.argmin key values).elim first (firstLeast key first)) := by
  rw [List.argmin_cons]
  cases List.argmin key values with
  | none => rfl
  | some value => exact (apply_ite some _ _ _).symm

/-- The first value with the least key among two lists is that among the first of either. -/
theorem argmin_append {α : Type} (key : α → β) (values others : List α) :
    List.argmin key (values ++ others) = List.argmin key
      ((List.argmin key values).toList ++ (List.argmin key others).toList) := by
  induction values with
  | nil =>
      rw [List.nil_append, List.argmin_nil, Option.toList_none, List.nil_append]
      cases List.argmin key others <;> rfl
  | cons first values ih =>
      rw [List.cons_append, argmin_cons_eq, ih, argmin_cons_eq]
      cases List.argmin key values with
      | none =>
          cases List.argmin key others with
          | none => rfl
          | some other => exact (argmin_cons_eq key first [other]).symm
      | some value =>
          cases List.argmin key others with
          | none => rfl
          | some other =>
              simp only [Option.toList_some, List.cons_append, List.nil_append, argmin_cons_eq,
                List.argmin_nil, Option.elim_none, Option.elim_some, firstLeast_assoc]

/-- The search for an extreme finds the first value with the least key. -/
theorem extreme_members (keys : Keys relation bound key) (best : kind.Member) :
    ∃ found, List.argmin key (best :: members) = some found ∧
      extreme relation best.val (members.map Subtype.val) = .ok found.val := by
  induction members generalizing best with
  | nil => exact ⟨best, rfl, rfl⟩
  | cons value members ih =>
      have step : List.argmin key (best :: value :: members) =
          List.argmin key (firstLeast key best value :: members) := by
        simp only [argmin_cons_eq, Option.elim_some]
        cases List.argmin key members with
        | none => rfl
        | some other => simp only [Option.elim_some, firstLeast_assoc]
      rw [step, List.map_cons, extreme, keys.precedes, Except.ok_bind]
      by_cases less : key value < key best
      · simpa [firstLeast, less] using ih value
      · simpa [firstLeast, less] using ih best

variable {aggregation : Aggregation} {decisionId : String} {values others : List Value}

/-- An aggregation that looks for an extreme finds the first value with the least key. -/
theorem apply_members (related : aggregation.relation? = some relation)
    (keys : Keys relation bound key)
    (given : members.map Subtype.val = values.filter fun value => !value.isNull) :
    aggregation.apply values decisionId =
      .ok ((List.argmin key members).elim .null Subtype.val) := by
  unfold Aggregation.apply
  rw [← given]
  cases members with
  | nil =>
      cases aggregation with
      | sum | count => cases related
      | min | max => rfl
  | cons best members =>
      obtain ⟨found, least, searched⟩ := @extreme_members _ _ _ _ _ _ members keys best
      rw [least]
      cases aggregation with
      | sum | count => cases related
      | min | max =>
          cases related
          simp only [List.map_cons, extremeOf, searched, Option.elim_some]

theorem mem_members_iff (given : members.map Subtype.val = values.filter fun value => !value.isNull)
    (value : Value) : value ∈ members.map Subtype.val ↔ value ∈ values ∧ value ≠ .null := by
  rw [given, List.mem_filter]
  cases value <;> simp [Value.isNull]

/-- The value found, or null if there is none, is the only one that may take part again. -/
theorem filter_elim (found : Option kind.Member) :
    ([found.elim .null Subtype.val].filter fun value => !value.isNull) =
      found.toList.map Subtype.val := by
  cases found with
  | none => rfl
  | some member => simp [member.property.isNull]

/-- An extreme is null if all values are, and otherwise one of them that bounds the others. -/
theorem apply_bounds (related : aggregation.relation? = some relation)
    (keys : Keys relation bound key) (covers : kind.Covers values) :
    ∃ found, aggregation.apply values decisionId = .ok found ∧
      (found = .null ↔ ∀ value ∈ values, value = .null) ∧
      (found ≠ .null → found ∈ values ∧ ∀ value ∈ values, value ≠ .null →
        Value.compareWith (.relation bound) found value = .ok (.boolean true)) := by
  obtain ⟨members, given⟩ := covers.exists_members
  refine ⟨_, apply_members related keys given, ?_⟩
  cases least : List.argmin key members with
  | none =>
      rw [List.argmin_eq_none] at least
      subst least
      refine ⟨iff_of_true rfl fun value among => ?_, fun present => absurd rfl present⟩
      by_contra present
      cases (mem_members_iff given value).mpr ⟨among, present⟩
  | some found =>
      obtain ⟨among, present⟩ := (mem_members_iff given found.val).mp
        (List.mem_map_of_mem (List.argmin_mem least))
      refine ⟨iff_of_false present fun all => present (all _ among), fun _ => ⟨among, ?_⟩⟩
      intro value among present
      obtain ⟨other, member, rfl⟩ :=
        List.mem_map.mp ((mem_members_iff given value).mpr ⟨among, present⟩)
      rw [Option.elim_some, keys.bounds, decide_eq_true (List.le_of_mem_argmin member least)]

theorem apply_perm (related : aggregation.relation? = some relation)
    (keys : Keys relation bound key) (covers : kind.Covers values) (perm : others.Perm values) :
    ∃ found other, aggregation.apply values decisionId = .ok found ∧
      aggregation.apply others decisionId = .ok other ∧
      Value.compareWith .equal other found = .ok (.boolean true) := by
  obtain ⟨members, given⟩ := covers.exists_members
  have otherCovers : kind.Covers others := fun value among => covers value (perm.mem_iff.mp among)
  obtain ⟨moved, otherGiven⟩ := otherCovers.exists_members
  have same : moved.Perm members := by
    rw [← List.map_perm_map_iff Subtype.val_injective, given, otherGiven]
    exact perm.filter _
  refine ⟨_, _, apply_members related keys given, apply_members related keys otherGiven, ?_⟩
  cases least : List.argmin key members with
  | none =>
      rw [List.argmin_eq_none] at least
      subst least
      rw [same.eq_nil]
      rfl
  | some found =>
      cases otherLeast : List.argmin key moved with
      | none =>
          rw [List.argmin_eq_none] at otherLeast
          subst otherLeast
          cases same.symm.eq_nil ▸ List.argmin_mem least
      | some other =>
          -- Each of the two bounds the other, because both lists hold both.
          have below := List.le_of_mem_argmin (same.mem_iff.mpr (List.argmin_mem least)) otherLeast
          have above := List.le_of_mem_argmin (same.mem_iff.mp (List.argmin_mem otherLeast)) least
          rw [Option.elim_some, Option.elim_some, keys.equal,
            decide_eq_true (le_antisymm below above)]

theorem apply_append (related : aggregation.relation? = some relation)
    (keys : Keys relation bound key) (covers : kind.Covers (values ++ others)) :
    ∃ left right whole, aggregation.apply values decisionId = .ok left ∧
      aggregation.apply others decisionId = .ok right ∧
      aggregation.apply (values ++ others) decisionId = .ok whole ∧
      aggregation.apply [left, right] decisionId = .ok whole := by
  obtain ⟨left, right⟩ := List.forall_mem_append.mp covers
  obtain ⟨members, given⟩ := OrderedKind.Covers.exists_members left
  obtain ⟨moved, otherGiven⟩ := OrderedKind.Covers.exists_members right
  have whole : (members ++ moved).map Subtype.val =
      (values ++ others).filter fun value => !value.isNull := by
    rw [List.map_append, given, otherGiven, List.filter_append]
  have reduced : ((List.argmin key members).toList ++
      (List.argmin key moved).toList).map Subtype.val =
        [(List.argmin key members).elim .null Subtype.val,
          (List.argmin key moved).elim .null Subtype.val].filter fun value => !value.isNull := by
    rw [List.map_append, ← filter_elim, ← filter_elim, ← List.filter_append]
    rfl
  refine ⟨_, _, _, apply_members related keys given, apply_members related keys otherGiven,
    apply_members related keys whole, ?_⟩
  rw [argmin_append]
  exact apply_members related keys reduced

/-- What an aggregation does that looks for an extreme among values of one kind. -/
structure FindsExtreme (aggregation : Aggregation) (bound : Relation) (decisionId : String) :
    Prop where
  /-- Without a value other than null it is null. Otherwise it is one of the values, and is in
  relation to every value other than null. -/
  bounds : ∀ (kind : OrderedKind) values, kind.Covers values →
    ∃ found, aggregation.apply values decisionId = .ok found ∧
      (found = .null ↔ ∀ value ∈ values, value = .null) ∧
      (found ≠ .null → found ∈ values ∧ ∀ value ∈ values, value ≠ .null →
        Value.compareWith (.relation bound) found value = .ok (.boolean true))
  /-- In another order the values have an equal extreme. -/
  permuted : ∀ (kind : OrderedKind) values others, kind.Covers values → others.Perm values →
    ∃ found other, aggregation.apply values decisionId = .ok found ∧
      aggregation.apply others decisionId = .ok other ∧
      Value.compareWith .equal other found = .ok (.boolean true)
  /-- The extreme of two lists is that of their extremes. -/
  appended : ∀ (kind : OrderedKind) values others, kind.Covers (values ++ others) →
    ∃ left right whole, aggregation.apply values decisionId = .ok left ∧
      aggregation.apply others decisionId = .ok right ∧
      aggregation.apply (values ++ others) decisionId = .ok whole ∧
      aggregation.apply [left, right] decisionId = .ok whole

theorem findsExtreme_min (decisionId : String) : FindsExtreme .min .atMost decisionId where
  bounds _ _ covers := apply_bounds rfl keys_less covers
  permuted _ _ _ covers perm := apply_perm rfl keys_less covers perm
  appended _ _ _ covers := apply_append rfl keys_less covers

theorem findsExtreme_max (decisionId : String) : FindsExtreme .max .atLeast decisionId where
  bounds _ _ covers := apply_bounds rfl keys_greater covers
  permuted _ _ _ covers perm := apply_perm rfl keys_greater covers perm
  appended _ _ _ covers := apply_append rfl keys_greater covers

end Extremes

/-! ## Sums -/

section Sums

variable {decisionId : String} {values others : List Value}

def whole? : Value → Option Int
  | .number (.integer whole) => some whole
  | _ => none

def wholes (values : List Value) : List Int :=
  values.filterMap whole?

/-- What a sum stands for in a further sum, where null stands for zero. -/
def amount (sum : Value) : Int :=
  (whole? sum).getD 0

def OnlyWholes (values : List Value) : Prop :=
  ∀ value ∈ values, value = .null ∨ ∃ whole, value = .integer whole

theorem OnlyWholes.filter_eq (only : OnlyWholes values) :
    (values.filter fun value => !value.isNull) = (wholes values).map Value.integer := by
  induction values with
  | nil => rfl
  | cons first rest ih =>
      obtain ⟨first, others⟩ := List.forall_mem_cons.mp only
      obtain rfl | ⟨whole, rfl⟩ := first
      · exact ih others
      · exact congrArg (Value.integer whole :: ·) (ih others)

theorem numbers?_wholes (wholes : List Int) :
    numbers? (wholes.map Value.integer) = some (wholes.map Number.integer) := by
  induction wholes with
  | nil => rfl
  | cons first rest ih => exact congrArg (Option.map (Number.integer first :: ·)) ih

/-- Integers are added exactly. -/
theorem total_wholes (start : Int) (wholes : List Int) :
    total (.integer start) (wholes.map Number.integer) = .ok (.integer (start + wholes.sum)) := by
  induction wholes generalizing start with
  | nil => exact congrArg (Except.ok ∘ Number.integer) (Int.add_zero start).symm
  | cons first rest ih =>
      have added : (Number.integer start).accumulate (.integer first) =
          .ok (.integer (start + first)) := rfl
      rw [List.map_cons, total, added, Except.ok_bind, ih, List.sum_cons, Int.add_assoc]

theorem sum_wholes (wholes : List Int) :
    sum (wholes.map Number.integer) = .ok (.integer wholes.sum) := by
  have binary : (wholes.map Number.integer).any Number.isDecimal = false := by
    simp [Number.isDecimal]
  rw [sum, addends, binary, Bool.false_and, if_neg Bool.false_ne_true, Except.ok_bind, total_wholes,
    Int.zero_add]

/-- The sum of integers and nulls. -/
theorem OnlyWholes.apply_sum (only : OnlyWholes values) (decisionId : String) :
    Aggregation.sum.apply values decisionId =
      .ok (if wholes values = [] then .null else .integer (wholes values).sum) := by
  unfold Aggregation.apply
  rw [only.filter_eq]
  cases wholes values with
  | nil => rfl
  | cons first rest =>
      have all := numbers?_wholes (first :: rest)
      rw [List.map_cons] at all ⊢
      simp only [all, sum_wholes]
      rfl

theorem mem_wholes_iff {whole : Int} : whole ∈ wholes values ↔ Value.integer whole ∈ values := by
  have same (value : Value) : whole? value = some whole ↔ value = .integer whole := by
    cases value with
    | number number => cases number <;> simp [whole?, Value.integer]
    | _ => simp [whole?, Value.integer]
  simp only [wholes, List.mem_filterMap, same, exists_eq_right]

/-- The sum of integers and nulls is null without an integer, and otherwise exact. -/
theorem OnlyWholes.exists_sum (only : OnlyWholes values) (decisionId : String) :
    ∃ sum, Aggregation.sum.apply values decisionId = .ok sum ∧
      (sum = .null ↔ ∀ whole, Value.integer whole ∉ values) ∧
      (sum ≠ .null → sum = .integer (wholes values).sum) := by
  refine ⟨_, only.apply_sum decisionId, ?_⟩
  simp only [← mem_wholes_iff]
  cases wholes values with
  | nil => exact ⟨iff_of_true rfl nofun, fun present => absurd rfl present⟩
  | cons first rest =>
      exact ⟨iff_of_false nofun fun none => none first List.mem_cons_self, fun _ => rfl⟩

theorem OnlyWholes.apply_perm (only : OnlyWholes values) (perm : others.Perm values)
    (decisionId : String) :
    Aggregation.sum.apply others decisionId = Aggregation.sum.apply values decisionId := by
  have otherOnly : OnlyWholes others := fun value among => only value (perm.mem_iff.mp among)
  have moved : (wholes others).Perm (wholes values) := perm.filterMap whole?
  have empty : wholes others = [] ↔ wholes values = [] :=
    ⟨fun none => (none ▸ moved).symm.eq_nil, fun none => (none ▸ moved).eq_nil⟩
  rw [only.apply_sum, otherOnly.apply_sum, moved.sum_eq]
  simp only [empty]

/-- Null stands for zero where sums are added. -/
theorem amount_sum (wholes : List Int) :
    amount (if wholes = [] then .null else .integer wholes.sum) = wholes.sum := by
  cases wholes <;> rfl

theorem OnlyWholes.apply_append (only : OnlyWholes (values ++ others)) (decisionId : String) :
    ∃ left right whole, Aggregation.sum.apply values decisionId = .ok left ∧
      Aggregation.sum.apply others decisionId = .ok right ∧
      Aggregation.sum.apply (values ++ others) decisionId = .ok whole ∧
      amount whole = amount left + amount right := by
  obtain ⟨left, right⟩ := List.forall_mem_append.mp only
  refine ⟨_, _, _, OnlyWholes.apply_sum left decisionId, OnlyWholes.apply_sum right decisionId,
    only.apply_sum decisionId, ?_⟩
  simp only [amount_sum]
  rw [wholes, List.filterMap_append, List.sum_append]
  rfl

theorem numbers?_eq_none (refused : ∃ value ∈ values, value.isNumber = false) :
    numbers? values = none := by
  obtain ⟨value, among, other⟩ := refused
  cases all : numbers? values with
  | none => rfl
  | some numbers =>
      rw [numbers?_eq_some all] at among
      obtain ⟨number, _, rfl⟩ := List.mem_map.mp among
      cases other

/-- Values of which one is no number are refused. -/
theorem apply_sum_refused (decisionId : String)
    (refused : ∃ value ∈ values, value ≠ .null ∧ value.isNumber = false) :
    Aggregation.sum.apply values decisionId =
      .error (fail .sum decisionId (values.filter fun value => !value.isNull)) := by
  obtain ⟨value, among, present, other⟩ := refused
  have shown : value.isNull = false := by
    cases value <;> first | rfl | exact absurd rfl present
  have member : value ∈ values.filter fun value => !value.isNull := by
    rw [List.mem_filter, shown]
    exact ⟨among, rfl⟩
  have none := numbers?_eq_none ⟨value, member, other⟩
  unfold Aggregation.apply
  generalize (values.filter fun value => !value.isNull) = taken at member none ⊢
  cases taken with
  | nil => cases member
  | cons first rest => simp only [none]

/-- A failure shows the values, unless one of them cannot be written. -/
theorem fail_told_iff {aggregation : Aggregation} :
    (∃ error, fail aggregation decisionId values = .notAllowed error) ↔
      ∀ value ∈ values, ¬value.Unwritable := by
  have writes : Value.Unwritable (.list values) ↔ ∃ value ∈ values, value.Unwritable := by
    constructor
    · intro unwritable
      cases unwritable with
      | item among unwritable => exact ⟨_, among, unwritable⟩
    · rintro ⟨value, among, unwritable⟩
      exact .item among unwritable
  have untold : (∃ error, fail aggregation decisionId values = .notAllowed error) ↔
      ¬Value.Unwritable (.list values) := by
    rw [← Value.breaks_quoted_iff, fail]
    cases (Value.list values).quoted with
    | ok quoted => exact iff_of_true ⟨_, rfl⟩ not_breaks_ok
    | error fault =>
        refine iff_of_false ?_ (not_not_intro breaks_fault)
        intro told
        obtain ⟨_, impossible⟩ := told
        cases impossible
  rw [untold, writes]
  push Not
  rfl

theorem fail_eq_notAllowed {aggregation : Aggregation} {error : AggregationError}
    (told : fail aggregation decisionId values = .notAllowed error) :
    error.aggregation = aggregation ∧ error.decisionId = decisionId ∧
      (Value.list values).quoted = .ok error.quoted := by
  rw [fail] at told
  cases written : (Value.list values).quoted with
  | ok quoted =>
      rw [written] at told
      cases told
      exact ⟨rfl, rfl, rfl⟩
  | error fault =>
      rw [written] at told
      cases told

end Sums

/-! ## The laws -/

/-- What aggregations do with lists of values. -/
structure AggregationLaws (decisionId : String) : Prop where
  /-- Nulls make no difference, wherever they stand. -/
  nulls : ∀ (aggregation : Aggregation) values others,
    (values.filter fun value => !value.isNull) = (others.filter fun value => !value.isNull) →
    aggregation.apply values decisionId = aggregation.apply others decisionId
  /-- A count counts the values other than null. -/
  count : ∀ values, Aggregation.count.apply values decisionId =
    .ok (.integer (values.countP fun value => !value.isNull))
  /-- There is no sum if one of the values is neither null nor a number. -/
  sum_refused : ∀ values, (∃ value ∈ values, value ≠ .null ∧ value.isNumber = false) →
    ∃ failure, Aggregation.sum.apply values decisionId = .error failure
  /-- The error then tells so, exactly if all of the values can be written. -/
  sum_told_iff : ∀ values, (∃ value ∈ values, value ≠ .null ∧ value.isNumber = false) →
    ((∃ error, Aggregation.sum.apply values decisionId = .error (.notAllowed error)) ↔
      ∀ value ∈ values, ¬value.Unwritable)
  /-- Such an error shows the values other than null. -/
  sum_told : ∀ values error, (∃ value ∈ values, value ≠ .null ∧ value.isNumber = false) →
    Aggregation.sum.apply values decisionId = .error (.notAllowed error) →
    error.aggregation = .sum ∧ error.decisionId = decisionId ∧
      (Value.list (values.filter fun value => !value.isNull)).quoted = .ok error.quoted
  /-- The sum of integers is exact, and null if there is none. -/
  sum_exact : ∀ values, OnlyWholes values →
    ∃ sum, Aggregation.sum.apply values decisionId = .ok sum ∧
      (sum = .null ↔ ∀ whole, Value.integer whole ∉ values) ∧
      (sum ≠ .null → sum = .integer (wholes values).sum)
  /-- It does not depend on the order of the integers. -/
  sum_permuted : ∀ values others, OnlyWholes values → others.Perm values →
    Aggregation.sum.apply others decisionId = Aggregation.sum.apply values decisionId
  /-- The sum of two lists is that of their sums, where null stands for zero. -/
  sum_appended : ∀ values others, OnlyWholes (values ++ others) →
    ∃ left right whole, Aggregation.sum.apply values decisionId = .ok left ∧
      Aggregation.sum.apply others decisionId = .ok right ∧
      Aggregation.sum.apply (values ++ others) decisionId = .ok whole ∧
      amount whole = amount left + amount right
  /-- The least value. -/
  least : FindsExtreme .min .atMost decisionId
  /-- The greatest value. -/
  greatest : FindsExtreme .max .atLeast decisionId

theorem aggregationLaws (decisionId : String) : AggregationLaws decisionId := by
  constructor
  · intro aggregation values others same
    unfold Aggregation.apply
    rw [same]
  · intro values
    rw [List.countP_eq_length_filter]
    rfl
  · exact fun values refused => ⟨_, apply_sum_refused decisionId refused⟩
  · intro values refused
    simp only [apply_sum_refused decisionId refused, Except.error.injEq, fail_told_iff]
    constructor
    · intro writable value among unwritable
      refine writable value (List.mem_filter.mpr ⟨among, ?_⟩) unwritable
      cases unwritable <;> rfl
    · exact fun writable value among => writable value (List.mem_of_mem_filter among)
  · intro values error refused told
    rw [apply_sum_refused decisionId refused, Except.error.injEq] at told
    exact fail_eq_notAllowed told
  · exact fun values only => only.exists_sum decisionId
  · exact fun values others only perm => only.apply_perm perm decisionId
  · exact fun values others only => only.apply_append decisionId
  · exact findsExtreme_min decisionId
  · exact findsExtreme_max decisionId

/-- An integer that is too long to be written, and a truth value that cannot be added to it. -/
def untold : List Value :=
  [.integer (10 ^ Numeral.maxDigits : Nat), .boolean true]

/-- That they cannot be added is not told. -/
theorem untold_refused :
    (∃ failure, Aggregation.sum.apply untold "d" = .error failure) ∧
      ¬∃ error, Aggregation.sum.apply untold "d" = .error (.notAllowed error) := by
  have refused (whole : Int) : ∃ value ∈ [Value.integer whole, .boolean true],
      value ≠ .null ∧ value.isNumber = false :=
    ⟨.boolean true, by simp, nofun, rfl⟩
  have unwritable (whole : Int) (long : 10 ^ Numeral.maxDigits ≤ whole.natAbs) :
      ¬∃ error, Aggregation.sum.apply [.integer whole, .boolean true] "d" =
        .error (.notAllowed error) := by
    rw [(aggregationLaws "d").sum_told_iff _ (refused whole)]
    exact fun writable => writable _ List.mem_cons_self (.integer long)
  exact ⟨(aggregationLaws "d").sum_refused _ (refused _), unwritable _ (Int.natAbs_natCast _).ge⟩

end Aggregate

end DecisionTables
