import Mathlib.Data.List.Perm.Subperm
import DecisionTables.Proofs.Calendar.Zone
import DecisionTables.Proofs.Number.Exact
import DecisionTables.Proofs.Outcome

/-!
# Plain equality is an equivalence where it holds

Plain equality is written as a program on pairs of values. Here it is read as a relation: scalar
values are equal if they have the same atom, lists if their items match, and maps if they have the
same number of members and those of one match those of the other. The relation is symmetric and
transitive on values whose maps have distinct names, across numbers of all kinds and booleans. It is
not reflexive, since a not-a-number that was computed does not even equal itself, and the program has
no answer where it meets a signaling one.
-/

namespace DecisionTables

/-! ## Relations item by item -/

section Items

variable {α : Type} {Related : α → α → Prop} {lefts middles rights : List α}

/-- A relation that can be turned round at the items of a list can be so item by item. -/
theorem forall₂_symm_of (symm : ∀ item ∈ lefts, ∀ other, Related item other → Related other item)
    (related : List.Forall₂ Related lefts rights) : List.Forall₂ Related rights lefts := by
  refine List.Forall₂.flip (((List.forall₂_and_left _ _).mpr ⟨symm, related⟩).imp ?_)
  intro item other both
  exact both.1 other both.2

/-- A relation that can be continued from the items of a list can be so item by item. -/
theorem forall₂_trans_of
    (trans : ∀ item ∈ lefts, ∀ middle right, Related item middle → Related middle right →
      Related item right)
    (first : List.Forall₂ Related lefts middles) (second : List.Forall₂ Related middles rights) :
    List.Forall₂ Related lefts rights := by
  induction first generalizing rights with
  | nil => exact second
  | cons related _ ih =>
      cases second with
      | cons next others =>
          refine .cons (trans _ List.mem_cons_self _ _ related next) ?_
          exact ih (fun item among => trans item (List.mem_cons_of_mem _ among)) others

end Items

/-! ## Distinct names -/

namespace Bindings

variable {bindings : Bindings} {name : String} {value : Value}

theorem mem_of_get? (found : bindings.get? name = some value) : (name, value) ∈ bindings := by
  obtain ⟨⟨other, _⟩, first, rfl⟩ := Option.map_eq_some_iff.mp found
  obtain rfl : other = name := by simpa using List.find?_some first
  exact List.mem_of_find?_eq_some first

theorem get?_of_distinct (distinct : (bindings.map Prod.fst).Nodup)
    (member : (name, value) ∈ bindings) : bindings.get? name = some value := by
  induction bindings with
  | nil => cases member
  | cons first rest ih =>
      rw [List.map_cons, List.nodup_cons] at distinct
      cases member with
      | head => simp [get?]
      | tail _ later =>
          have other : first.1 ≠ name := by
            intro same
            exact distinct.1 (same ▸ List.mem_map_of_mem later)
          simpa [get?, List.find?_cons, other] using ih distinct.2 later

end Bindings

namespace Value

/-- Whether no two members of a map have the same name, in the value and in all its parts. -/
inductive WellNamed : Value → Prop
  | null : WellNamed .null
  | boolean {value : Bool} : WellNamed (.boolean value)
  | number {value : Number} : WellNamed (.number value)
  | text {value : String} : WellNamed (.text value)
  | date {value : Date} : WellNamed (.date value)
  | moment {value : Moment} : WellNamed (.moment value)
  | object {value : Object} : WellNamed (.object value)
  | list {items : List Value} : (∀ item ∈ items, item.WellNamed) → WellNamed (.list items)
  | map {members : Bindings} :
      (members.map Prod.fst).Nodup → (∀ member ∈ members, member.2.WellNamed) →
      WellNamed (.map members)

/-! ## Equality as a relation -/

/-- The point of a number, and of a boolean as the number that it counts as. -/
def point? : Value → Option Line
  | .boolean value => (countOf value).point?
  | .number value => value.point?
  | _ => none

def ItemsMatch (lefts rights : List Value) : Prop :=
  List.Forall₂ (fun left right => matchesMember left right = .ok true) lefts rights

/-- Whether every member of a map matches the member of the same name in another. -/
def MembersMatch (left right : Bindings) : Prop :=
  ∀ member ∈ left, ∃ value, right.get? member.1 = some value ∧
    matchesMember member.2 value = .ok true

/-- Plain equality as a relation. -/
inductive Equal : Value → Value → Prop
  | null : Equal .null .null
  | number {left right : Value} {point : Line} :
      left.point? = some point → right.point? = some point → Equal left right
  | text {value : String} : Equal (.text value) (.text value)
  | date {value : Date} : Equal (.date value) (.date value)
  | moment {left right : Moment} :
      left.equal right = true → Equal (.moment left) (.moment right)
  | object {left right : Object} :
      left.identity = right.identity → Equal (.object left) (.object right)
  | list {lefts rights : List Value} :
      ItemsMatch lefts rights → Equal (.list lefts) (.list rights)
  | map {left right : Bindings} :
      left.length = right.length → MembersMatch left right → Equal (.map left) (.map right)

/-- One comparison after another, of which the second is only made if the first holds. -/
theorem bind_guard_eq_true_iff {ε : Type} {first second : Except ε Bool} :
    (first >>= fun same => if same then second else .ok false) = .ok true ↔
      first = .ok true ∧ second = .ok true := by
  rcases first with error | _ | _
  all_goals simp

theorem itemsEqual_cons {left right : Value} {lefts rights : List Value} :
    itemsEqual (left :: lefts) (right :: rights) =
      matchesMember left right >>= fun same => if same then itemsEqual lefts rights else .ok false := by
  rw [itemsEqual, matchesMember]
  split <;> rfl

/-- Whether a member of a map matches the one of its name in another map. -/
def matchesNamed (rights : Bindings) (name : String) (left : Value) : Except Fault Bool :=
  match rights.get? name with
  | some right => matchesMember left right
  | none => .ok false

theorem membersEqual_cons {name : String} {left : Value} {lefts rights : Bindings} :
    membersEqual ((name, left) :: lefts) rights =
      matchesNamed rights name left >>= fun same =>
        if same then membersEqual lefts rights else .ok false := by
  rw [membersEqual, matchesNamed]
  cases rights.get? name with
  | none => rfl
  | some right =>
      simp only [matchesMember]
      split <;> rfl

theorem itemsEqual_iff {lefts rights : List Value} :
    itemsEqual lefts rights = .ok true ↔ ItemsMatch lefts rights := by
  induction lefts generalizing rights with
  | nil => cases rights <;> simp [itemsEqual, ItemsMatch]
  | cons left lefts ih =>
      cases rights with
      | nil => simp [itemsEqual, ItemsMatch]
      | cons right rights =>
          rw [itemsEqual_cons, bind_guard_eq_true_iff, ih, ItemsMatch, ItemsMatch, List.forall₂_cons]

theorem membersEqual_iff {left right : Bindings} :
    membersEqual left right = .ok true ↔ MembersMatch left right := by
  induction left with
  | nil => simp [membersEqual, MembersMatch]
  | cons member rest ih =>
      obtain ⟨name, value⟩ := member
      rw [membersEqual_cons, bind_guard_eq_true_iff, ih, MembersMatch, MembersMatch,
        List.forall_mem_cons]
      refine and_congr_left fun _ => ?_
      rw [matchesNamed]
      cases right.get? name with
      | none => simp
      | some other => simp

/-- Values that count as numbers are equal exactly if they have the same point. -/
theorem plainEqual_of_point {left right : Value} {point : Line} (leftPoint : left.point? = some point)
    (rightPoint : right.point? = some point) : plainEqual left right = .ok true := by
  cases left with
  | boolean left =>
      cases right with
      | boolean right =>
          have equal : (countOf left).equal (countOf right) = true :=
            Number.equal_iff.mpr ⟨point, leftPoint, rightPoint⟩
          cases left <;> cases right <;> first | rfl | cases equal
      | number right => exact Number.equality_eq_true_iff.mpr ⟨point, leftPoint, rightPoint⟩
      | null | text | date | moment | object | list | map => cases rightPoint
  | number left =>
      cases right with
      | boolean right | number right =>
          exact Number.equality_eq_true_iff.mpr ⟨point, leftPoint, rightPoint⟩
      | null | text | date | moment | object | list | map => cases rightPoint
  | null | text | date | moment | object | list | map => cases leftPoint

theorem plainEqual_iff {left right : Value} :
    plainEqual left right = .ok true ↔ Equal left right := by
  constructor
  · intro equal
    unfold plainEqual at equal
    split at equal
    · exact .null
    · obtain rfl := beq_iff_eq.mp (Except.ok.inj equal)
      exact .number rfl rfl
    · obtain ⟨point, leftPoint, rightPoint⟩ := Number.equality_eq_true_iff.mp equal
      exact .number leftPoint rightPoint
    · obtain ⟨point, leftPoint, rightPoint⟩ := Number.equality_eq_true_iff.mp equal
      exact .number leftPoint rightPoint
    · obtain ⟨point, leftPoint, rightPoint⟩ := Number.equality_eq_true_iff.mp equal
      exact .number leftPoint rightPoint
    · obtain rfl := beq_iff_eq.mp (Except.ok.inj equal)
      exact .text
    · obtain rfl := beq_iff_eq.mp (Except.ok.inj equal)
      exact .date
    · exact .moment (Except.ok.inj equal)
    · exact .object (beq_iff_eq.mp (Except.ok.inj equal))
    · split at equal
      · exact .list (itemsEqual_iff.mp equal)
      · cases equal
    · split at equal
      case isTrue same => exact .map same (membersEqual_iff.mp equal)
      case isFalse => cases equal
    · cases equal
  · intro equal
    cases equal with
    | null => rfl
    | number leftPoint rightPoint => exact plainEqual_of_point leftPoint rightPoint
    | text | date => simp [plainEqual]
    | moment equal => simp [plainEqual, equal]
    | object same => simp [plainEqual, same]
    | list matching => rw [plainEqual, if_pos matching.length_eq, itemsEqual_iff.mpr matching]
    | map same matching => rw [plainEqual, if_pos same, membersEqual_iff.mpr matching]

/-! ## Members that match -/

/-- The label of a not-a-number, and whether that is a decimal number. -/
def label? : Value → Option (Bool × Nat)
  | .number value => value.label?.map (value.isDecimal, ·)
  | _ => none

theorem sameNotANumber_iff {left right : Value} :
    sameNotANumber left right = true ↔
      ∃ label, left.label? = some label ∧ right.label? = some label := by
  have same {first second : Option Nat} : (first.isSome = true ∧ first = second) ↔
      ∃ label, first = some label ∧ second = some label := by
    cases first with
    | none => simp
    | some label => simpa using eq_comm
  cases left with
  | number left =>
      cases right with
      | number right =>
          cases left with
          | integer => cases right <;> simp [sameNotANumber, label?, Number.label?]
          | double left =>
              cases right with
              | double right => simp [sameNotANumber, label?, Number.isDecimal, same]
              | integer | decimal => simp [sameNotANumber, label?, Number.isDecimal, Number.label?]
          | decimal left =>
              cases right with
              | decimal right => simp [sameNotANumber, label?, Number.isDecimal, same]
              | integer | double => simp [sameNotANumber, label?, Number.isDecimal, Number.label?]
      | null | boolean | text | date | moment | object | list | map => simp [sameNotANumber, label?]
  | null | boolean | text | date | moment | object | list | map => simp [sameNotANumber, label?]

theorem matchesMember_iff {left right : Value} :
    matchesMember left right = .ok true ↔
      (∃ label, left.label? = some label ∧ right.label? = some label) ∨ Equal left right := by
  rw [matchesMember, ← sameNotANumber_iff, ← plainEqual_iff]
  split
  case isTrue same => simp [same]
  case isFalse other => simp [other]

/-- A not-a-number has no point. -/
theorem point?_of_label {value : Value} {label : Bool × Nat} (labelled : value.label? = some label) :
    value.point? = none := by
  cases value with
  | number number =>
      cases number with
      | integer => cases labelled
      | double value =>
          cases value with
          | nan => rfl
          | _ => cases labelled
      | decimal value =>
          cases value with
          | nan | signaling => rfl
          | _ => cases labelled
  | null | boolean | text | date | moment | object | list | map => cases labelled

/-- A labelled not-a-number equals nothing. -/
theorem Equal.unlabelled {left right : Value} (equal : Equal left right) :
    left.label? = none ∧ right.label? = none := by
  cases equal with
  | number leftPoint rightPoint =>
      constructor
      · by_contra labelled
        obtain ⟨label, labelled⟩ := Option.ne_none_iff_exists'.mp labelled
        rw [point?_of_label labelled] at leftPoint
        cases leftPoint
      · by_contra labelled
        obtain ⟨label, labelled⟩ := Option.ne_none_iff_exists'.mp labelled
        rw [point?_of_label labelled] at rightPoint
        cases rightPoint
  | null | text | date | moment | object | list | map => exact ⟨rfl, rfl⟩

/-! ## Symmetry and transitivity -/

theorem matchesMember_symm_of {left right : Value} (symm : Equal left right → Equal right left)
    (matched : matchesMember left right = .ok true) : matchesMember right left = .ok true := by
  rw [matchesMember_iff] at matched ⊢
  rcases matched with ⟨label, leftLabel, rightLabel⟩ | equal
  · exact .inl ⟨label, rightLabel, leftLabel⟩
  · exact .inr (symm equal)

theorem matchesMember_trans_of {left middle right : Value}
    (trans : Equal left middle → Equal middle right → Equal left right)
    (first : matchesMember left middle = .ok true) (second : matchesMember middle right = .ok true) :
    matchesMember left right = .ok true := by
  rw [matchesMember_iff] at first second ⊢
  rcases first with ⟨label, leftLabel, middleLabel⟩ | first
  · rcases second with ⟨other, otherLabel, rightLabel⟩ | second
    · obtain rfl : label = other := by simpa using middleLabel.symm.trans otherLabel
      exact .inl ⟨label, leftLabel, rightLabel⟩
    · rw [second.unlabelled.1] at middleLabel
      cases middleLabel
  · rcases second with ⟨label, middleLabel, _⟩ | second
    · rw [first.unlabelled.2] at middleLabel
      cases middleLabel
    · exact .inr (trans first second)

section Parts

variable {lefts middles rights : List Value} {left middle right : Bindings}

theorem items_symm (symm : ∀ item ∈ lefts, ∀ {other}, Equal item other → Equal other item)
    (matching : ItemsMatch lefts rights) : ItemsMatch rights lefts := by
  apply forall₂_symm_of _ matching
  intro item among other
  exact matchesMember_symm_of (symm item among)

theorem items_trans
    (trans : ∀ item ∈ lefts, ∀ {middle right}, Equal item middle → Equal middle right →
      Equal item right)
    (first : ItemsMatch lefts middles) (second : ItemsMatch middles rights) :
    ItemsMatch lefts rights := by
  apply forall₂_trans_of _ first second
  intro item among middle right
  exact matchesMember_trans_of (trans item among)

/-- Maps with as many members, of which one has all names of the other, have the same names. -/
theorem names_perm (distinct : (left.map Prod.fst).Nodup) (same : left.length = right.length)
    (matching : MembersMatch left right) :
    (left.map Prod.fst).Perm (right.map Prod.fst) := by
  have subset : left.map Prod.fst ⊆ right.map Prod.fst := by
    intro name among
    obtain ⟨member, inLeft, rfl⟩ := List.mem_map.mp among
    obtain ⟨value, found, _⟩ := matching member inLeft
    exact List.mem_map.mpr ⟨_, Bindings.mem_of_get? found, rfl⟩
  exact (List.subperm_of_subset distinct subset).perm_of_length_le (by simp [same])

theorem members_symm (distinct : (left.map Prod.fst).Nodup) (same : left.length = right.length)
    (symm : ∀ member ∈ left, ∀ {other}, Equal member.2 other → Equal other member.2)
    (matching : MembersMatch left right) : MembersMatch right left := by
  have names := names_perm distinct same matching
  intro member inRight
  obtain ⟨origin, inLeft, named⟩ :=
    List.mem_map.mp (names.mem_iff.mpr (List.mem_map_of_mem inRight))
  obtain ⟨value, found, matched⟩ := matching origin inLeft
  have unique : right.get? origin.1 = some member.2 := by
    rw [named]
    exact Bindings.get?_of_distinct (names.nodup_iff.mp distinct) inRight
  obtain rfl : member.2 = value := Option.some.inj (unique.symm.trans found)
  refine ⟨origin.2, ?_, matchesMember_symm_of (symm origin inLeft) matched⟩
  rw [← named]
  exact Bindings.get?_of_distinct distinct inLeft

theorem members_trans
    (trans : ∀ member ∈ left, ∀ {middle right}, Equal member.2 middle → Equal middle right →
      Equal member.2 right)
    (first : MembersMatch left middle) (second : MembersMatch middle right) :
    MembersMatch left right := by
  intro member inLeft
  obtain ⟨value, found, matched⟩ := first member inLeft
  obtain ⟨next, foundNext, matchedNext⟩ := second _ (Bindings.mem_of_get? found)
  exact ⟨next, foundNext, matchesMember_trans_of (trans member inLeft) matched matchedNext⟩

end Parts

/-- Plain equality is symmetric. -/
theorem Equal.symm {left right : Value} (named : left.WellNamed) (equal : Equal left right) :
    Equal right left := by
  induction named generalizing right with
  | null =>
      cases equal with
      | null => exact .null
      | number point => cases point
  | boolean | number =>
      cases equal with
      | number leftPoint rightPoint => exact .number rightPoint leftPoint
  | text =>
      cases equal with
      | text => exact .text
      | number point => cases point
  | date =>
      cases equal with
      | date => exact .date
      | number point => cases point
  | moment =>
      cases equal with
      | moment equal => exact .moment (Moment.equal_symm equal)
      | number point => cases point
  | object =>
      cases equal with
      | object same => exact .object same.symm
      | number point => cases point
  | list _ ih =>
      cases equal with
      | list matching => exact .list (items_symm ih matching)
      | number point => cases point
  | map distinct _ ih =>
      cases equal with
      | map same matching => exact .map same.symm (members_symm distinct same ih matching)
      | number point => cases point

/-- Plain equality is transitive. -/
theorem Equal.trans {left middle right : Value} (named : left.WellNamed)
    (first : Equal left middle) (second : Equal middle right) : Equal left right := by
  induction named generalizing middle right with
  | null =>
      cases first with
      | null => exact second
      | number point => cases point
  | text =>
      cases first with
      | text => exact second
      | number point => cases point
  | date =>
      cases first with
      | date => exact second
      | number point => cases point
  | boolean | number =>
      cases first with
      | number leftPoint middlePoint =>
          cases second with
          | number otherPoint rightPoint =>
              rw [middlePoint] at otherPoint
              cases otherPoint
              exact .number leftPoint rightPoint
          | null | text | date | moment | object | list | map => cases middlePoint
  | moment =>
      cases first with
      | number point => cases point
      | moment equal =>
          cases second with
          | number point => cases point
          | moment next => exact .moment (Moment.equal_trans equal next)
  | object =>
      cases first with
      | number point => cases point
      | object same =>
          cases second with
          | number point => cases point
          | object next => exact .object (same.trans next)
  | list _ ih =>
      cases first with
      | number point => cases point
      | list matching =>
          cases second with
          | number point => cases point
          | list further => exact .list (items_trans ih matching further)
  | map _ _ ih =>
      cases first with
      | number point => cases point
      | map same matching =>
          cases second with
          | number point => cases point
          | map sameNext further =>
              exact .map (same.trans sameNext) (members_trans ih matching further)

/-- Matching is symmetric. -/
theorem matchesMember_symm {left right : Value} (named : left.WellNamed)
    (matched : matchesMember left right = .ok true) : matchesMember right left = .ok true :=
  matchesMember_symm_of (Equal.symm named) matched

/-- Matching is transitive. -/
theorem matchesMember_trans {left middle right : Value} (named : left.WellNamed)
    (first : matchesMember left middle = .ok true) (second : matchesMember middle right = .ok true) :
    matchesMember left right = .ok true :=
  matchesMember_trans_of (Equal.trans named) first second

/-! ## The equality of the language -/

theorem equals_eq (left right : Value) :
    left.equals right =
      if left.isBoolean = right.isBoolean then left.plainEqual right else .ok false := by
  cases left <;> cases right <;> rfl

theorem equals_iff {left right : Value} :
    left.equals right = .ok true ↔ left.isBoolean = right.isBoolean ∧ Equal left right := by
  rw [equals_eq, ← plainEqual_iff]
  split
  case isTrue alike => simp [alike]
  case isFalse other => simp [other]

/-- The equality of the language is transitive. -/
theorem equals_trans {left middle right : Value} (named : left.WellNamed)
    (first : left.equals middle = .ok true) (second : middle.equals right = .ok true) :
    left.equals right = .ok true := by
  rw [equals_iff] at first second ⊢
  exact ⟨first.1.trans second.1, first.2.trans named second.2⟩

/-! ## Reflexivity -/

/-- Whether no number in a value, or in any of its parts, is a not-a-number. -/
inductive Definite : Value → Prop
  | null : Definite .null
  | boolean {value : Bool} : Definite (.boolean value)
  | number {number : Number} {point : Line} :
      number.point? = some point → Definite (.number number)
  | text {value : String} : Definite (.text value)
  | date {value : Date} : Definite (.date value)
  | moment {value : Moment} : Definite (.moment value)
  | object {value : Object} : Definite (.object value)
  | list {items : List Value} : (∀ item ∈ items, item.Definite) → Definite (.list items)
  | map {members : Bindings} :
      (∀ member ∈ members, member.2.Definite) → Definite (.map members)

/-- A value without a not-a-number equals itself. -/
theorem Equal.refl {value : Value} (named : value.WellNamed) (definite : value.Definite) :
    Equal value value := by
  induction definite with
  | null => exact .null
  | boolean => exact .number rfl rfl
  | number point => exact .number point point
  | text => exact .text
  | date => exact .date
  | moment => exact .moment Moment.equal_refl
  | object => exact .object rfl
  | list _ ih =>
      cases named with
      | list items =>
          refine .list (List.forall₂_same.mpr fun item among => matchesMember_iff.mpr (.inr ?_))
          exact ih item among (items item among)
  | map _ ih =>
      cases named with
      | map distinct members =>
          refine .map rfl fun member among => ⟨member.2, ?_, matchesMember_iff.mpr (.inr ?_)⟩
          · exact Bindings.get?_of_distinct distinct among
          · exact ih member among (members member among)

end Value

end DecisionTables
