import Mathlib.Algebra.Order.Group.Int
import Mathlib.Tactic.ByContra
import DecisionTables.Calendar.Moment

/-!
# Clocks and instants

Where the clock of a zone shows a time once, a later reading is a later instant: the changes of the
clock lie further apart than they move it. Two moments of a zone that are not ambiguous are therefore
ordered as instants as they are by their clock, and equality of moments, which goes by the clock within
a zone and by instants between zones, is an equivalence. Moments of which some are ambiguous need not
even be ordered consistently; those of one zone are, and so are those of any zones none of which is
ambiguous.
-/

namespace DecisionTables

namespace TimeZone

variable {current limit clock other : Int} {change : ZoneChange} {changes rest : List ZoneChange}

theorem reading_le : change.reading true current ≤ change.reading false current := by
  simp only [ZoneChange.reading]
  grind

theorem reading_true_le : change.reading true current ≤ change.instant + current := by
  simp only [ZoneChange.reading]
  grind

theorem le_reading_false : change.instant + change.offset ≤ change.reading false current := by
  simp only [ZoneChange.reading]
  grind

/-- A reading before the window of a change still counts by the old offset. -/
theorem offsetFrom_before (before : clock < change.reading true current) (later : Bool) :
    offsetFrom later clock current (change :: rest) = current := by
  rw [offsetFrom, if_pos]
  cases later with
  | true => exact before
  | false => exact lt_of_lt_of_le before reading_le

/-- A reading behind the window of a change counts by the offsets after it. -/
theorem offsetFrom_after (behind : change.reading false current ≤ clock) (later : Bool) :
    offsetFrom later clock current (change :: rest) =
      offsetFrom later clock change.offset rest := by
  rw [offsetFrom, if_neg]
  rw [not_lt]
  cases later with
  | true => exact reading_le.trans behind
  | false => exact behind

/-- A reading that counts by one offset lies outside of the window of a change. -/
theorem outside_of_unambiguous (inOrder : InOrder current (change :: rest))
    (once : offsetFrom false clock current (change :: rest) =
      offsetFrom true clock current (change :: rest)) :
    clock < change.reading true current ∨ change.reading false current ≤ clock := by
  by_contra! within
  obtain ⟨started, unfinished⟩ := within
  -- The next change is too far away to touch the reading.
  have settled : offsetFrom true clock change.offset rest = change.offset := by
    cases rest with
    | nil => rfl
    | cons next rest => exact offsetFrom_before (lt_of_lt_of_le unfinished (inOrder.1 next rfl)) true
  have old : offsetFrom false clock current (change :: rest) = current := if_pos unfinished
  have new : offsetFrom true clock current (change :: rest) = change.offset := by
    rw [offsetFrom, if_neg (not_lt.mpr started), settled]
  have unchanged : current = change.offset := by rw [← old, once, new]
  simp only [ZoneChange.reading, ← unchanged] at started unfinished
  grind

/-- A clock that shows no less than it does at an instant shows no instant before that one, if no change
touches the readings between. -/
theorem le_instant (inOrder : InOrder current changes)
    (untouched : ∀ next ∈ changes.head?, limit + current ≤ next.reading true current)
    (shown : limit + current ≤ clock) : limit ≤ clock - offsetFrom false clock current changes := by
  induction changes generalizing current limit with
  | nil =>
      rw [offsetFrom]
      omega
  | cons change rest ih =>
      have early : limit ≤ change.instant := by
        have first := untouched change rfl
        have bound := @reading_true_le current change
        omega
      by_cases before : clock < change.reading false current
      · rw [offsetFrom, if_pos before]
        omega
      · rw [not_lt] at before
        rw [offsetFrom_after before]
        refine early.trans (ih inOrder.2 ?_ (le_reading_false.trans before))
        intro next first
        exact le_reading_false.trans (inOrder.1 next first)

/-- A later reading is a later instant where the clock shows both readings once. -/
theorem instant_lt (inOrder : InOrder current changes)
    (once : offsetFrom false clock current changes = offsetFrom true clock current changes)
    (onceLater : offsetFrom false other current changes = offsetFrom true other current changes)
    (before : clock < other) :
    clock - offsetFrom false clock current changes <
      other - offsetFrom false other current changes := by
  induction changes generalizing current with
  | nil =>
      simp only [offsetFrom]
      omega
  | cons change rest ih =>
      rcases outside_of_unambiguous inOrder once with early | late
      · rw [offsetFrom_before early]
        rcases outside_of_unambiguous inOrder onceLater with alsoEarly | behind
        · rw [offsetFrom_before alsoEarly]
          omega
        · rw [offsetFrom_after behind]
          have bound := @reading_true_le current change
          have reached : change.instant ≤ other - offsetFrom false other change.offset rest := by
            refine le_instant inOrder.2 ?_ (le_reading_false.trans behind)
            intro next first
            exact le_reading_false.trans (inOrder.1 next first)
          omega
      · have behind := late.trans before.le
        rw [offsetFrom_after late, offsetFrom_after late] at once
        rw [offsetFrom_after behind, offsetFrom_after behind] at onceLater
        rw [offsetFrom_after late, offsetFrom_after behind]
        exact ih inOrder.2 once onceLater

end TimeZone

/-! ## Moments that are not ambiguous -/

namespace Moment

variable {left middle right : Moment}

theorem offset?_later (moment : Moment) (later : Bool) : { moment with later := later }.offset? =
    moment.zone.map (Zone.offset later moment.clock) := by
  simp only [offset?, clock]

theorem isAmbiguous_eq_false_iff {moment : Moment} : moment.isAmbiguous = false ↔
    moment.zone.map (Zone.offset false moment.clock) =
      moment.zone.map (Zone.offset true moment.clock) := by
  rw [isAmbiguous, bne_eq_false_iff_eq, offset?_later, offset?]
  cases moment.later with
  | false => rfl
  | true => exact eq_comm

/-- Whether a moment is ambiguous, and which instant it is if it is not, depends only on its zone and
what its clock shows. -/
theorem isAmbiguous_congr (zone : left.zone = right.zone) (clock : left.clock = right.clock) :
    left.isAmbiguous = right.isAmbiguous := by
  rw [Bool.eq_iff_iff, ← not_iff_not]
  simp only [Bool.not_eq_true, isAmbiguous_eq_false_iff, zone, clock]

theorem instant_eq (once : left.isAmbiguous = false) :
    left.instant = left.clock - (left.zone.map (Zone.offset false left.clock)).getD 0 := by
  rw [instant, offset?]
  rw [isAmbiguous_eq_false_iff] at once
  cases left.later with
  | false => rfl
  | true => rw [once]

/-- Moments of one zone that are not ambiguous are ordered as instants as they are by their clock. -/
theorem instant_lt_of_clock_lt (zone : left.zone = right.zone) (once : left.isAmbiguous = false)
    (onceLater : right.isAmbiguous = false) (before : left.clock < right.clock) :
    left.instant < right.instant := by
  rw [instant_eq once, instant_eq onceLater]
  rw [isAmbiguous_eq_false_iff] at once onceLater
  rw [zone] at once ⊢
  cases shown : right.zone with
  | none => simpa using before
  | some shownZone =>
      rw [shown] at once onceLater
      cases shownZone with
      | fixed offset =>
          simp only [Option.map_some, Option.getD_some, Zone.offset]
          omega
      | named zone =>
          simp only [Option.map_some, Option.some.injEq, Option.getD_some, Zone.offset,
            TimeZone.offset] at once onceLater ⊢
          exact TimeZone.instant_lt zone.inOrder once onceLater before

theorem compare_instant (zone : left.zone = right.zone) (once : left.isAmbiguous = false)
    (onceLater : right.isAmbiguous = false) :
    compare left.instant right.instant = compare left.clock right.clock := by
  rcases lt_trichotomy left.clock right.clock with before | same | behind
  · rw [compare_lt_iff_lt.mpr before,
      compare_lt_iff_lt.mpr (instant_lt_of_clock_lt zone once onceLater before)]
  · rw [compare_eq_iff_eq.mpr same, compare_eq_iff_eq, instant_eq once, instant_eq onceLater, zone,
      same]
  · rw [compare_gt_iff_gt.mpr behind,
      compare_gt_iff_gt.mpr (instant_lt_of_clock_lt zone.symm onceLater once behind)]

/-! ## Equality -/

theorem order?_eq_none_iff : left.order? right = none ↔ left.zone.isSome ≠ right.zone.isSome := by
  simp only [order?]
  split
  case isTrue same => simp [same]
  case isFalse other =>
      cases first : left.zone <;> cases second : right.zone <;> simp_all

/-- Moments are equal within a zone if their clocks show the same, and between zones if they are the
same instant and neither of them is ambiguous. -/
theorem equal_iff : left.equal right = true ↔
    (left.zone = right.zone ∧ left.clock = right.clock) ∨
      ((left.zone.isSome = true ∧ right.zone.isSome = true) ∧ left.instant = right.instant ∧
        left.isAmbiguous = false ∧ right.isAmbiguous = false) := by
  by_cases zone : left.zone = right.zone
  · have byClock : left.equal right = true ↔ left.clock = right.clock := by
      rw [Moment.equal, order?, if_pos zone, zone, BEq.rfl, Bool.true_or, Bool.and_true, beq_iff_eq,
        Option.some.injEq, compare_eq_iff_eq]
    rw [byClock]
    constructor
    · exact fun clock => .inl ⟨zone, clock⟩
    · rintro (⟨_, clock⟩ | ⟨_, instant, once, onceLater⟩)
      · exact clock
      · rw [← compare_eq_iff_eq, ← compare_instant zone once onceLater, instant, compare_eq_iff_eq]
  · have byInstant : left.equal right = true ↔
        (left.zone.isSome = true ∧ right.zone.isSome = true) ∧ left.instant = right.instant ∧
          left.isAmbiguous = false ∧ right.isAmbiguous = false := by
      by_cases both : (left.zone.isSome && right.zone.isSome) = true
      · simp only [Bool.and_eq_true] at both
        simp [Moment.equal, order?, zone, both]
      · simp only [Bool.and_eq_true] at both
        simp [Moment.equal, order?, zone, both]
    rw [byInstant]
    simp [zone]

theorem equal_refl : left.equal left = true := equal_iff.mpr (.inl ⟨rfl, rfl⟩)

theorem equal_symm (equal : left.equal right = true) : right.equal left = true := by
  rw [equal_iff] at equal ⊢
  rcases equal with ⟨zone, clock⟩ | ⟨zones, instant, once, onceLater⟩
  · exact .inl ⟨zone.symm, clock.symm⟩
  · exact .inr ⟨zones.symm, instant.symm, onceLater, once⟩

theorem equal_trans (first : left.equal middle = true) (second : middle.equal right = true) :
    left.equal right = true := by
  rw [equal_iff] at first second ⊢
  have moved {one other : Moment} (zone : one.zone = other.zone) (clock : one.clock = other.clock)
      (once : other.isAmbiguous = false) :
      one.isAmbiguous = false ∧ one.instant = other.instant := by
    have also := (isAmbiguous_congr zone clock).trans once
    exact ⟨also, by rw [instant_eq also, instant_eq once, zone, clock]⟩
  rcases first with ⟨zone, clock⟩ | ⟨zones, instant, once, onceMiddle⟩
  · rcases second with ⟨nextZone, nextClock⟩ | ⟨zones, instant, onceMiddle, onceRight⟩
    · exact .inl ⟨zone.trans nextZone, clock.trans nextClock⟩
    · obtain ⟨once, same⟩ := moved zone clock onceMiddle
      exact .inr ⟨⟨zone ▸ zones.1, zones.2⟩, same.trans instant, once, onceRight⟩
  · rcases second with ⟨nextZone, nextClock⟩ | ⟨nextZones, nextInstant, _, onceRight⟩
    · obtain ⟨onceRight, same⟩ := moved nextZone.symm nextClock.symm onceMiddle
      exact .inr ⟨⟨zones.1, nextZone ▸ zones.2⟩, instant.trans same.symm, once, onceRight⟩
    · exact .inr ⟨⟨zones.1, nextZones.2⟩, instant.trans nextInstant, once, onceRight⟩

end Moment

/-! ## Moments in one order -/

/-- What moments have in common that are ordered consistently: one zone or the lack of a zone, so that
their clocks order them, or that none of them is ambiguous, so that their instants do. -/
inductive Timescale where
  | clock (zone : Option Zone)
  | universal

namespace Timescale

def Contains : Timescale → Moment → Prop
  | .clock zone, moment => moment.zone = zone
  | .universal, moment => moment.zone.isSome = true ∧ moment.isAmbiguous = false

/-- The time of a moment on a scale that contains it. -/
def time : Timescale → Moment → Int
  | .clock _, moment => moment.clock
  | .universal, moment => moment.instant

variable {scale : Timescale} {left right : Moment}

/-- Moments of a scale are ordered by their times. -/
theorem order?_eq (first : scale.Contains left) (second : scale.Contains right) :
    left.order? right = some (compare (scale.time left) (scale.time right)) := by
  cases scale with
  | clock zone => rw [Moment.order?, if_pos (first.trans second.symm), time, time]
  | universal =>
      rw [Moment.order?, time, time]
      split
      case isTrue zone => rw [Moment.compare_instant zone first.2 second.2]
      case isFalse => rw [first.1, second.1, Bool.and_self, if_pos rfl]

theorem equal_eq (first : scale.Contains left) (second : scale.Contains right) :
    left.equal right = (compare (scale.time left) (scale.time right) == .eq) := by
  rw [Moment.equal, order?_eq first second]
  have told : (left.zone == right.zone || !(left.isAmbiguous || right.isAmbiguous)) = true := by
    cases scale with
    | clock zone => simp [first.trans second.symm]
    | universal => simp [first.2, second.2]
  rw [told, Bool.and_true]
  rfl

end Timescale

end DecisionTables
