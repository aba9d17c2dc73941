import Mathlib.Data.List.Forall2

/-!
# Going through items up to an end

Items are gone through one by one, and the first that ends them is the last. What comes after it has
no part in what is gone through, neither within a list nor where lists follow one another.
-/

namespace DecisionTables

/-- The items up to the first that ends them, with that one. -/
def upThrough {α : Type} (ends : α → Bool) : List α → List α
  | [] => []
  | item :: rest => if ends item then [item] else item :: upThrough ends rest

section UpThrough

variable {α : Type} {ends earlier : α → Bool} {items others : List α}

/-- Without an item that ends them, all items are gone through. -/
theorem upThrough_eq_self (goes : ∀ item ∈ items, ends item = false) :
    upThrough ends items = items := by
  induction items with
  | nil => rfl
  | cons first rest ih =>
      rw [List.forall_mem_cons] at goes
      simp [upThrough, goes.1, ih goes.2]

/-- Whether an item ends the items is seen in those that are gone through. -/
theorem upThrough_goes : (∀ item ∈ upThrough ends items, ends item = false) ↔
    ∀ item ∈ items, ends item = false := by
  induction items with
  | nil => rfl
  | cons first rest ih =>
      cases stops : ends first with
      | true => simp [upThrough, stops]
      | false => simp only [upThrough, stops, Bool.false_eq_true, if_false, List.forall_mem_cons, ih]

/-- Items that are gone through only up to an earlier end are gone through altogether. -/
theorem upThrough_upThrough (narrower : ∀ item, ends item = true → earlier item = true) :
    upThrough ends (upThrough earlier items) = upThrough earlier items := by
  induction items with
  | nil => rfl
  | cons first rest ih =>
      cases stops : earlier first with
      | true => simp [upThrough, stops]
      | false =>
          have goes : ends first = false := by
            rw [← Bool.not_eq_true]
            intro stopsToo
            rw [narrower first stopsToo] at stops
            cases stops
          simp [upThrough, stops, goes, ih]

theorem upThrough_append (first second : List α) : upThrough ends (first ++ second) =
    upThrough ends first ++
      if first.any ends then [] else upThrough ends second := by
  induction first with
  | nil => rfl
  | cons item first ih =>
      rw [List.cons_append, upThrough, upThrough, ih]
      cases stops : ends item with
      | true => simp [stops]
      | false => simp [stops]

/-- Of the items that are gone through, only the last may end them. -/
theorem upThrough_split {item : α} (among : item ∈ upThrough ends items)
    (stops : ends item = true) :
    ∃ before, upThrough ends items = before ++ [item] ∧ ∀ other ∈ before, ends other = false := by
  induction items with
  | nil => cases among
  | cons first rest ih =>
      cases stopsHere : ends first with
      | true =>
          simp only [upThrough, stopsHere, if_true, List.mem_singleton] at among ⊢
          exact ⟨[], by rw [among]; rfl, fun _ none => nomatch none⟩
      | false =>
          simp only [upThrough, stopsHere, Bool.false_eq_true, if_false, List.mem_cons] at among ⊢
          have later : item ∈ upThrough ends rest := by
            refine among.resolve_left fun same => ?_
            rw [same, stopsHere] at stops
            cases stops
          obtain ⟨before, split, goes⟩ := ih later
          refine ⟨first :: before, by rw [split]; rfl, ?_⟩
          exact List.forall_mem_cons.mpr ⟨stopsHere, goes⟩

/-- Items are gone through alike if those that are gone through have no other counterparts. -/
theorem upThrough_congr {Kept : α → Prop}
    (related : List.Forall₂ (fun item other => Kept item → other = item) items others)
    (kept : ∀ item ∈ upThrough ends items, Kept item) :
    upThrough ends others = upThrough ends items := by
  induction related with
  | nil => rfl
  | @cons item other rest further same _ ih =>
      have here : Kept item := by
        apply kept
        rw [upThrough]
        split <;> exact List.mem_cons_self
      rw [same here, upThrough, upThrough]
      cases stops : ends item with
      | true => rfl
      | false =>
          simp only [Bool.false_eq_true, if_false, List.cons.injEq, true_and]
          apply ih
          intro later among
          apply kept
          simp [upThrough, stops, among]

/-- If nothing ends items that are gone through like others, they are the others. -/
theorem eq_of_upThrough_eq (same : upThrough ends others = upThrough ends items)
    (goes : ∀ item ∈ items, ends item = false) : others = items := by
  have othersGo : ∀ other ∈ others, ends other = false := by
    rw [← upThrough_goes, same, upThrough_goes]
    exact goes
  rwa [upThrough_eq_self goes, upThrough_eq_self othersGo] at same

/-- What comes after items matters only if none of them ends the whole. -/
theorem upThrough_append_congr {rest further : List α}
    (same : upThrough ends others = upThrough ends items)
    (later : (∀ item ∈ items, ends item = false) →
      upThrough ends further = upThrough ends rest) :
    upThrough ends (others ++ further) = upThrough ends (items ++ rest) := by
  rw [upThrough_append, upThrough_append, same]
  by_cases goes : ∀ item ∈ items, ends item = false
  · rw [eq_of_upThrough_eq same goes, later goes]
  · have stops : items.any ends = true := by simpa using goes
    have stopsToo : others.any ends = true := by
      have found : ¬∀ other ∈ others, ends other = false := by
        rw [← upThrough_goes, same, upThrough_goes]
        exact goes
      simpa using found
    rw [if_pos stops, if_pos stopsToo]

theorem mem_upThrough_append {rest : List α} {item : α} (goes : ∀ item ∈ items, ends item = false)
    (among : item ∈ upThrough ends rest) : item ∈ upThrough ends (items ++ rest) := by
  have none : items.any ends = false := by simpa using goes
  simp [upThrough_append, none, among]

theorem mem_upThrough_append_left {rest : List α} {item : α}
    (among : item ∈ upThrough ends items) : item ∈ upThrough ends (items ++ rest) := by
  rw [upThrough_append]
  exact List.mem_append_left _ among

/-- Rows of items are gone through alike if related rows are. If nothing ends the items of the first
rows, the items of related rows are the same. -/
theorem upThrough_flatMap_congr {β γ : Type} {Kept : α → Prop} {Related : β → γ → Prop}
    {rows : List β} {others : List γ} {first : β → List α} {second : γ → List α}
    (related : List.Forall₂ Related rows others)
    (alike : ∀ row other, Related row other → (∀ item ∈ upThrough ends (first row), Kept item) →
      upThrough ends (second other) = upThrough ends (first row))
    (kept : ∀ item ∈ upThrough ends (rows.flatMap first), Kept item) :
    upThrough ends (others.flatMap second) = upThrough ends (rows.flatMap first) ∧
      ((∀ item ∈ rows.flatMap first, ends item = false) →
        List.Forall₂ (fun row other => Related row other ∧ second other = first row)
          rows others) := by
  induction related with
  | nil => exact ⟨rfl, fun _ => .nil⟩
  | @cons row other rows others here _ ih =>
      rw [List.flatMap_cons] at kept
      have same := alike row other here fun item among => kept item (mem_upThrough_append_left among)
      constructor
      · rw [List.flatMap_cons, List.flatMap_cons]
        apply upThrough_append_congr same
        intro goes
        exact (ih fun item among => kept item (mem_upThrough_append goes among)).1
      · intro goes
        rw [List.flatMap_cons, List.forall_mem_append] at goes
        have further := ih fun item among => kept item (mem_upThrough_append goes.1 among)
        exact .cons ⟨here, eq_of_upThrough_eq same goes.1⟩ (further.2 goes.2)

end UpThrough

end DecisionTables
