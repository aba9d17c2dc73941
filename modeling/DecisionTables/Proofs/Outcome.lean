import Mathlib.Data.List.Forall2
import DecisionTables.Table.Compile
import DecisionTables.Table.Evaluate

/-!
# Outcomes

Every stage of the library gives a value or an error, and a stage that is made of several ends at
the first error. This module says once how such a sequence succeeds and how it fails, and the same
of an action that is taken on every item of a list.
-/

namespace DecisionTables

namespace Except

variable {ε α β γ : Type}

@[simp] theorem ok_bind (value : α) (next : α → Except ε β) :
    (Except.ok value >>= next) = next value := rfl

@[simp] theorem error_bind (error : ε) (next : α → Except ε β) :
    ((Except.error error : Except ε α) >>= next) = .error error := rfl

@[simp] theorem pure_eq_ok (value : α) : (pure value : Except ε α) = .ok value := rfl

@[simp] theorem map_ok (image : α → β) (value : α) :
    (Except.ok value : Except ε α).map image = .ok (image value) := rfl

@[simp] theorem map_error (image : α → β) (error : ε) :
    (Except.error error : Except ε α).map image = .error error := rfl

/-- A sequence succeeds if its first stage does and the second does on its value. -/
theorem bind_eq_ok_iff {first : Except ε α} {next : α → Except ε β} {result : β} :
    (first >>= next) = .ok result ↔ ∃ value, first = .ok value ∧ next value = .ok result := by
  cases first with
  | ok value => simp
  | error error => simp

/-- A sequence fails at its first stage, or at the second on the value of the first. -/
theorem bind_eq_error_iff {first : Except ε α} {next : α → Except ε β} {error : ε} :
    (first >>= next) = .error error ↔
      first = .error error ∨ ∃ value, first = .ok value ∧ next value = .error error := by
  cases first with
  | ok value => simp
  | error error => simp

/-- A sequence of two stages whose values are joined fails only where one of the stages does. -/
theorem both_error {first : Except ε α} {second : Except ε β} {join : α → β → γ} {error : ε}
    (failed : (first >>= fun left => second >>= fun right => pure (join left right)) =
      .error error) : first = .error error ∨ second = .error error := by
  cases first with
  | error error =>
      cases failed
      exact .inl rfl
  | ok left =>
      cases second with
      | error error =>
          cases failed
          exact .inr rfl
      | ok right => cases failed

theorem map_eq_ok_iff {outcome : Except ε α} {image : α → β} {result : β} :
    outcome.map image = .ok result ↔ ∃ value, outcome = .ok value ∧ image value = result := by
  cases outcome with
  | ok value => simp
  | error error => simp

theorem map_eq_error_iff {outcome : Except ε α} {image : α → β} {error : ε} :
    outcome.map image = .error error ↔ outcome = .error error := by
  cases outcome with
  | ok value => simp
  | error error => simp

end Except

/-! ## Cells

Neither the place of a cell nor the report of its failure touches the value that it has. -/

theorem Evaluated.ofFault_eq_ok_iff {α : Type} {outcome : Except Fault α} {value : α} :
    Evaluated.ofFault outcome = .ok value ↔ outcome = .ok value := by
  cases outcome <;> simp [Evaluated.ofFault]

theorem Evaluated.ofCell_eq_ok_iff {α : Type} {text : String} {context : Context}
    {outcome : Evaluated α} {value : α} :
    Evaluated.ofCell text context outcome = .ok value ↔ outcome = .ok value := by
  rcases outcome with (reason | fault) | value
  all_goals simp [Evaluated.ofCell]

theorem CompiledExpression.evaluate_eq_ok_iff {expression : CompiledExpression}
    {context : Context} {value : Value} :
    expression.evaluate context = .ok value ↔
      expression.body.evaluate ⟨context, .null⟩ = .ok value :=
  Evaluated.ofCell_eq_ok_iff

theorem Outcome.ofCell_eq_ok_iff {α : Type} {decisionId columnId : String}
    {ruleId : Option String} {outcome : Except CellError α} {value : α} :
    Outcome.ofCell decisionId ruleId columnId outcome = .ok value ↔ outcome = .ok value := by
  cases outcome <;> simp [Outcome.ofCell]

theorem Compile.ofRead_eq_ok_iff {α : Type} {decisionId columnId : String}
    {ruleId : Option String} {outcome : Except ReadError α} {value : α} :
    ofRead decisionId ruleId columnId outcome = .ok value ↔ outcome = .ok value := by
  rcases outcome with (error | fault) | value
  all_goals simp [ofRead]

/-! ## Actions on every item of a list -/

section Related

variable {α β : Type} {Related : α → β → Prop} {items : List α} {results : List β}

/-- Of two lists that are related item by item, every item of the first is related to one of the
second. -/
theorem exists_of_mem_left (related : List.Forall₂ Related items results) {item : α}
    (member : item ∈ items) : ∃ result ∈ results, Related item result := by
  induction related with
  | nil => cases member
  | cons first _ ih =>
      cases member with
      | head => exact ⟨_, List.mem_cons_self, first⟩
      | tail _ member =>
          obtain ⟨result, among, given⟩ := ih member
          exact ⟨result, List.mem_cons_of_mem _ among, given⟩

theorem exists_of_mem_right (related : List.Forall₂ Related items results) {result : β}
    (member : result ∈ results) : ∃ item ∈ items, Related item result :=
  exists_of_mem_left related.flip member

end Related

section ForAll

variable {α β : Type} {action : α → Outcome β}

@[simp] theorem forAll_nil : forAll action [] = .ok [] := rfl

theorem forAll_cons (item : α) (rest : List α) :
    forAll action (item :: rest) =
      action item >>= fun result => forAll action rest >>= fun results => .ok (result :: results) :=
  rfl

/-- An action succeeds on a list exactly if it does on every item, with the results in the order of
the items. -/
theorem forAll_eq_ok_iff {items : List α} {results : List β} :
    forAll action items = .ok results ↔
      List.Forall₂ (fun item result => action item = .ok result) items results := by
  induction items generalizing results with
  | nil =>
      cases results with
      | nil => simp
      | cons result results => simp
  | cons item rest ih =>
      simp only [forAll_cons, Except.bind_eq_ok_iff, Except.ok.injEq, ih]
      constructor
      · intro shown
        rcases shown with ⟨result, first, results, others, rfl⟩
        exact .cons first others
      · intro shown
        rcases shown with _ | ⟨first, others⟩
        exact ⟨_, first, _, others, rfl⟩

theorem forAll_length {items : List α} {results : List β}
    (succeeded : forAll action items = .ok results) : results.length = items.length :=
  (forAll_eq_ok_iff.mp succeeded).length_eq.symm

theorem forAll_item {items : List α} {results : List β}
    (succeeded : forAll action items = .ok results) {item : α} (member : item ∈ items) :
    ∃ result, action item = .ok result := by
  obtain ⟨result, _, taken⟩ := exists_of_mem_left (forAll_eq_ok_iff.mp succeeded) member
  exact ⟨result, taken⟩

/-- What the results of an action have in common, every result of the list has. -/
theorem forAll_mem {items : List α} {results : List β}
    (succeeded : forAll action items = .ok results) {result : β} (member : result ∈ results) :
    ∃ item ∈ items, action item = .ok result :=
  exists_of_mem_right (forAll_eq_ok_iff.mp succeeded) member

/-- An action that fails on a list fails on one of its items. -/
theorem forAll_error {items : List α} {error : EvaluationError}
    (failed : forAll action items = .error error) : ∃ item ∈ items, action item = .error error := by
  induction items with
  | nil => cases failed
  | cons item rest ih =>
      rcases Except.both_error failed with failed | failed
      · exact ⟨item, List.mem_cons_self, failed⟩
      · obtain ⟨found, among, failed⟩ := ih failed
        exact ⟨found, List.mem_cons_of_mem _ among, failed⟩

end ForAll

section ForAllFrom

open Compile

variable {α β : Type} {action : Nat → α → Compiled β}

@[simp] theorem forAllFrom_nil (index : Nat) : forAllFrom action index [] = .ok [] := rfl

theorem forAllFrom_cons (index : Nat) (item : α) (rest : List α) :
    forAllFrom action index (item :: rest) =
      action index item >>= fun result =>
        forAllFrom action (index + 1) rest >>= fun results => .ok (result :: results) :=
  rfl

/-- An action succeeds on a numbered list exactly if it does on every item at its number, with the
results in the order of the items. -/
theorem forAllFrom_eq_ok_iff {items : List α} {results : List β} {index : Nat} :
    forAllFrom action index items = .ok results ↔
      List.Forall₂ (fun item result => action item.2 item.1 = .ok result) (items.zipIdx index)
        results := by
  induction items generalizing index results with
  | nil => simp [eq_comm]
  | cons item rest ih =>
      simp only [forAllFrom_cons, Except.bind_eq_ok_iff, Except.ok.injEq, ih, List.zipIdx_cons,
        List.forall₂_cons_left_iff, exists_and_left, @eq_comm _ results]

/-- Every result of an action on a numbered list is its result on some item at some number. -/
theorem forAllFrom_mem {items : List α} {results : List β} {index : Nat}
    (succeeded : forAllFrom action index items = .ok results) {result : β}
    (member : result ∈ results) : ∃ number, ∃ item ∈ items, action number item = .ok result := by
  obtain ⟨⟨item, number⟩, among, taken⟩ :=
    exists_of_mem_right (forAllFrom_eq_ok_iff.mp succeeded) member
  exact ⟨number, item, List.fst_mem_of_mem_zipIdx among, taken⟩

end ForAllFrom

section ForCells

open Compile

variable {α : Type} {action : (columnId text : String) → Compiled α} {columnIds texts : List String}
  {results : List α}

theorem forCells_cons (columnId text : String) :
    forCells action (columnId :: columnIds) (text :: texts) =
      action columnId text >>= fun result =>
        forCells action columnIds texts >>= fun results => .ok (result :: results) :=
  rfl

/-- An action succeeds on the cells of a rule exactly if it does on every text with the id of its
column. -/
theorem forCells_eq_ok_iff :
    forCells action columnIds texts = .ok results ↔
      List.Forall₂ (fun cell result => action cell.1 cell.2 = .ok result) (columnIds.zip texts)
        results := by
  induction columnIds generalizing texts results with
  | nil => simp [forCells, eq_comm]
  | cons columnId columnIds ih =>
      cases texts with
      | nil => simp [forCells, eq_comm]
      | cons text texts =>
          simp only [forCells_cons, Except.bind_eq_ok_iff, Except.ok.injEq, ih, List.zip_cons_cons,
            List.forall₂_cons_left_iff, exists_and_left, @eq_comm _ results]

/-- Where every column has a text and its id does not matter, the results are those of the texts. -/
theorem forCells_eq_ok_iff_of_texts {Gives : String → α → Prop}
    (each : ∀ columnId text result, action columnId text = .ok result ↔ Gives text result)
    (counted : texts.length = columnIds.length) :
    forCells action columnIds texts = .ok results ↔ List.Forall₂ Gives texts results := by
  have second : (columnIds.zip texts).map Prod.snd = texts := List.map_snd_zip (Nat.le_of_eq counted)
  rw [forCells_eq_ok_iff]
  conv_rhs => rw [← second, List.forall₂_map_left_iff]
  simp only [each]

theorem forCells_length (succeeded : forCells action columnIds texts = .ok results)
    (counted : texts.length = columnIds.length) : results.length = columnIds.length := by
  rw [← (forCells_eq_ok_iff.mp succeeded).length_eq, List.length_zip, counted, Nat.min_self]

theorem forCells_mem (succeeded : forCells action columnIds texts = .ok results) {result : α}
    (member : result ∈ results) : ∃ columnId text, action columnId text = .ok result := by
  obtain ⟨⟨columnId, text⟩, _, taken⟩ := exists_of_mem_right (forCells_eq_ok_iff.mp succeeded) member
  exact ⟨columnId, text, taken⟩

end ForCells

end DecisionTables
