import DecisionTables.Proofs.Outcome

/-!
# Breakdowns

Errors of all kinds may be a fault, which the language has no failure of its own for. A computation
breaks down if it ends in a fault. This module says how breakdowns pass through the sequences and
the lists of actions that evaluation is made of: a sequence breaks down where it first does not
succeed.
-/

namespace DecisionTables

/-- A kind of errors among which there are the faults. -/
class Faulty (ε : Type) where
  /-- The fault as an error of the kind. -/
  ofFault : Fault → ε

instance : Faulty Fault := ⟨id⟩

instance : Faulty Interruption := ⟨.fault⟩

instance : Faulty CellError := ⟨.fault⟩

instance : Faulty EvaluationError := ⟨.fault⟩

instance : Faulty AggregateFailure := ⟨.fault⟩

instance : Faulty Refusal := ⟨.fault⟩

/-- Whether a computation ends in a fault. -/
def Breaks {ε α : Type} [Faulty ε] (outcome : Except ε α) : Prop :=
  ∃ fault, outcome = .error (Faulty.ofFault fault)

section Breaks

variable {ε α β : Type} [Faulty ε]

@[simp] theorem not_breaks_ok {value : α} : ¬Breaks (.ok value : Except ε α) := by
  intro impossible
  rcases impossible with ⟨_, ⟨⟩⟩

@[simp] theorem breaks_bind {first : Except ε α} {next : α → Except ε β} :
    Breaks (first >>= next) ↔ Breaks first ∨ ∃ value, first = .ok value ∧ Breaks (next value) := by
  cases first with
  | ok value => simp
  | error error => simp [Breaks]

@[simp] theorem breaks_map {outcome : Except ε α} {image : α → β} :
    Breaks (outcome.map image) ↔ Breaks outcome := by
  simp only [Breaks, Except.map_eq_error_iff]

@[simp] theorem breaks_fault {fault : Fault} : Breaks (.error fault : Except Fault α) :=
  ⟨fault, rfl⟩

theorem breaks_iff_error {outcome : Except Fault α} :
    Breaks outcome ↔ ∃ fault, outcome = .error fault :=
  Iff.rfl

/-- Of two stages below the language, which know no failure, either breaks their sequence down. -/
theorem breaks_both_iff {γ : Type} {first : Except Fault α} {second : Except Fault β}
    {join : α → β → γ} :
    Breaks (first >>= fun left => second >>= fun right => pure (join left right)) ↔
      Breaks first ∨ Breaks second := by
  cases first with
  | ok left => simp
  | error fault => simp

@[simp] theorem breaks_ofFault {outcome : Except Fault α} :
    Breaks (Evaluated.ofFault outcome) ↔ Breaks outcome := by
  cases outcome with
  | ok value => simp [Evaluated.ofFault]
  | error fault =>
      simp only [Evaluated.ofFault, breaks_fault, iff_true]
      exact ⟨fault, rfl⟩

@[simp] theorem not_breaks_failure {reason : Failure} :
    ¬Breaks (.error (.failure reason) : Evaluated α) := by
  intro impossible
  rcases impossible with ⟨_, ⟨⟩⟩

end Breaks

/-! ## Lists of actions -/

/-- Whether an action on a list comes to an item: it succeeds on all items before. -/
inductive Reaches {ε α β : Type} (action : α → Except ε β) : List α → α → Prop
  | first {item : α} {rest : List α} : Reaches action (item :: rest) item
  | later {item other : α} {rest : List α} {result : β} :
      action item = .ok result → Reaches action rest other → Reaches action (item :: rest) other

section Reaches

variable {ε α β : Type} {action : α → Except ε β} {item other : α} {rest : List α}
  {property : α → Prop}

theorem not_reaches_nil : ¬∃ other, Reaches action [] other ∧ property other := by
  intro impossible
  obtain ⟨_, ⟨⟩, _⟩ := impossible

/-- An action comes to the first item and, if it succeeds there, to what it comes to in the rest. -/
theorem reaches_cons_iff :
    (∃ other, Reaches action (item :: rest) other ∧ property other) ↔
      property item ∨ ∃ result, action item = .ok result ∧
        ∃ other, Reaches action rest other ∧ property other := by
  constructor
  · intro shown
    rcases shown with ⟨other, reached, holds⟩
    cases reached with
    | first => exact .inl holds
    | later succeeded reached => exact .inr ⟨_, succeeded, other, reached, holds⟩
  · intro shown
    rcases shown with holds | ⟨result, succeeded, other, reached, holds⟩
    · exact ⟨item, .first, holds⟩
    · exact ⟨other, .later succeeded reached, holds⟩

theorem reaches_singleton : Reaches action [item] other ↔ other = item := by
  constructor
  · intro reached
    rcases reached with _ | ⟨_, ⟨⟩⟩
    rfl
  · intro same
    subst same
    exact .first

end Reaches

theorem breaks_forAll_iff {α β : Type} {action : α → Outcome β} {items : List α} :
    Breaks (forAll action items) ↔ ∃ item, Reaches action items item ∧ Breaks (action item) := by
  induction items with
  | nil => exact iff_of_false not_breaks_ok not_reaches_nil
  | cons item rest ih =>
      simp only [forAll_cons, breaks_bind, not_breaks_ok, and_false, exists_false, or_false, ih,
        reaches_cons_iff]

instance : Faulty CompileError := ⟨.fault⟩

theorem breaks_forAllFrom_iff {α β : Type} {action : Nat → α → Compiled β} {items : List α}
    {index : Nat} :
    Breaks (Compile.forAllFrom action index items) ↔
      ∃ item, Reaches (fun item => action item.2 item.1) (items.zipIdx index) item ∧
        Breaks (action item.2 item.1) := by
  induction items generalizing index with
  | nil => exact iff_of_false not_breaks_ok not_reaches_nil
  | cons item rest ih =>
      simp only [forAllFrom_cons, breaks_bind, not_breaks_ok, and_false, exists_false, or_false, ih,
        List.zipIdx_cons, reaches_cons_iff]

theorem breaks_forCells_iff {α : Type} {action : (columnId text : String) → Compiled α}
    {columnIds texts : List String} :
    Breaks (Compile.forCells action columnIds texts) ↔
      ∃ cell, Reaches (fun cell => action cell.1 cell.2) (columnIds.zip texts) cell ∧
        Breaks (action cell.1 cell.2) := by
  induction columnIds generalizing texts with
  | nil => exact iff_of_false not_breaks_ok not_reaches_nil
  | cons columnId columnIds ih =>
      cases texts with
      | nil => exact iff_of_false not_breaks_ok not_reaches_nil
      | cons text texts =>
          simp only [forCells_cons, breaks_bind, not_breaks_ok, and_false, exists_false, or_false, ih,
            List.zip_cons_cons, reaches_cons_iff]

end DecisionTables
