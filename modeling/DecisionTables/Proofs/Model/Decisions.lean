import DecisionTables.Proofs.Model.Content
import DecisionTables.Proofs.Table.Acceptance
import DecisionTables.Proofs.Table.Problems

/-!
# The decisions of a document

A model has exactly the decisions that the root element of its document declares, in their order.
The structure of a document is checked in three steps: the name of the root element, the ids of all
decisions, and then that no id stands twice. What is read has distinct ids, so that each of them
selects its decision, and logic of the kind that it is said to have, so that no decision is without
a table where one is announced.
-/

namespace DecisionTables.Model

open Xml (Element)

namespace Document

/-! ## One decision -/

/-- Whether an element has an id that is not empty. -/
def HasId (element : Element) : Prop :=
  ∃ id, element.attribute? "id" = some id ∧ id ≠ ""

/-- The logic that elements hold: that of the first one whose name is that of a kind of logic. -/
inductive Holds : List Element → LogicVariant → Option Logic → Prop
  | nothing {elements : List Element} :
      (∀ element ∈ elements, LogicVariant.ofElement? element.localName = none) →
      Holds elements .unknown none
  | first {before after : List Element} {element : Element} {variant : LogicVariant} :
      (∀ other ∈ before, LogicVariant.ofElement? other.localName = none) →
      LogicVariant.ofElement? element.localName = some variant →
      Holds (before ++ element :: after) variant (some (logic variant element))

/-- The decision that an element declares. -/
structure Declares (element : Element) (definition : DecisionDefinition) : Prop where
  id : element.attribute? "id" = some definition.id
  nonempty : definition.id ≠ ""
  name : definition.name = element.attribute? "name"
  logic : Holds element.children definition.variant definition.logic
  required : definition.requiredDecisions = Document.required element

variable {element : Element} {elements : List Element} {variant : LogicVariant}
  {held : Option Logic} {definition : DecisionDefinition} {definitions : List DecisionDefinition}
  {problem : StructureProblem} {id : String}

theorem firstLogic_skip {before : List Element}
    (others : ∀ other ∈ before, LogicVariant.ofElement? other.localName = none)
    (after : List Element) : firstLogic (before ++ after) = firstLogic after := by
  induction before with
  | nil => rfl
  | cons first before ih =>
      obtain ⟨other, others⟩ := List.forall_mem_cons.mp others
      rw [List.cons_append, firstLogic, other]
      exact ih others

theorem Holds.skip (other : LogicVariant.ofElement? element.localName = none)
    (holds : Holds elements variant held) : Holds (element :: elements) variant held := by
  cases holds with
  | nothing others => exact .nothing (List.forall_mem_cons.mpr ⟨other, others⟩)
  | @first before after found _ others kind =>
      exact @Holds.first (element :: before) after found _
        (List.forall_mem_cons.mpr ⟨other, others⟩) kind

theorem firstLogic_holds (elements : List Element) :
    Holds elements (firstLogic elements).1 (firstLogic elements).2 := by
  induction elements with
  | nil => exact .nothing nofun
  | cons element rest ih =>
      rw [firstLogic]
      cases kind : LogicVariant.ofElement? element.localName with
      | some variant => exact @Holds.first [] rest element variant nofun kind
      | none => exact ih.skip kind

theorem holds_iff : Holds elements variant held ↔ firstLogic elements = (variant, held) := by
  constructor
  · intro holds
    cases holds with
    | nothing others =>
        rw [← List.append_nil elements, firstLogic_skip others]
        rfl
    | first others kind => rw [firstLogic_skip others, firstLogic, kind]
  · intro found
    have holds := firstLogic_holds elements
    rwa [found] at holds

/-- Logic is of the kind that it is said to be. -/
theorem Holds.table_iff (holds : Holds elements variant held) :
    variant = .decisionTable ↔ ∃ table, held = some (.decisionTable table) := by
  cases holds with
  | nothing => simp
  | first others kind => cases variant <;> simp [logic]

theorem bind_nonempty?_eq_some_iff {text : Option String} :
    text.bind nonempty? = some id ↔ text = some id ∧ id ≠ "" := by
  cases text with
  | none => simp
  | some text =>
      rw [Option.bind_some, nonempty?]
      by_cases empty : text = ""
      · subst empty
        refine iff_of_false nofun fun shown => ?_
        cases shown.1
        exact shown.2 rfl
      · have shown : text.isEmpty = false := by simpa using empty
        rw [shown, if_neg Bool.false_ne_true, Option.some.injEq]
        exact ⟨fun same => ⟨same, same ▸ empty⟩, And.left⟩

theorem decision_eq_ok_iff : decision element = .ok definition ↔ Declares element definition := by
  rw [decision]
  cases identified : (element.attribute? "id").bind nonempty? with
  | none =>
      refine iff_of_false nofun fun declares => ?_
      rw [bind_nonempty?_eq_some_iff.mpr ⟨declares.id, declares.nonempty⟩] at identified
      cases identified
  | some id =>
      obtain ⟨given, nonempty⟩ := bind_nonempty?_eq_some_iff.mp identified
      constructor
      · intro read
        cases read
        exact ⟨given, nonempty, rfl, firstLogic_holds element.children, rfl⟩
      · intro declares
        obtain ⟨sameId, _, sameName, logic, required⟩ := declares
        cases given.symm.trans sameId
        simp only [holds_iff.mp logic, ← sameName, ← required]

theorem decision_eq_error_iff :
    decision element = .error problem ↔ problem = .missingId ∧ ¬HasId element := by
  have given : HasId element ↔ ∃ id, (element.attribute? "id").bind nonempty? = some id := by
    simp only [bind_nonempty?_eq_some_iff, HasId]
  rw [given, decision]
  cases (element.attribute? "id").bind nonempty? with
  | none => simp [eq_comm]
  | some id => simp

/-- An element declares a decision exactly if it has an id. -/
theorem exists_declares_iff : (∃ definition, Declares element definition) ↔ HasId element := by
  constructor
  · rintro ⟨definition, declares⟩
    exact ⟨definition.id, declares.id, declares.nonempty⟩
  · intro given
    cases read : decision element with
    | ok definition => exact ⟨definition, decision_eq_ok_iff.mp read⟩
    | error problem => exact absurd given (decision_eq_error_iff.mp read).2

theorem exists_forall₂_declares_iff :
    (∃ definitions, List.Forall₂ Declares elements definitions) ↔
      ∀ element ∈ elements, HasId element := by
  simp only [exists_forall₂_iff, exists_declares_iff]

/-! ## All decisions -/

theorem mapM_decision_eq_ok_iff :
    elements.mapM decision = .ok definitions ↔ List.Forall₂ Declares elements definitions := by
  induction elements generalizing definitions with
  | nil => simp [eq_comm]
  | cons element rest ih =>
      simp only [List.mapM_cons, Except.bind_eq_ok_iff, decision_eq_ok_iff, ih, Except.pure_eq_ok,
        Except.ok.injEq, List.forall₂_cons_left_iff, exists_and_left, @eq_comm _ definitions]

/-- Reading decisions ends at one without an id, if there is any. -/
theorem mapM_decision_eq_error_iff :
    elements.mapM decision = .error problem ↔
      problem = .missingId ∧ ∃ element ∈ elements, ¬HasId element := by
  induction elements with
  | nil => simp
  | cons element rest ih =>
      simp only [List.mapM_cons, Except.bind_eq_error_iff, decision_eq_error_iff, ih,
        Except.pure_eq_ok, reduceCtorEq, and_false, exists_false, or_false, List.mem_cons,
        exists_eq_or_imp]
      constructor
      · intro shown
        rcases shown with ⟨rfl, missing⟩ | ⟨_, _, rfl, found⟩
        · exact ⟨rfl, .inl missing⟩
        · exact ⟨rfl, .inr found⟩
      · intro shown
        obtain ⟨rfl, found⟩ := shown
        by_cases given : HasId element
        · obtain ⟨definition, declares⟩ := exists_declares_iff.mpr given
          have later := found.resolve_left (not_not_intro given)
          exact .inr ⟨definition, decision_eq_ok_iff.mpr declares, rfl, later⟩
        · exact .inl ⟨rfl, given⟩

theorem exists_declares_of_mem (related : List.Forall₂ Declares elements definitions)
    (member : definition ∈ definitions) : ∃ element, Declares element definition := by
  induction related with
  | nil => cases member
  | cons declares _ ih =>
      cases member with
      | head => exact ⟨_, declares⟩
      | tail _ member => exact ih member

/-! ## Repeated ids -/

/-- The elements of the decisions of a root element. -/
def declaring (root : Element) : List Element :=
  root.childrenNamed "decision"

def givenIds (root : Element) : List String :=
  (declaring root).filterMap fun element => element.attribute? "id"

/-- Whether an id is the first of a list that repeats one before it. -/
def FirstRepeated (id : String) (ids : List String) : Prop :=
  ∃ before after, ids = before ++ id :: after ∧ before.Nodup ∧ id ∈ before

theorem not_nodup_of_mem {before after : List String} (member : id ∈ before) :
    ¬(before ++ id :: after).Nodup := fun distinct =>
  (List.nodup_append.mp distinct).2.2 id member id List.mem_cons_self rfl

theorem forall₂_declares_ids (related : List.Forall₂ Declares elements definitions) :
    (elements.filterMap fun element => element.attribute? "id") =
      definitions.map DecisionDefinition.id := by
  induction related with
  | nil => rfl
  | cons declares _ ih => rw [List.filterMap_cons, declares.id, List.map_cons, ih]

/-- The search for a repetition ends at the first id that is among the seen ones or those before
it. -/
theorem repeated?_eq_some {seen : List String} (found : repeated? seen definitions = some id) :
    ∃ before after, definitions.map DecisionDefinition.id = before ++ id :: after ∧
      before.Nodup ∧ (∀ other ∈ before, other ∉ seen) ∧ (id ∈ before ∨ id ∈ seen) := by
  induction definitions generalizing seen with
  | nil => cases found
  | cons definition rest ih =>
      rw [repeated?] at found
      split at found
      · rename_i member
        cases found
        have among : definition.id ∈ seen := List.contains_iff_mem.mp member
        exact ⟨[], rest.map DecisionDefinition.id, rfl, List.nodup_nil, List.forall_mem_nil _,
          .inr among⟩
      · rename_i fresh
        have unseen : definition.id ∉ seen := fun among => fresh (List.contains_iff_mem.mpr among)
        obtain ⟨before, after, ids, distinct, apart, met⟩ := ih found
        refine ⟨definition.id :: before, after, ?_, ?_, ?_, ?_⟩
        · rw [List.map_cons, ids, List.cons_append]
        · exact List.nodup_cons.mpr
            ⟨fun member => apart definition.id member List.mem_cons_self, distinct⟩
        · refine List.forall_mem_cons.mpr ⟨unseen, fun other member among => ?_⟩
          exact apart other member (List.mem_cons_of_mem _ among)
        · rcases met with member | among
          · exact .inl (List.mem_cons_of_mem _ member)
          · rcases List.mem_cons.mp among with rfl | among
            · exact .inl List.mem_cons_self
            · exact .inr among

theorem firstRepeated_of_repeated? (found : repeated? [] definitions = some id) :
    FirstRepeated id (definitions.map DecisionDefinition.id) := by
  obtain ⟨before, after, ids, distinct, _, met⟩ := repeated?_eq_some found
  exact ⟨before, after, ids, distinct, met.resolve_right List.not_mem_nil⟩

theorem repeated?_eq_none_iff :
    repeated? [] definitions = none ↔ (definitions.map DecisionDefinition.id).Nodup := by
  constructor
  · intro unrepeated
    exact (repeated?_eq_none unrepeated).1
  · intro distinct
    rw [Option.eq_none_iff_forall_ne_some]
    intro id found
    obtain ⟨before, after, ids, _, member⟩ := firstRepeated_of_repeated? found
    exact not_nodup_of_mem member (ids ▸ distinct)

/-- Which id is the first to be repeated is determined by the ids. -/
theorem FirstRepeated.unique {ids : List String} {other : String}
    (one : FirstRepeated id ids) (another : FirstRepeated other ids) : id = other := by
  obtain ⟨before, after, rfl, distinct, member⟩ := one
  obtain ⟨front, back, same, apart, among⟩ := another
  -- If one list of distinct ids were longer than the other, it would hold the repetition.
  rcases List.append_eq_append_iff.mp same with ⟨extra, rfl, tail⟩ | ⟨extra, rfl, tail⟩
  · cases extra with
    | nil => exact (List.cons.inj tail).1
    | cons first extra =>
        obtain ⟨rfl, _⟩ := List.cons.inj tail
        exact absurd apart (not_nodup_of_mem member)
  · cases extra with
    | nil => exact (List.cons.inj tail).1.symm
    | cons first extra =>
        obtain ⟨rfl, _⟩ := List.cons.inj tail
        exact absurd distinct (not_nodup_of_mem among)

theorem repeated?_eq_some_iff :
    repeated? [] definitions = some id ↔
      FirstRepeated id (definitions.map DecisionDefinition.id) := by
  constructor
  · exact firstRepeated_of_repeated?
  · intro repeated
    cases found : repeated? [] definitions with
    | none =>
        obtain ⟨before, after, ids, _, member⟩ := repeated
        exact absurd (ids ▸ repeated?_eq_none_iff.mp found) (not_nodup_of_mem member)
    | some other => rw [repeated.unique (firstRepeated_of_repeated? found)]

/-! ## The decisions of a root element -/

variable {root : Element}

/-- The last check is only made of decisions that all have ids. -/
theorem decisions_of_definitions (named : root.localName = "definitions") :
    decisions root = (declaring root).mapM decision >>= fun declared =>
      match repeated? [] declared with
      | some id => .error (.duplicateId id)
      | none => .ok declared := by
  rw [decisions, if_neg (not_not_intro named)]
  rfl

theorem decisions_eq_ok_iff :
    decisions root = .ok definitions ↔
      root.localName = "definitions" ∧ List.Forall₂ Declares (declaring root) definitions ∧
        (givenIds root).Nodup := by
  by_cases named : root.localName = "definitions"
  · rw [decisions_of_definitions named]
    simp only [named, true_and, Except.bind_eq_ok_iff, mapM_decision_eq_ok_iff]
    constructor
    · rintro ⟨declared, related, checked⟩
      split at checked
      · cases checked
      · rename_i unrepeated
        cases checked
        refine ⟨related, ?_⟩
        rw [givenIds, forall₂_declares_ids related]
        exact repeated?_eq_none_iff.mp unrepeated
    · rintro ⟨related, distinct⟩
      rw [givenIds, forall₂_declares_ids related] at distinct
      refine ⟨definitions, related, ?_⟩
      rw [repeated?_eq_none_iff.mpr distinct]
  · refine iff_of_false ?_ fun declared => named declared.1
    rw [decisions, if_pos named]
    exact nofun

theorem decisions_eq_error_iff :
    decisions root = .error problem ↔
      (root.localName ≠ "definitions" ∧ problem = .wrongRoot root.localName) ∨
      root.localName = "definitions" ∧
        (((∃ element ∈ declaring root, ¬HasId element) ∧ problem = .missingId) ∨
          (∀ element ∈ declaring root, HasId element) ∧
            ∃ id, FirstRepeated id (givenIds root) ∧ problem = .duplicateId id) := by
  by_cases named : root.localName = "definitions"
  · rw [decisions_of_definitions named]
    simp only [named, ne_eq, not_true_eq_false, false_and, false_or, true_and,
      Except.bind_eq_error_iff, mapM_decision_eq_error_iff, mapM_decision_eq_ok_iff]
    refine or_congr and_comm ⟨?_, ?_⟩
    · rintro ⟨declared, related, checked⟩
      refine ⟨exists_forall₂_declares_iff.mp ⟨declared, related⟩, ?_⟩
      rw [givenIds, forall₂_declares_ids related]
      split at checked
      · rename_i id found
        cases checked
        exact ⟨id, repeated?_eq_some_iff.mp found, rfl⟩
      · cases checked
    · rintro ⟨given, id, repeated, rfl⟩
      obtain ⟨declared, related⟩ := exists_forall₂_declares_iff.mpr given
      rw [givenIds, forall₂_declares_ids related] at repeated
      refine ⟨declared, related, ?_⟩
      rw [repeated?_eq_some_iff.mpr repeated]
  · rw [decisions, if_pos named]
    simp only [named, ne_eq, not_false_eq_true, true_and, false_and, or_false, Except.error.injEq,
      eq_comm]

end Document

/-! ## Models of documents -/

/-- What a root element makes of a model. -/
structure HasDecisionsOf (root : Element) (model : Model) : Prop where
  /-- The decisions are those of the document in its order. -/
  declared : List.Forall₂ Document.Declares (Document.declaring root) model.decisions
  /-- The kind of logic is that of a table exactly if the logic is a table. -/
  table_iff : ∀ definition ∈ model.decisions,
    definition.variant = .decisionTable ↔ ∃ table, definition.logic = some (.decisionTable table)
  /-- No decision is announced as a table without being one. -/
  compiled : ∀ definition ∈ model.decisions, ∀ options id variant,
    definition.compile options ≠ .error (.problem id (.missingLogic variant))
  /-- An id selects the decision that has it. -/
  selected : ∀ id definition,
    model.select (some id) = .ok definition ↔ definition ∈ model.decisions ∧ definition.id = id
  /-- Any other id selects no decision. -/
  notFound : ∀ id, id ∉ model.decisionIds →
    model.select (some id) = .error (.notFound model.label (some id))

/-- What reading the document of a root element comes to. -/
structure ReadsDocument (label : String) (root : Element) (outcome : Except ModelError Model) :
    Prop where
  read_iff : (∃ model, outcome = .ok model) ↔
    root.localName = "definitions" ∧
      (∀ element ∈ Document.declaring root, Document.HasId element) ∧
      (Document.givenIds root).Nodup
  model : ∀ model, outcome = .ok model → model.label = label ∧ HasDecisionsOf root model
  /-- Nothing but the structure of the document is a reason for refusing it. -/
  refused : ∀ error, outcome = .error error → ∃ problem, error = .structure label problem
  wrongRoot_iff : ∀ found, outcome = .error (.structure label (.wrongRoot found)) ↔
    root.localName ≠ "definitions" ∧ found = root.localName
  missingId_iff : outcome = .error (.structure label .missingId) ↔
    root.localName = "definitions" ∧
      ∃ element ∈ Document.declaring root, ¬Document.HasId element
  duplicateId_iff : ∀ id, outcome = .error (.structure label (.duplicateId id)) ↔
    root.localName = "definitions" ∧
      (∀ element ∈ Document.declaring root, Document.HasId element) ∧
      Document.FirstRepeated id (Document.givenIds root)

variable {label checksum : String} {root : Element} {model : Model}

theorem ofOutcome_eq_ok (read : ofOutcome label checksum (.ok root) = .ok model) :
    model.label = label ∧ Document.decisions root = .ok model.decisions := by
  simp only [ofOutcome, ofElement] at read
  cases declared : Document.decisions root with
  | error problem => simp [declared] at read
  | ok definitions =>
      simp only [declared, Except.ok_bind, Except.pure_eq_ok, Except.ok.injEq] at read
      cases read
      exact ⟨rfl, rfl⟩

theorem exists_ofOutcome_eq_ok_iff :
    (∃ model, ofOutcome label checksum (.ok root) = .ok model) ↔
      ∃ definitions, Document.decisions root = .ok definitions := by
  simp only [ofOutcome, ofElement]
  cases Document.decisions root <;> simp

theorem ofOutcome_eq_error_iff {error : ModelError} :
    ofOutcome label checksum (.ok root) = .error error ↔
      ∃ problem, Document.decisions root = .error problem ∧ error = .structure label problem := by
  simp only [ofOutcome, ofElement]
  cases Document.decisions root <;> simp [eq_comm]

theorem ofOutcome_eq_structure_iff {problem : StructureProblem} :
    ofOutcome label checksum (.ok root) = .error (.structure label problem) ↔
      Document.decisions root = .error problem := by
  simp only [ofOutcome_eq_error_iff, ModelError.structure.injEq, true_and, exists_eq_right']

/-- Of a table, only the absence of decision table logic could be reported as such. -/
theorem compile_ne_missingLogic {definition : DecisionDefinition}
    (consistent : definition.variant = .decisionTable ↔
      ∃ table, definition.logic = some (.decisionTable table))
    (options : CompilerOptions) (id : String) (variant : LogicVariant) :
    definition.compile options ≠ .error (.problem id (.missingLogic variant)) := by
  intro failed
  unfold DecisionDefinition.compile at failed
  by_cases announced : definition.variant = .decisionTable
  · obtain ⟨table, held⟩ := consistent.mp announced
    rw [if_neg (not_not_intro announced), held] at failed
    exact (Compile.reportsOnly_table _ failed).2 variant rfl
  · rw [if_pos announced] at failed
    cases failed

theorem select_eq_ok_iff {id : String} {definition : DecisionDefinition}
    (distinct : model.decisionIds.Nodup) :
    model.select (some id) = .ok definition ↔
      definition ∈ model.decisions ∧ definition.id = id := by
  constructor
  · intro selected
    cases found : model.decision? id with
    | none => simp [select, found] at selected
    | some other =>
        simp only [select, found, Except.ok.injEq] at selected
        subst selected
        exact ⟨List.mem_of_find?_eq_some found, by simpa using List.find?_some found⟩
  · rintro ⟨member, rfl⟩
    exact select_of_distinct distinct member

theorem select_of_notMem {id : String} (missing : id ∉ model.decisionIds) :
    model.select (some id) = .error (.notFound model.label (some id)) := by
  have unfound : model.decision? id = none := by
    rw [decision?, List.find?_eq_none]
    intro definition member same
    have named : definition.id = id := by simpa using same
    exact missing (List.mem_map.mpr ⟨definition, member, named⟩)
  rw [select, unfound]

theorem hasDecisionsOf (decisions : Document.decisions root = .ok model.decisions) :
    HasDecisionsOf root model := by
  obtain ⟨_, declared, _⟩ := Document.decisions_eq_ok_iff.mp decisions
  have consistent : ∀ definition ∈ model.decisions, definition.variant = .decisionTable ↔
      ∃ table, definition.logic = some (.decisionTable table) := by
    intro definition member
    obtain ⟨_, declares⟩ := Document.exists_declares_of_mem declared member
    exact declares.logic.table_iff
  exact {
    declared := declared
    table_iff := consistent
    compiled := fun definition member => compile_ne_missingLogic (consistent definition member)
    selected := fun _ _ => select_eq_ok_iff (decisions_nodup decisions)
    notFound := fun _ => select_of_notMem }

/-- Reading a document gives the decisions that it declares or reports what is wrong with its
structure: the name of the root element first, then any decision without an id, and at last the
first id that stands twice. -/
theorem ofOutcome_readsDocument (label checksum : String) (root : Element) :
    ReadsDocument label root (ofOutcome label checksum (.ok root)) where
  read_iff := by
    simp only [exists_ofOutcome_eq_ok_iff, Document.decisions_eq_ok_iff, exists_and_left,
      exists_and_right, Document.exists_forall₂_declares_iff]
  model := by
    intro model read
    obtain ⟨labelled, decisions⟩ := ofOutcome_eq_ok read
    exact ⟨labelled, hasDecisionsOf decisions⟩
  refused := by
    intro error failed
    obtain ⟨problem, _, reported⟩ := ofOutcome_eq_error_iff.mp failed
    exact ⟨problem, reported⟩
  wrongRoot_iff := by
    intro found
    simp [ofOutcome_eq_structure_iff, Document.decisions_eq_error_iff]
  missingId_iff := by
    simp [ofOutcome_eq_structure_iff, Document.decisions_eq_error_iff]
  duplicateId_iff := by
    intro id
    simp [ofOutcome_eq_structure_iff, Document.decisions_eq_error_iff]

end DecisionTables.Model
