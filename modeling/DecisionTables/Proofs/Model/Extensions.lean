import DecisionTables.Model.Source
import DecisionTables.Proofs.Outcome

/-!
# Extension content

Tools write documents in several namespaces and add elements and attributes of their own. A model is
read by the local names of elements and by a few attributes, so that neither is noticed: a document
and the same document in other namespaces and with additions anywhere declare the same model, or are
refused with the same error. What stands in the way of such a change is only that the first child of
a name counts, or all of them; an addition has none of the names that are looked for.
-/

namespace DecisionTables.Model.Document

open Xml (Element Name)

/-! ## Additions to a list -/

/-- How a list comes from another one: its members correspond in order, and there may be additions
between them. -/
inductive Interspersed {α : Type} (Keeps : α → α → Prop) (Added : α → Prop) :
    List α → List α → Prop
  | nil : Interspersed Keeps Added [] []
  | kept {item other : α} {rest others : List α} :
      Keeps item other → Interspersed Keeps Added rest others →
      Interspersed Keeps Added (item :: rest) (other :: others)
  | added {other : α} {rest others : List α} :
      Added other → Interspersed Keeps Added rest others →
      Interspersed Keeps Added rest (other :: others)

namespace Interspersed

variable {α : Type} {Keeps : α → α → Prop} {Added : α → Prop} {items others : List α}

/-- A selection that members agree on and that takes no addition selects corresponding members. -/
theorem filter {select : α → Bool} (related : Interspersed Keeps Added items others)
    (agree : ∀ item other, Keeps item other → select item = select other)
    (passed : ∀ other, Added other → select other = false) :
    List.Forall₂ (fun item other => Keeps item other ∧ select item = true) (items.filter select)
      (others.filter select) := by
  induction related with
  | nil => exact .nil
  | @kept item other _ _ keeps _ ih =>
      rw [List.filter_cons, List.filter_cons, ← agree item other keeps]
      split
      · rename_i selected
        exact .cons ⟨keeps, selected⟩ ih
      · exact ih
  | @added other _ _ foreign _ ih =>
      rw [List.filter_cons, passed other foreign]
      exact ih

/-- Additional entries of other names do not hide the value of a name. -/
theorem lookup {β : Type} {Foreign : Name → Prop} {entries extended : List (Name × β)}
    (related : Interspersed (· = ·) (fun entry => Foreign entry.1) entries extended) {name : Name}
    (known : ¬Foreign name) : entries.lookup name = extended.lookup name := by
  induction related with
  | nil => rfl
  | @kept entry other _ _ same _ ih =>
      subst same
      rw [List.lookup_cons, List.lookup_cons, ih]
  | @added entry _ _ foreign _ ih =>
      have other : (name == entry.1) = false := by
        rw [beq_eq_false_iff_ne]
        intro same
        exact known (same ▸ foreign)
      rw [List.lookup_cons, other, ih]

end Interspersed

/-! ## Extended elements -/

/-- The local names of the elements that a model is read from. -/
def elementNames : List String :=
  ["definitions", "decision", "decisionTable", "literalExpression", "invocation", "context",
    "relation", "list", "functionDefinition", "informationRequirement", "requiredDecision", "input",
    "inputExpression", "output", "outputValues", "rule", "inputEntry", "outputEntry", "description",
    "text", "binding", "parameter"]

/-- The names of the attributes that a model is read from. They belong to no namespace. -/
def attributeNames : List String :=
  ["id", "name", "label", "typeRef", "hitPolicy", "aggregation", "href", "namespace",
    "expressionLanguage"]

/-- Whether an attribute is of a name that no model is read from. -/
def ForeignAttribute (name : Name) : Prop :=
  ∀ known ∈ attributeNames, name ≠ ⟨none, known⟩

instance (name : Name) : Decidable (ForeignAttribute name) :=
  inferInstanceAs (Decidable (∀ known ∈ attributeNames, name ≠ ⟨none, known⟩))

/-- Whether an element is of a name that no model is read from. What is inside of it does not
matter. -/
def ForeignElement (element : Element) : Prop :=
  element.localName ∉ elementNames

instance (element : Element) : Decidable (ForeignElement element) :=
  inferInstanceAs (Decidable (element.localName ∉ elementNames))

/-- Whether an element is another one in other namespaces and with additions, at any depth: its name
has the same local part, and it may have more attributes and children, of names that no model is read
from. The text of an element that holds a text is the same; that of any other one is the white space
before its first child, which may be an additional one. -/
inductive Extended : Element → Element → Prop
  | element {first second : Element} :
      first.localName = second.localName →
      Interspersed (· = ·) (fun entry => ForeignAttribute entry.1) first.attributes
        second.attributes →
      (first.localName ∈ ["text", "description"] → first.text = second.text) →
      Interspersed Extended ForeignElement first.children second.children →
      Extended first second

namespace Extended

variable {first second : Element}

theorem localName (extended : Extended first second) : first.localName = second.localName := by
  cases extended with
  | element same _ _ _ => exact same

theorem attribute? (extended : Extended first second) {name : String}
    (known : name ∈ attributeNames) : first.attribute? name = second.attribute? name := by
  cases extended with
  | element _ attributes _ _ => exact attributes.lookup fun foreign => foreign name known rfl

theorem text (extended : Extended first second)
    (holds : first.localName ∈ ["text", "description"]) : first.text = second.text := by
  cases extended with
  | element _ _ same _ => exact same holds

/-- What is read of every child of a name in the same way is the same. -/
theorem map_childrenNamed {β : Type} {read : Element → β} (extended : Extended first second)
    {name : String} (known : name ∈ elementNames)
    (same : ∀ child other, Extended child other → child.localName = name → read child = read other) :
    (first.childrenNamed name).map read = (second.childrenNamed name).map read := by
  cases extended with
  | element _ _ _ children =>
      have kept (child other : Element) (related : Extended child other) :
          (child.localName == name) = (other.localName == name) := by rw [related.localName]
      have dropped (other : Element) (foreign : ForeignElement other) :
          (other.localName == name) = false :=
        beq_eq_false_iff_ne.mpr fun named => foreign (named ▸ known)
      have related := children.filter kept dropped
      rw [← List.forall₂_eq_eq_eq, List.forall₂_map_left_iff, List.forall₂_map_right_iff]
      refine related.imp fun child other found => ?_
      exact same child other found.1 (beq_iff_eq.mp found.2)

/-- What is read of the first child of a name in the same way is the same. -/
theorem map_child? {β : Type} {read : Element → β} (extended : Extended first second)
    {name : String} (known : name ∈ elementNames)
    (same : ∀ child other, Extended child other → child.localName = name → read child = read other) :
    (first.child? name).map read = (second.child? name).map read := by
  have related := extended.map_childrenNamed known same
  simp only [Element.child?, ← List.head?_filter, ← List.head?_map]
  exact congrArg List.head? related

/-- What is read of the first child of a name, if it is there, is the same. -/
theorem bind_child? {β : Type} {read : Element → Option β} (extended : Extended first second)
    {name : String} (known : name ∈ elementNames)
    (same : ∀ child other, Extended child other → child.localName = name → read child = read other) :
    (first.child? name).bind read = (second.child? name).bind read := by
  simpa only [Option.bind_map, Function.id_comp] using
    congrArg (Option.bind · id) (extended.map_child? known same)

/-! ## What is read -/

theorem textOf (extended : Extended first second) : textOf first = textOf second := by
  have shown (element : Element) : Document.textOf element =
      ((element.child? "text").map fun content => Text.trim content.text).getD "" := by
    rw [Document.textOf]
    cases element.child? "text" <;> rfl
  rw [shown, shown, extended.map_child? (by decide)]
  intro content other related named
  rw [related.text (by simp [named])]

theorem textOf? (extended : Extended first second) {name : String} (known : name ∈ elementNames) :
    textOf? (first.child? name) = textOf? (second.child? name) := by
  have shown (child : Option Element) :
      Document.textOf? child = (child.map Document.textOf).getD "" := by
    cases child <;> rfl
  rw [shown, shown, extended.map_child? known]
  intro child other related _
  exact related.textOf

theorem inputClause (extended : Extended first second) :
    inputClause first = inputClause second := by
  have typeRef :
      ((first.child? "inputExpression").bind fun found => found.attribute? "typeRef") =
        (second.child? "inputExpression").bind fun found => found.attribute? "typeRef" := by
    apply extended.bind_child? (by decide)
    intro child other related _
    exact related.attribute? (by decide)
  simp only [Document.inputClause]
  rw [extended.attribute? (by decide), extended.attribute? (by decide),
    extended.textOf? (by decide), typeRef]

theorem outputClause (extended : Extended first second) :
    outputClause first = outputClause second := by
  simp only [Document.outputClause]
  rw [extended.attribute? (by decide), extended.attribute? (by decide),
    extended.attribute? (by decide), extended.attribute? (by decide), extended.textOf? (by decide)]

theorem ruleDefinition (extended : Extended first second) :
    ruleDefinition first = ruleDefinition second := by
  have entries {name : String} (known : name ∈ elementNames) :
      (first.childrenNamed name).map Document.textOf =
        (second.childrenNamed name).map Document.textOf :=
    extended.map_childrenNamed known fun child other related _ => related.textOf
  have description :
      ((first.child? "description").bind fun found => nonempty? (Text.trim found.text)) =
        (second.child? "description").bind fun found => nonempty? (Text.trim found.text) := by
    apply extended.bind_child? (by decide)
    intro child other related named
    rw [related.text (by simp [named])]
  simp only [Document.ruleDefinition]
  rw [extended.attribute? (by decide), description, entries (by decide), entries (by decide)]

theorem table (extended : Extended first second) : table first = table second := by
  have inputs : (first.childrenNamed "input").map Document.inputClause =
      (second.childrenNamed "input").map Document.inputClause :=
    extended.map_childrenNamed (by decide) fun child other related _ => related.inputClause
  have outputs : (first.childrenNamed "output").map Document.outputClause =
      (second.childrenNamed "output").map Document.outputClause :=
    extended.map_childrenNamed (by decide) fun child other related _ => related.outputClause
  have rules : (first.childrenNamed "rule").map Document.ruleDefinition =
      (second.childrenNamed "rule").map Document.ruleDefinition :=
    extended.map_childrenNamed (by decide) fun child other related _ => related.ruleDefinition
  simp only [Document.table]
  rw [extended.attribute? (by decide), extended.attribute? (by decide),
    extended.attribute? (by decide), inputs, outputs, rules]

theorem bindings (extended : Extended first second) : bindings first = bindings second := by
  simp only [Document.bindings, List.flatMap_def]
  apply congrArg List.flatten
  apply extended.map_childrenNamed (by decide)
  intro binding other related _
  apply related.map_childrenNamed (by decide)
  intro parameter other related _
  rw [related.attribute? (by decide)]

theorem logic (extended : Extended first second) (variant : LogicVariant) :
    logic variant first = logic variant second := by
  cases variant with
  | decisionTable => exact congrArg Logic.decisionTable extended.table
  | literalExpression =>
      simp only [Document.logic]
      rw [extended.textOf, extended.attribute? (by decide)]
  | invocation =>
      simp only [Document.logic]
      rw [extended.textOf? (by decide), extended.bindings]
  | context | relation | list | functionDefinition | unknown => rfl

end Extended

/-- An element of a name that no model is read from holds no logic. -/
theorem ofElement?_of_foreign {element : Element} (foreign : ForeignElement element) :
    LogicVariant.ofElement? element.localName = none := by
  cases holds : LogicVariant.ofElement? element.localName with
  | none => rfl
  | some variant =>
      refine absurd ?_ foreign
      unfold LogicVariant.ofElement? at holds
      split at holds <;> simp_all [elementNames]

theorem firstLogic_of_interspersed {elements others : List Element}
    (related : Interspersed Extended ForeignElement elements others) :
    firstLogic elements = firstLogic others := by
  induction related with
  | nil => rfl
  | kept related _ ih => simp only [firstLogic, related.localName, related.logic, ih]
  | added foreign _ ih => simp only [firstLogic, ofElement?_of_foreign foreign, ih]

namespace Extended

variable {first second : Element}

theorem required (extended : Extended first second) : required first = required second := by
  have selected (element : Element) : Document.required element =
      ((element.childrenNamed "informationRequirement").map fun requirement => do
        let reference ← (← requirement.child? "requiredDecision").attribute? "href"
        if reference.isEmpty then none
        else some (String.ofList (reference.toList.dropWhile (· == '#')))).filterMap id := by
    rw [List.filterMap_map]
    rfl
  rw [selected, selected, extended.map_childrenNamed (by decide)]
  intro requirement other related _
  exact related.bind_child? (by decide) fun child other related _ => by
    rw [related.attribute? (by decide)]

theorem decision (extended : Extended first second) : decision first = decision second := by
  have held : firstLogic first.children = firstLogic second.children := by
    cases extended with
    | element _ _ _ children => exact firstLogic_of_interspersed children
  have id : first.attribute? "id" = second.attribute? "id" := extended.attribute? (by decide)
  have name : first.attribute? "name" = second.attribute? "name" := extended.attribute? (by decide)
  unfold Document.decision
  rw [id, name, held, extended.required]

/-- An extended root element declares the same decisions, or is refused for the same reason. -/
theorem decisions (extended : Extended first second) : decisions first = decisions second := by
  have declared : (first.childrenNamed "decision").mapM Document.decision =
      (second.childrenNamed "decision").mapM Document.decision := by
    have each : (first.childrenNamed "decision").map Document.decision =
        (second.childrenNamed "decision").map Document.decision :=
      extended.map_childrenNamed (by decide) fun child other related _ => related.decision
    simpa only [List.mapM_map, Function.id_comp] using congrArg (List.mapM id) each
  simp only [Document.decisions, extended.localName, declared]

end Extended

/-! ## Models -/

/-- How the outcomes of reading two root elements agree. Either both are refused with the same error,
or they give models with the same label, name and decisions. A namespace that no attribute declares
is that of the root element itself, and the checksum is that of the content of the source. -/
inductive SameModel (first second : Element) :
    Except ModelError Model → Except ModelError Model → Prop
  | refused {error : ModelError} : SameModel first second (.error error) (.error error)
  | read {model other : Model} :
      model.label = other.label → model.name = other.name → model.decisions = other.decisions →
      (model.modelNamespace = other.modelNamespace ∨
        model.modelNamespace = first.name.space ∧ other.modelNamespace = second.name.space) →
      SameModel first second (.ok model) (.ok other)

/-- Neither other namespaces nor additions change what is read from a document. -/
theorem sameModel_of_extended {first second : Element} (extended : Extended first second)
    (label checksum otherChecksum : String) :
    SameModel first second (ofOutcome label checksum (.ok first))
      (ofOutcome label otherChecksum (.ok second)) := by
  have space : first.attribute? "namespace" = second.attribute? "namespace" :=
    extended.attribute? (by decide)
  have name : first.attribute? "name" = second.attribute? "name" := extended.attribute? (by decide)
  simp only [ofOutcome, ofElement, extended.decisions, space, name]
  cases decisions second with
  | error problem => exact .refused
  | ok declared =>
      refine .read rfl rfl rfl ?_
      cases (second.attribute? "namespace").bind nonempty? with
      | none => exact .inr ⟨rfl, rfl⟩
      | some declaredSpace => exact .inl rfl

def constantDocument : Element :=
  ⟨⟨none, "definitions"⟩, [], "", [
    ⟨⟨none, "decision"⟩, [(⟨none, "id"⟩, "one")], "", [
      ⟨⟨none, "decisionTable"⟩, [], "", [
        ⟨⟨none, "output"⟩, [], "", []⟩,
        ⟨⟨none, "rule"⟩, [], "", [
          ⟨⟨none, "outputEntry"⟩, [], "", [⟨⟨none, "text"⟩, [], "1", []⟩]⟩]⟩]⟩]⟩]⟩

/-- The same decision as a tool writes it: in a namespace, with an id of the tool, with an element of
the tool that holds another decision, and with a remark on the rule. -/
def annotatedDocument : Element :=
  ⟨⟨some "dmn", "definitions"⟩, [(⟨some "tool", "id"⟩, "7")], "\n", [
    ⟨⟨some "tool", "extensionElements"⟩, [], "", [⟨⟨some "dmn", "decision"⟩, [], "", []⟩]⟩,
    ⟨⟨some "dmn", "decision"⟩, [(⟨none, "id"⟩, "one")], "", [
      ⟨⟨some "dmn", "decisionTable"⟩, [], "", [
        ⟨⟨some "dmn", "output"⟩, [], "", []⟩,
        ⟨⟨some "dmn", "rule"⟩, [], "", [
          ⟨⟨some "dmn", "outputEntry"⟩, [], "", [⟨⟨some "dmn", "text"⟩, [], "1", []⟩]⟩,
          ⟨⟨some "dmn", "annotationEntry"⟩, [], "always", []⟩]⟩]⟩]⟩]⟩

theorem annotated_extended : Extended constantDocument annotatedDocument := by
  have text : Extended ⟨⟨none, "text"⟩, [], "1", []⟩ ⟨⟨some "dmn", "text"⟩, [], "1", []⟩ :=
    .element rfl .nil (fun _ => rfl) .nil
  have entry : Extended ⟨⟨none, "outputEntry"⟩, [], "", [_]⟩
      ⟨⟨some "dmn", "outputEntry"⟩, [], "", [_]⟩ :=
    .element rfl .nil (fun _ => rfl) (.kept text .nil)
  have remark : ForeignElement ⟨⟨some "dmn", "annotationEntry"⟩, [], "always", []⟩ := by decide
  have rule : Extended ⟨⟨none, "rule"⟩, [], "", [_]⟩ ⟨⟨some "dmn", "rule"⟩, [], "", [_, _]⟩ :=
    .element rfl .nil (fun _ => rfl) (.kept entry (.added remark .nil))
  have output : Extended ⟨⟨none, "output"⟩, [], "", []⟩ ⟨⟨some "dmn", "output"⟩, [], "", []⟩ :=
    .element rfl .nil (fun _ => rfl) .nil
  have table : Extended ⟨⟨none, "decisionTable"⟩, [], "", [_, _]⟩
      ⟨⟨some "dmn", "decisionTable"⟩, [], "", [_, _]⟩ :=
    .element rfl .nil (fun _ => rfl) (.kept output (.kept rule .nil))
  have decision : Extended ⟨⟨none, "decision"⟩, [(⟨none, "id"⟩, "one")], "", [_]⟩
      ⟨⟨some "dmn", "decision"⟩, [(⟨none, "id"⟩, "one")], "", [_]⟩ :=
    .element rfl (.kept rfl .nil) (fun _ => rfl) (.kept table .nil)
  have toolId : ForeignAttribute ⟨some "tool", "id"⟩ := by decide
  have toolElement : ForeignElement ⟨⟨some "tool", "extensionElements"⟩, [], "",
      [⟨⟨some "dmn", "decision"⟩, [], "", []⟩]⟩ := by decide
  exact .element rfl (.added toolId .nil) (fun holds => absurd holds (by decide))
    (.added toolElement (.kept decision .nil))

/-- What the tool adds is not noticed, not even the decision within its own element. -/
theorem annotated_sameModel : Extended constantDocument annotatedDocument ∧
    SameModel constantDocument annotatedDocument
      (ofOutcome anonymousLabel "plain" (.ok constantDocument))
      (ofOutcome anonymousLabel "annotated" (.ok annotatedDocument)) :=
  ⟨annotated_extended, sameModel_of_extended annotated_extended anonymousLabel "plain" "annotated"⟩

end DecisionTables.Model.Document
