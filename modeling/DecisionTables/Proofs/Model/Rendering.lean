import DecisionTables.Proofs.Model.Content
import DecisionTables.Proofs.Model.OutputValues

/-!
# Writing models

Decisions are written as a tree of elements, and reading the tree gives exactly these decisions. The
elements may belong to any namespace. What a document does not tell apart cannot be read again:
texts are trimmed, an empty description or target is none, a required id does not begin with the
number sign of references, and a decision has an id of its own.
-/

namespace DecisionTables

open Xml (Element Name)

/-! ## Elements -/

namespace Model.Document

/-- The attributes that have a value. They belong to no namespace. -/
def given (attributes : List (String × Option String)) : List (Name × String) :=
  attributes.filterMap fun (name, value) => value.map fun text => (⟨none, name⟩, text)

/-- An element of a document whose elements belong to a namespace, if to any. -/
def node (space : Option String) (name : String) (attributes : List (String × Option String))
    (children : List Element) : Element :=
  ⟨⟨space, name⟩, given attributes, "", children⟩

def leaf (space : Option String) (name content : String) : Element :=
  ⟨⟨space, name⟩, [], content, []⟩

/-- An element with a text, which stands in an element of its own. -/
def worded (space : Option String) (name : String) (attributes : List (String × Option String))
    (text : String) : Element :=
  node space name attributes [leaf space "text" text]

end Model.Document

open Model.Document

def InputClause.element (space : Option String) (clause : InputClause) : Element :=
  node space "input" [("id", clause.id), ("label", clause.label)]
    [worded space "inputExpression" [("typeRef", clause.typeRef)] clause.expression]

def OutputClause.element (space : Option String) (clause : OutputClause) : Element :=
  node space "output"
    [("id", clause.id), ("name", clause.name), ("label", clause.label), ("typeRef", clause.typeRef)]
    (if clause.outputValues.isEmpty then []
      else [worded space "outputValues" [] (OutputValues.joined clause.outputValues)])

def RuleDefinition.element (space : Option String) (rule : RuleDefinition) : Element :=
  node space "rule" [("id", rule.id)]
    (rule.description.toList.map (leaf space "description") ++
      rule.inputEntries.map (worded space "inputEntry" []) ++
      rule.outputEntries.map (worded space "outputEntry" []))

def TableLogic.element (space : Option String) (table : TableLogic) : Element :=
  node space "decisionTable"
    [("id", table.id), ("hitPolicy", table.hitPolicy), ("aggregation", table.aggregation)]
    (table.inputs.map (InputClause.element space) ++
      table.outputs.map (OutputClause.element space) ++
      table.rules.map (RuleDefinition.element space))

/-- The element of the parameter that an invocation binds. -/
def boundParameter (space : Option String) (name : String) : Element :=
  node space "binding" [] [node space "parameter" [("name", some name)] []]

/-- The elements of the logic of a decision. A name of an element stands for that element. -/
def Logic.elements (space : Option String) : Logic → List Element
  | .decisionTable table => [table.element space]
  | .literalExpression text language =>
      [worded space "literalExpression" [("expressionLanguage", language)] text]
  | .invocation target bindings =>
      [node space "invocation" [] (target.toList.map (worded space "literalExpression" []) ++
        bindings.map (boundParameter space))]
  | .other name => name.toList.map fun name => node space name [] []

def requirement (space : Option String) (id : String) : Element :=
  node space "informationRequirement" []
    [node space "requiredDecision" [("href", some ("#" ++ id))] []]

def DecisionDefinition.element (space : Option String) (definition : DecisionDefinition) : Element :=
  node space "decision" [("id", some definition.id), ("name", definition.name)]
    (definition.requiredDecisions.map (requirement space) ++
      definition.logic.toList.flatMap (Logic.elements space))

/-- The root element of a model that declares some decisions. -/
def Model.root (space name : Option String) (decisions : List DecisionDefinition) : Element :=
  node space "definitions" [("name", name)] (decisions.map (DecisionDefinition.element space))

/-! ## Decisions that can be written -/

/-- Whether a text that may be missing is not empty if it is there, and trimmed. -/
def Present (text : Option String) : Prop :=
  ∀ content ∈ text, content ≠ "" ∧ Text.Trimmed content

/-- Whether a table can be written. -/
structure TableLogic.Writable (table : TableLogic) : Prop where
  expressions : ∀ clause ∈ table.inputs, Text.Trimmed clause.expression
  outputValues : ∀ clause ∈ table.outputs, ∀ value ∈ clause.outputValues, OutputValues.Plain value
  descriptions : ∀ rule ∈ table.rules, Present rule.description
  inputEntries : ∀ rule ∈ table.rules, ∀ text ∈ rule.inputEntries, Text.Trimmed text
  outputEntries : ∀ rule ∈ table.rules, ∀ text ∈ rule.outputEntries, Text.Trimmed text

/-- The logic of a kind that can be written. -/
inductive Logic.Writable : LogicVariant → Option Logic → Prop
  | none : Writable .unknown none
  | decisionTable {table : TableLogic} :
      table.Writable → Writable .decisionTable (some (.decisionTable table))
  | literalExpression {text : String} {language : Option String} :
      Text.Trimmed text → Writable .literalExpression (some (.literalExpression text language))
  | invocation {target : Option String} {bindings : List String} :
      Present target → Writable .invocation (some (.invocation target bindings))
  | other {variant : LogicVariant} :
      variant ∈ [.context, .relation, .list, .functionDefinition] →
      Writable variant (some (.other (some variant.name)))

/-- Whether a decision can be written. -/
structure DecisionDefinition.Writable (definition : DecisionDefinition) : Prop where
  id : definition.id ≠ ""
  logic : Logic.Writable definition.variant definition.logic
  required : ∀ id ∈ definition.requiredDecisions, id.toList.head? ≠ some '#'

/-! ## Reading elements -/

namespace Model.Document

variable {space : Option String} {name key : String} {children : List Element}

/-- An attribute is found unless it has no value. -/
@[simp] theorem lookup_given_cons {value : Option String}
    {attributes : List (String × Option String)} :
    (given ((name, value) :: attributes)).lookup ⟨none, key⟩ =
      if key = name then value.or ((given attributes).lookup ⟨none, key⟩)
      else (given attributes).lookup ⟨none, key⟩ := by
  cases value with
  | none => simp [given]
  | some text =>
      have first : given ((name, some text) :: attributes) =
          (⟨none, name⟩, text) :: given attributes := rfl
      rw [first, List.lookup_cons]
      by_cases same : key = name
      · simp [same]
      · have other : ((⟨none, key⟩ : Name) == ⟨none, name⟩) = false := by simpa using same
        rw [if_neg same, other]

@[simp] theorem lookup_given_nil : (given []).lookup ⟨none, key⟩ = none := rfl

@[simp] theorem attribute?_node {attributes : List (String × Option String)} :
    (node space name attributes children).attribute? key =
      (given attributes).lookup ⟨none, key⟩ := rfl

@[simp] theorem child?_node {attributes : List (String × Option String)} :
    (node space name attributes children).child? key =
      (children.filter fun child => child.localName == key).head? :=
  List.head?_filter.symm

@[simp] theorem childrenNamed_node {attributes : List (String × Option String)} :
    (node space name attributes children).childrenNamed key =
      children.filter fun child => child.localName == key := rfl

@[simp] theorem localName_node {attributes : List (String × Option String)} :
    (node space name attributes children).localName = name := rfl

@[simp] theorem localName_leaf {content : String} : (leaf space name content).localName = name := rfl

@[simp] theorem localName_worded {attributes : List (String × Option String)} {text : String} :
    (worded space name attributes text).localName = name := rfl

@[simp] theorem attribute?_worded {attributes : List (String × Option String)} {text : String} :
    (worded space name attributes text).attribute? key =
      (given attributes).lookup ⟨none, key⟩ := rfl

@[simp] theorem localName_input {clause : InputClause} :
    (clause.element space).localName = "input" := rfl

@[simp] theorem localName_output {clause : OutputClause} :
    (clause.element space).localName = "output" := rfl

@[simp] theorem localName_rule {rule : RuleDefinition} :
    (rule.element space).localName = "rule" := rfl

@[simp] theorem localName_boundParameter :
    (boundParameter space name).localName = "binding" := rfl

@[simp] theorem localName_requirement {id : String} :
    (requirement space id).localName = "informationRequirement" := rfl

@[simp] theorem localName_decision {definition : DecisionDefinition} :
    (definition.element space).localName = "decision" := rfl

/-- Of elements of one name, all are taken by that name and none by another one. -/
@[simp] theorem filter_written {α : Type} {items : List α} {written : α → Element}
    (named : ∀ item, (written item).localName = name) :
    (items.map written).filter (fun child => child.localName == key) =
      if name = key then items.map written else [] := by
  split
  · rename_i same
    rw [List.filter_eq_self]
    simpa [named] using fun _ _ => same
  · rename_i other
    rw [List.filter_eq_nil_iff]
    simpa [named] using fun _ _ => other

theorem textOf_worded {attributes : List (String × Option String)} {text : String}
    (clean : Text.Trimmed text) : textOf (worded space name attributes text) = text := by
  simp only [textOf, worded, child?_node]
  exact clean

/-! ## Reading what is written -/

/-- What is read again from its own element is so for every member of a list. -/
theorem map_written {α : Type} {items : List α} {written : α → Element} {read : Element → α}
    (again : ∀ item ∈ items, read (written item) = item) : (items.map written).map read = items := by
  rw [List.map_map]
  calc items.map (read ∘ written)
    _ = items.map id := List.map_congr_left again
    _ = items := List.map_id items

theorem inputClause_element {clause : InputClause} (clean : Text.Trimmed clause.expression) :
    inputClause (clause.element space) = clause := by
  simp [inputClause, InputClause.element, textOf?, textOf_worded clean]

theorem outputValues_element {clause : OutputClause}
    (plain : ∀ value ∈ clause.outputValues, OutputValues.Plain value) :
    OutputValues.split (textOf? ((clause.element space).child? "outputValues")) =
      clause.outputValues := by
  have clean := OutputValues.trimmed_joined plain
  rw [OutputClause.element, child?_node]
  cases values : clause.outputValues with
  | nil => rfl
  | cons value others =>
      rw [values] at plain clean
      simp [textOf?, textOf_worded clean, OutputValues.split_joined plain]

theorem outputClause_element {clause : OutputClause}
    (plain : ∀ value ∈ clause.outputValues, OutputValues.Plain value) :
    outputClause (clause.element space) = clause := by
  rw [outputClause, outputValues_element plain]
  simp [OutputClause.element]

/-- An element for every text that is there, and none for one that is missing. -/
@[simp] theorem head?_written {text : Option String} {written : String → Element} :
    (text.toList.map written).head? = text.map written := by
  cases text <;> rfl

theorem description_written {text : Option String} (present : Present text) :
    ((text.map (leaf space "description")).bind fun found => nonempty? (Text.trim found.text)) =
      text := by
  cases text with
  | none => rfl
  | some content =>
      obtain ⟨nonempty, clean⟩ := present content rfl
      have kept : Text.trim content = content := clean
      simp [leaf, nonempty?, kept, nonempty]

theorem ruleDefinition_element {rule : RuleDefinition} (described : Present rule.description)
    (inputs : ∀ text ∈ rule.inputEntries, Text.Trimmed text)
    (outputs : ∀ text ∈ rule.outputEntries, Text.Trimmed text) :
    ruleDefinition (rule.element space) = rule := by
  have description : ((rule.element space).child? "description").bind
      (fun found => nonempty? (Text.trim found.text)) = rule.description := by
    simp [RuleDefinition.element, description_written described]
  have conditions : (rule.element space).childrenNamed "inputEntry" =
      rule.inputEntries.map (worded space "inputEntry" []) := by
    simp [RuleDefinition.element]
  have results : (rule.element space).childrenNamed "outputEntry" =
      rule.outputEntries.map (worded space "outputEntry" []) := by
    simp [RuleDefinition.element]
  rw [ruleDefinition, description, conditions, results,
    map_written fun text among => textOf_worded (inputs text among),
    map_written fun text among => textOf_worded (outputs text among)]
  simp [RuleDefinition.element]

theorem table_element {table : TableLogic} (writable : table.Writable) :
    Document.table (table.element space) = table := by
  have inputs : (table.element space).childrenNamed "input" =
      table.inputs.map (InputClause.element space) := by
    simp [TableLogic.element]
  have outputs : (table.element space).childrenNamed "output" =
      table.outputs.map (OutputClause.element space) := by
    simp [TableLogic.element]
  have rules : (table.element space).childrenNamed "rule" =
      table.rules.map (RuleDefinition.element space) := by
    simp [TableLogic.element]
  have rulesRead : ∀ rule ∈ table.rules, ruleDefinition (rule.element space) = rule :=
    fun rule among => ruleDefinition_element (writable.descriptions rule among)
      (writable.inputEntries rule among) (writable.outputEntries rule among)
  rw [Document.table, inputs, outputs, rules,
    map_written fun clause among => inputClause_element (writable.expressions clause among),
    map_written fun clause among => outputClause_element (writable.outputValues clause among),
    map_written rulesRead]
  simp [TableLogic.element]

theorem bindings_element {target : Option String} {names : List String} :
    bindings (node space "invocation" [] (target.toList.map (worded space "literalExpression" []) ++
      names.map (boundParameter space))) = names := by
  have bound : (node space "invocation" []
      (target.toList.map (worded space "literalExpression" []) ++
        names.map (boundParameter space))).childrenNamed "binding" =
      names.map (boundParameter space) := by
    simp
  rw [bindings, bound, List.flatMap_map]
  simp [boundParameter]

theorem target_element {target : Option String} {others : List Element} (present : Present target)
    (unnamed : ∀ other ∈ others, other.localName ≠ "literalExpression") :
    nonempty? (textOf? ((node space "invocation" []
      (target.toList.map (worded space "literalExpression" []) ++ others)).child?
        "literalExpression")) = target := by
  have skipped : others.filter (fun child => child.localName == "literalExpression") = [] := by
    simpa using unnamed
  cases target with
  | none => simp [skipped, textOf?, nonempty?]
  | some text =>
      obtain ⟨nonempty, clean⟩ := present text rfl
      simp [textOf?, textOf_worded clean, nonempty?, nonempty]

theorem firstLogic_of_kind {variant : LogicVariant} {element : Element} {others : List Element}
    (kind : LogicVariant.ofElement? element.localName = some variant) :
    firstLogic (element :: others) = (variant, some (Document.logic variant element)) := by
  simp only [firstLogic, kind]

/-- The logic of a decision is read from the elements that are written for it. -/
theorem firstLogic_elements {variant : LogicVariant} {logic : Option Logic}
    (writable : Logic.Writable variant logic) :
    firstLogic (logic.toList.flatMap (Logic.elements space)) = (variant, logic) := by
  cases writable with
  | none => rfl
  | @decisionTable table writable =>
      have read : firstLogic [table.element space] = _ := firstLogic_of_kind rfl
      rw [Document.logic, table_element writable] at read
      exact read
  | @literalExpression text language clean =>
      have read : firstLogic [worded space "literalExpression" [("expressionLanguage", language)] text] =
        _ := firstLogic_of_kind rfl
      rw [Document.logic, textOf_worded clean] at read
      simpa [Logic.elements] using read
  | @invocation target bindings present =>
      have read : firstLogic [node space "invocation" [] (target.toList.map
          (worded space "literalExpression" []) ++ bindings.map (boundParameter space))] = _ :=
        firstLogic_of_kind rfl
      have unnamed : ∀ other ∈ bindings.map (boundParameter space),
          other.localName ≠ "literalExpression" := by
        simp
      rw [Document.logic, target_element present unnamed, bindings_element] at read
      exact read
  | other among =>
      simp only [List.mem_cons, List.not_mem_nil, or_false] at among
      obtain rfl | rfl | rfl | rfl := among
      all_goals rfl

/-- Elements that require other decisions hold no logic. -/
theorem firstLogic_requirements {ids : List String} {others : List Element} :
    firstLogic (ids.map (requirement space) ++ others) = firstLogic others := by
  induction ids with
  | nil => rfl
  | cons id rest ih => exact ih

/-- A reference within the document names the decision after its number sign. -/
theorem reference_written {id : String} (plain : id.toList.head? ≠ some '#') :
    (do
      let reference ← (← (requirement space id).child? "requiredDecision").attribute? "href"
      if reference.isEmpty then none
      else some (String.ofList (reference.toList.dropWhile (· == '#')))) = some id := by
  have named : id.toList.dropWhile (· == '#') = id.toList := by
    cases written : id.toList with
    | nil => rfl
    | cons first rest =>
        rw [written] at plain
        rw [List.dropWhile_cons_of_neg]
        simpa using plain
  simp [requirement, named, String.toList_append]

theorem required_element {ids : List String} {others : List Element}
    {attributes : List (String × Option String)}
    (named : ∀ id ∈ ids, id.toList.head? ≠ some '#')
    (unnamed : ∀ other ∈ others, other.localName ≠ "informationRequirement") :
    required (node space name attributes (ids.map (requirement space) ++ others)) = ids := by
  have asked : (node space name attributes (ids.map (requirement space) ++ others)).childrenNamed
      "informationRequirement" = ids.map (requirement space) := by
    simpa using unnamed
  rw [required, asked, List.filterMap_map]
  calc ids.filterMap _
    _ = ids.filterMap some := List.filterMap_congr fun id among =>
      reference_written (named id among)
    _ = ids := List.filterMap_some

theorem elements_unnamed {variant : LogicVariant} {logic : Option Logic}
    (writable : Logic.Writable variant logic) :
    ∀ element ∈ logic.toList.flatMap (Logic.elements space),
      element.localName ≠ "informationRequirement" := by
  cases writable with
  | none => nofun
  | other among =>
      simp only [List.mem_cons, List.not_mem_nil, or_false] at among
      obtain rfl | rfl | rfl | rfl := among
      all_goals simp [Logic.elements, LogicVariant.name]
  | decisionTable | literalExpression | invocation =>
      simp [Logic.elements, TableLogic.element]

theorem decision_element {definition : DecisionDefinition} (writable : definition.Writable) :
    decision (definition.element space) = .ok definition := by
  have held : firstLogic (definition.element space).children =
      (definition.variant, definition.logic) :=
    firstLogic_requirements.trans (firstLogic_elements writable.logic)
  have asked : required (definition.element space) = definition.requiredDecisions :=
    required_element writable.required (elements_unnamed writable.logic)
  have identified : ((definition.element space).attribute? "id").bind nonempty? =
      some definition.id := by
    simp [DecisionDefinition.element, nonempty?, writable.id]
  simp only [decision, identified, held, asked]
  simp [DecisionDefinition.element]

end Model.Document

/-! ## Reading a model -/

namespace Model

open Document

theorem repeated?_of_distinct {definitions : List DecisionDefinition} {seen : List String}
    (distinct : (definitions.map DecisionDefinition.id).Nodup)
    (fresh : ∀ definition ∈ definitions, definition.id ∉ seen) :
    repeated? seen definitions = none := by
  induction definitions generalizing seen with
  | nil => rfl
  | cons definition rest ih =>
      obtain ⟨unseen, others⟩ := List.forall_mem_cons.mp fresh
      rw [List.map_cons, List.nodup_cons] at distinct
      have first : seen.contains definition.id = false := by simpa using unseen
      simp only [repeated?, first, Bool.false_eq_true, if_false]
      apply ih distinct.2
      intro other among
      rw [List.mem_cons, not_or]
      refine ⟨fun same => distinct.1 ?_, others other among⟩
      exact same ▸ List.mem_map_of_mem among

theorem decisions_element {space : Option String} {definitions : List DecisionDefinition}
    (writable : ∀ definition ∈ definitions, definition.Writable) :
    (definitions.map (DecisionDefinition.element space)).mapM decision = .ok definitions := by
  induction definitions with
  | nil => rfl
  | cons definition rest ih =>
      obtain ⟨first, others⟩ := List.forall_mem_cons.mp writable
      rw [List.map_cons, List.mapM_cons, decision_element first, ih others]
      rfl

/-- Decisions that are written as a document under any namespace are read again: nothing is lost,
duplicated or moved. -/
theorem ofOutcome_root {decisions : List DecisionDefinition}
    (writable : ∀ definition ∈ decisions, definition.Writable)
    (distinct : (decisions.map DecisionDefinition.id).Nodup)
    (label checksum : String) (space name : Option String) :
    ofOutcome label checksum (.ok (root space name decisions)) =
      .ok ⟨label, checksum, space, name, decisions⟩ := by
  have listed : (root space name decisions).childrenNamed "decision" =
      decisions.map (DecisionDefinition.element space) := by
    simp [root]
  have declared : Document.decisions (root space name decisions) = .ok decisions := by
    have once : repeated? [] decisions = none := repeated?_of_distinct distinct (by simp)
    simp only [Document.decisions, listed, decisions_element writable]
    simp [root, once]
  have unspaced : (root space name decisions).attribute? "namespace" = none := by simp [root]
  have titled : (root space name decisions).attribute? "name" = name := by simp [root]
  simp only [ofOutcome, ofElement, declared, unspaced, titled]
  cases space <;> rfl

def ratingTable : TableLogic :=
  ⟨some "rating", some "PRIORITY", none,
    [⟨some "amountColumn", some "Amount", "order.amount", some "number"⟩],
    [⟨none, some "level", none, some "string", ["high", "low level"]⟩],
    [⟨none, some "Large orders", ["> 100"], ["level.high"]⟩, ⟨some "others", none, ["-"], ["x, y"]⟩]⟩

/-- A decision by the table, one that invokes another one, one of which only the kind of logic is
known, and one without logic. -/
def ratedDecisions : List DecisionDefinition :=
  [⟨"rating", some "Rating", .decisionTable, some (.decisionTable ratingTable), ["discount", "vat"]⟩,
    ⟨"discount", none, .invocation, some (.invocation (some "reduce") ["", "percent"]), []⟩,
    ⟨"lookup", none, .context, some (.other (some "context")), []⟩,
    ⟨"vat", some "", .unknown, none, []⟩]

theorem ratingTable_writable : ratingTable.Writable := by
  refine ⟨by decide +kernel, ?_, ?_, by decide +kernel, by decide +kernel⟩
  · have first : OutputValues.Plain "high" :=
      ⟨by decide, by decide +kernel, by simp [OutputValues.marks]⟩
    have second : OutputValues.Plain "low level" :=
      ⟨by decide, by decide +kernel, by simp [OutputValues.marks]⟩
    simp [ratingTable, first, second]
  · have described : Present (some "Large orders") := by
      intro content given
      cases given
      decide +kernel
    have undescribed : Present none := nofun
    simp [ratingTable, described, undescribed]

theorem ratedDecisions_writable : ∀ definition ∈ ratedDecisions, definition.Writable := by
  have present : Present (some "reduce") := by
    intro content given
    cases given
    decide +kernel
  simp only [ratedDecisions, List.forall_mem_cons]
  refine ⟨⟨by decide, .decisionTable ratingTable_writable, by decide +kernel⟩,
    ⟨by decide, .invocation present, by simp⟩, ⟨by decide, .other (by decide), by simp⟩,
    ⟨by decide, .none, by simp⟩, nofun⟩

/-- Four kinds of decisions in one document are read again in their order. -/
theorem ratedDecisions_root :
    (∀ definition ∈ ratedDecisions, definition.Writable) ∧
      (ratedDecisions.map DecisionDefinition.id).Nodup ∧
      ofOutcome anonymousLabel "content" (.ok (root (some "dmn") (some "Orders") ratedDecisions)) =
        .ok ⟨anonymousLabel, "content", some "dmn", some "Orders", ratedDecisions⟩ :=
  ⟨ratedDecisions_writable, by decide,
    ofOutcome_root ratedDecisions_writable (by decide) anonymousLabel "content" (some "dmn")
      (some "Orders")⟩

end Model

end DecisionTables
