import DecisionTables.Model.Basic
import DecisionTables.Model.OutputValues
import DecisionTables.Xml.Document

/-!
# Models as documents

A model is declared by a document whose elements are recognised by their local names, in whatever
namespaces they are; elements and attributes that are not known are passed over. Only the structure
is checked: the root element, and that every decision has an id of its own.
-/

namespace DecisionTables

namespace Model

def anonymousLabel : String := "<stream>"

/-- A problem of the structure of a document. -/
inductive StructureProblem where
  | wrongRoot (found : String)
  | missingId
  | duplicateId (id : String)
  deriving DecidableEq

open Xml (Element)

namespace Document

/-- The trimmed content of the first child for text. -/
def textOf (element : Element) : String :=
  match element.child? "text" with
  | some content => Text.trim content.text
  | none => ""

/-- The trimmed content of an element that may be missing. -/
def textOf? : Option Element → String
  | some element => textOf element
  | none => ""

def nonempty? (text : String) : Option String :=
  if text.isEmpty then none else some text

def inputClause (element : Element) : InputClause :=
  let expression := element.child? "inputExpression"
  ⟨element.attribute? "id", element.attribute? "label", textOf? expression,
    expression.bind fun found => found.attribute? "typeRef"⟩

def outputClause (element : Element) : OutputClause :=
  ⟨element.attribute? "id", element.attribute? "name", element.attribute? "label",
    element.attribute? "typeRef",
    OutputValues.split (textOf? (element.child? "outputValues"))⟩

def ruleDefinition (element : Element) : RuleDefinition :=
  ⟨element.attribute? "id",
    (element.child? "description").bind fun found => nonempty? (Text.trim found.text),
    (element.childrenNamed "inputEntry").map textOf,
    (element.childrenNamed "outputEntry").map textOf⟩

def table (element : Element) : TableLogic :=
  ⟨element.attribute? "id", element.attribute? "hitPolicy", element.attribute? "aggregation",
    (element.childrenNamed "input").map inputClause,
    (element.childrenNamed "output").map outputClause,
    (element.childrenNamed "rule").map ruleDefinition⟩

/-- The names of the parameters of an invocation. -/
def bindings (element : Element) : List String :=
  (element.childrenNamed "binding").flatMap fun binding =>
    (binding.childrenNamed "parameter").map fun parameter =>
      (parameter.attribute? "name").getD ""

/-- The logic that an element of a kind holds. -/
def logic (variant : LogicVariant) (element : Element) : Logic :=
  match variant with
  | .decisionTable => .decisionTable (table element)
  | .literalExpression =>
      .literalExpression (textOf element) (element.attribute? "expressionLanguage")
  | .invocation =>
      .invocation (nonempty? (textOf? (element.child? "literalExpression"))) (bindings element)
  | other => .other (some other.name)

/-- The kind of logic and the logic of the first element among the children that holds any. -/
def firstLogic : List Element → LogicVariant × Option Logic
  | [] => (.unknown, none)
  | element :: rest =>
      match LogicVariant.ofElement? element.localName with
      | some variant => (variant, some (logic variant element))
      | none => firstLogic rest

/-- The ids of the decisions that are required. A reference within the document starts with a number
sign. -/
def required (element : Element) : List String :=
  (element.childrenNamed "informationRequirement").filterMap fun requirement => do
    let reference ← (← requirement.child? "requiredDecision").attribute? "href"
    if reference.isEmpty then none
    else some (String.ofList (reference.toList.dropWhile (· == '#')))

def decision (element : Element) : Except StructureProblem DecisionDefinition :=
  match (element.attribute? "id").bind nonempty? with
  | none => .error .missingId
  | some id =>
      let (variant, logic) := firstLogic element.children
      .ok ⟨id, element.attribute? "name", variant, logic, required element⟩

/-- The first id that stands more than once, in the order in which repetitions are met. -/
def repeated? : (seen : List String) → List DecisionDefinition → Option String
  | _, [] => none
  | seen, definition :: rest =>
      if seen.contains definition.id then some definition.id
      else repeated? (definition.id :: seen) rest

/-- The decisions that a root element declares. -/
def decisions (root : Element) : Except StructureProblem (List DecisionDefinition) :=
  if root.localName ≠ "definitions" then .error (.wrongRoot root.localName)
  else do
    let declared ← (root.childrenNamed "decision").mapM decision
    match repeated? [] declared with
    | some id => .error (.duplicateId id)
    | none => return declared

end Document

/-- The model that the root element of a document declares. -/
def ofElement (label checksum : String) (root : Element) : Except StructureProblem Model := do
  let declared ← Document.decisions root
  let space := (root.attribute? "namespace").bind Document.nonempty?
  return ⟨label, checksum, space <|> root.name.space, root.attribute? "name", declared⟩

end Model

end DecisionTables
