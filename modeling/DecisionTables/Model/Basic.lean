/-!
# Decision models

A model as it is declared: its decisions in the order of the document, each with its logic as raw
text. Nothing here is executable yet.
-/

namespace DecisionTables

/-- The kind of logic a decision has. -/
inductive LogicVariant where
  | decisionTable | literalExpression | invocation | context | relation | list
  | functionDefinition | unknown
  deriving DecidableEq

namespace LogicVariant

/-- The name of a kind, which is also that of its element in a document. -/
def name : LogicVariant → String
  | .decisionTable => "decisionTable"
  | .literalExpression => "literalExpression"
  | .invocation => "invocation"
  | .context => "context"
  | .relation => "relation"
  | .list => "list"
  | .functionDefinition => "functionDefinition"
  | .unknown => "unknown"

/-- The kind of logic that an element of a name holds. -/
def ofElement? : String → Option LogicVariant
  | "decisionTable" => some .decisionTable
  | "literalExpression" => some .literalExpression
  | "invocation" => some .invocation
  | "context" => some .context
  | "relation" => some .relation
  | "list" => some .list
  | "functionDefinition" => some .functionDefinition
  | _ => none

end LogicVariant

/-- A declared input column. -/
structure InputClause where
  id : Option String
  label : Option String
  expression : String
  typeRef : Option String
  deriving DecidableEq

/-- A declared output column. -/
structure OutputClause where
  id : Option String
  name : Option String
  label : Option String
  typeRef : Option String
  outputValues : List String
  deriving DecidableEq

/-- A declared rule. -/
structure RuleDefinition where
  id : Option String
  description : Option String
  inputEntries : List String
  outputEntries : List String
  deriving DecidableEq

/-- A declared decision table. -/
structure TableLogic where
  id : Option String
  hitPolicy : Option String
  aggregation : Option String
  inputs : List InputClause
  outputs : List OutputClause
  rules : List RuleDefinition
  deriving DecidableEq

/-- The logic of a decision. -/
inductive Logic where
  | decisionTable (table : TableLogic)
  | literalExpression (text : String) (expressionLanguage : Option String)
  | invocation (target : Option String) (bindings : List String)
  /-- An element of which only the name is kept. -/
  | other (element : Option String)
  deriving DecidableEq

/-- A declared decision. -/
structure DecisionDefinition where
  id : String
  name : Option String
  variant : LogicVariant
  logic : Option Logic
  requiredDecisions : List String
  deriving DecidableEq

/-- A model read from a source. The label names the source, the checksum its content. -/
structure Model where
  label : String
  checksum : String
  modelNamespace : Option String
  name : Option String
  decisions : List DecisionDefinition
  deriving DecidableEq

namespace Model

/-- The ids of the decisions in the order of the document. -/
def decisionIds (model : Model) : List String :=
  model.decisions.map DecisionDefinition.id

def decision? (model : Model) (id : String) : Option DecisionDefinition :=
  model.decisions.find? fun decision => decision.id == id

end Model

end DecisionTables
