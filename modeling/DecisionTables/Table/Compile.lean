import DecisionTables.Model.Basic
import DecisionTables.Table.Basic

/-!
# Compiling decision tables

A declared decision is turned into an executable table, or the first problem is reported: the kind
of logic, the hit policy, the number of outputs of an aggregation, the input expressions, the output
columns, the need for allowed values, and the rules, in this order.
-/

namespace DecisionTables

/-- A problem of a declared decision table. -/
inductive TableProblem where
  | missingLogic (variant : LogicVariant)
  | hitPolicy (error : HitPolicyError)
  | aggregationOutputs (aggregation : Aggregation) (count : Nat)
  | unnamedOutput (index : Nat)
  | duplicateOutput (name : String)
  | missingPriorities (policy : HitPolicy)
  | inputCount (ruleId : String) (found expected : Nat)
  | outputCount (ruleId : String) (found expected : Nat)
  | badCell (error : SyntaxError) (ruleId : Option String) (columnId : String)
  /-- An output value that has no constant value or cannot be converted to the column's type. -/
  | notConstant (text columnId reason : String)

def TableProblem.message : TableProblem → String
  | .missingLogic variant => "no " ++ variant.name ++ " payload found"
  | .hitPolicy error => error.message
  | .aggregationOutputs aggregation count =>
      "aggregation " ++ aggregation.name ++ " requires exactly one output column, found " ++
        toString count
  | .unnamedOutput index =>
      "output column " ++ toString index ++
        " has no name; names are required when a table has more than one output"
  | .duplicateOutput name => "duplicate output name '" ++ name ++ "'"
  | .missingPriorities policy =>
      "hit policy " ++ policy.name ++ " requires output values on at least one output column"
  | .inputCount ruleId found expected =>
      "rule '" ++ ruleId ++ "' has " ++ toString found ++ " input entries but the table declares " ++
        toString expected ++ " input column(s)"
  | .outputCount ruleId found expected =>
      "rule '" ++ ruleId ++ "' has " ++ toString found ++ " output entries but the table declares " ++
        toString expected ++ " output column(s)"
  | .badCell error ruleId columnId =>
      let place :=
        match ruleId with
        | some id => "rule '" ++ id ++ "', column '" ++ columnId ++ "'"
        | none => "column '" ++ columnId ++ "'"
      error.message ++ " (" ++ place ++ ")"
  | .notConstant text columnId reason =>
      "output value '" ++ text ++ "' of column '" ++ columnId ++ "' is not a constant: " ++ reason

/-- Why a decision is not compiled. -/
inductive CompileError where
  | unsupported (decisionId : String) (variant : LogicVariant)
  | problem (decisionId : String) (problem : TableProblem)
  | fault (fault : Fault)

/-- The text of a compile error that is not a fault. -/
def CompileError.message : CompileError → String
  | .unsupported decisionId variant =>
      "The expression type of the decision '" ++ decisionId ++ "' is not supported. Found '" ++
        variant.name ++ "'."
  | .problem decisionId found =>
      "Unable to compile decision '" ++ decisionId ++ "': " ++ found.message
  | .fault _ => ""

/-- How compilation is set up. -/
structure CompilerOptions where
  /-- The hit policy of a table that names none. -/
  defaultHitPolicy : String
  /-- Whether a value has to be of the declared type of its column. -/
  strict : Bool

/-- The outcome of compiling a part of a decision. -/
abbrev Compiled (α : Type) := Except CompileError α

/-- An id, or a generated one if it is missing or empty. -/
def idOr (id : Option String) (kind : String) (index : Nat) : String :=
  match id with
  | some text => if text.isEmpty then kind ++ toString index else text
  | none => kind ++ toString index

/-- Whether an input entry accepts any subject: it is blank or a dash. -/
def isWildcardEntry (text : String) : Bool :=
  match Text.trimmed text.toList with
  | [] => true
  | ['-'] => true
  | _ => false

namespace Compile

/-- The outcome of reading the text of a cell. -/
def ofRead {α : Type} (decisionId : String) (ruleId : Option String) (columnId : String) :
    Except ReadError α → Compiled α
  | .ok value => .ok value
  | .error (.invalid error) => .error (.problem decisionId (.badCell error ruleId columnId))
  | .error (.fault fault) => .error (.fault fault)

/-- The outcomes of an action on every item with its index, up to the first error. -/
def forAllFrom {α β : Type} (action : Nat → α → Compiled β) : Nat → List α → Compiled (List β)
  | _, [] => .ok []
  | index, item :: rest => do
      let result ← action index item
      return result :: (← forAllFrom action (index + 1) rest)

def input (decisionId : String) (index : Nat) (clause : InputClause) : Compiled CompiledInput := do
  let columnId := idOr clause.id "input" index
  let expression ← ofRead decisionId none columnId (CompiledExpression.compile clause.expression)
  return ⟨columnId, clause.label, expression, clause.typeRef.bind TypeRef.normalize⟩

/-- The value of an output value text, which may not refer to a variable. -/
def constant (options : CompilerOptions) (decisionId columnId : String) (typeRef : Option String)
    (text : String) : Compiled Value := do
  let expression ← ofRead decisionId none columnId (CompiledExpression.compile text)
  let notConstant (reason : String) : CompileError :=
    .problem decisionId (.notConstant text columnId reason)
  match expression.evaluate (.ofBindings []) with
  | .error (.fault fault) => .error (.fault fault)
  | .error (.expression error) => .error (notConstant error.message)
  | .ok value =>
      match value.coerce options.strict typeRef with
      | .ok converted => return converted
      | .error (.conversion error) => .error (notConstant error.message)
      | .error (.fault fault) => .error (.fault fault)

def constants (options : CompilerOptions) (decisionId columnId : String)
    (typeRef : Option String) : List String → Compiled (List Value)
  | [] => .ok []
  | text :: rest => do
      let value ← constant options decisionId columnId typeRef text
      return value :: (← constants options decisionId columnId typeRef rest)

/-- The name of an output column. A single unnamed one takes the id of its decision. -/
def outputName (decisionId : String) (single : Bool) (index : Nat) (clause : OutputClause) :
    Compiled String :=
  match clause.name.filter fun name => !name.isEmpty with
  | some name => .ok name
  | none =>
      if single then .ok decisionId else .error (.problem decisionId (.unnamedOutput index))

/-- The output columns, given the names of the columns before them. -/
def outputsFrom (options : CompilerOptions) (decisionId : String) (single : Bool) :
    (index : Nat) → (seen : List String) → List OutputClause → Compiled (List CompiledOutput)
  | _, _, [] => .ok []
  | index, seen, clause :: rest => do
      let name ← outputName decisionId single index clause
      if seen.contains name then .error (.problem decisionId (.duplicateOutput name))
      else
        let typeRef := clause.typeRef.bind TypeRef.normalize
        let columnId := idOr clause.id "output" index
        let priorities ← constants options decisionId columnId typeRef clause.outputValues
        let others ← outputsFrom options decisionId single (index + 1) (name :: seen) rest
        return ⟨columnId, name, clause.label, typeRef, priorities⟩ :: others

def outputs (options : CompilerOptions) (decisionId : String) (clauses : List OutputClause) :
    Compiled (List CompiledOutput) :=
  outputsFrom options decisionId (decide (clauses.length ≤ 1)) 0 [] clauses

def condition (decisionId ruleId columnId text : String) : Compiled (Option CompiledTests) :=
  if isWildcardEntry text then .ok none
  else (ofRead decisionId (some ruleId) columnId (CompiledTests.compile text)).map some

def outputEntry (decisionId ruleId columnId text : String) : Compiled CompiledExpression :=
  ofRead decisionId (some ruleId) columnId (CompiledExpression.compile text)

/-- The outcomes of an action on the columns with the ids of which the texts of a rule stand, up to the
first error. -/
def forCells {α : Type} (action : (columnId text : String) → Compiled α) :
    (columnIds texts : List String) → Compiled (List α)
  | columnId :: columnIds, text :: texts => do
      let result ← action columnId text
      return result :: (← forCells action columnIds texts)
  | _, _ => .ok []

def rule (decisionId : String) (inputs : List CompiledInput) (outputs : List CompiledOutput)
    (index : Nat) (definition : RuleDefinition) : Compiled CompiledRule :=
  let ruleId := idOr definition.id "rule" index
  let inputCount := definition.inputEntries.length
  let outputCount := definition.outputEntries.length
  if inputCount ≠ inputs.length then
    .error (.problem decisionId (.inputCount ruleId inputCount inputs.length))
  else if outputCount ≠ outputs.length then
    .error (.problem decisionId (.outputCount ruleId outputCount outputs.length))
  else do
    let conditions ← forCells (condition decisionId ruleId) (inputs.map CompiledInput.id)
      definition.inputEntries
    let outputs ← forCells (outputEntry decisionId ruleId) (outputs.map CompiledOutput.id)
      definition.outputEntries
    return ⟨ruleId, index, definition.description, conditions, outputs⟩

def hitPolicy (options : CompilerOptions) (decisionId : String) (logic : TableLogic) :
    Compiled (HitPolicy × Option Aggregation) :=
  match HitPolicy.parse logic.hitPolicy logic.aggregation options.defaultHitPolicy with
  | .error error => .error (.problem decisionId (.hitPolicy error))
  | .ok (policy, none) => .ok (policy, none)
  | .ok (policy, some aggregation) =>
      if logic.outputs.length = 1 then .ok (policy, some aggregation)
      else .error (.problem decisionId (.aggregationOutputs aggregation logic.outputs.length))

def table (options : CompilerOptions) (definition : DecisionDefinition) (logic : TableLogic) :
    Compiled CompiledTable := do
  let decisionId := definition.id
  let (policy, aggregation) ← hitPolicy options decisionId logic
  let inputs ← forAllFrom (input decisionId) 0 logic.inputs
  let outputs ← outputs options decisionId logic.outputs
  if policy.usesPriorities && outputs.all fun output => output.priorities.isEmpty then
    .error (.problem decisionId (.missingPriorities policy))
  else
    let rules ← forAllFrom (rule decisionId inputs outputs) 0 logic.rules
    return {
      decisionId := decisionId
      decisionName := definition.name
      hitPolicy := policy
      aggregation := aggregation
      inputs := inputs
      outputs := outputs
      rules := rules
      strict := options.strict }

end Compile

/-- The executable form of a decision. -/
def DecisionDefinition.compile (options : CompilerOptions) (definition : DecisionDefinition) :
    Compiled CompiledTable :=
  if definition.variant ≠ .decisionTable then
    .error (.unsupported definition.id definition.variant)
  else
    match definition.logic with
    | some (.decisionTable logic) => Compile.table options definition logic
    | _ => .error (.problem definition.id (.missingLogic definition.variant))

end DecisionTables
