import DecisionTables.Result
import DecisionTables.Table.Aggregate
import DecisionTables.Table.Basic

/-!
# Evaluating decision tables

The input expressions are evaluated once, from left to right. A rule matches if all its conditions
accept the subjects of their columns; they are tried from left to right up to the first that does
not. The hit policy then decides which rules give outputs and how their entries combine.
-/

namespace DecisionTables

/-- Several rules matched where only one outcome is allowed. -/
structure RuleConflict where
  decisionId : String
  hitPolicy : HitPolicy
  ruleIds : List String

def RuleConflict.message (conflict : RuleConflict) : String :=
  "Hit policy '" ++ conflict.hitPolicy.name ++ "' of decision '" ++ conflict.decisionId ++
    "' only allows a single outcome but the rules " ++
    Text.joinWith ", " (conflict.ruleIds.map Text.quoted) ++ " matched."

/-- Why a table has no result. -/
inductive EvaluationError where
  | expression (error : ExpressionError)
  | conflict (error : RuleConflict)
  | aggregation (error : AggregationError)
  | fault (fault : Fault)

namespace EvaluationError

/-- The text of an error that is not a fault. -/
def message : EvaluationError → String
  | .expression error => error.message
  | .conflict error => error.message
  | .aggregation error => error.message
  | .fault _ => ""

/-- The fault that an error is, if it is one. -/
def fault? : EvaluationError → Option Fault
  | .fault breakdown => some breakdown
  | _ => none

end EvaluationError

/-- The error of a cell as an error of its table. -/
def EvaluationError.ofCell : CellError → EvaluationError
  | .expression error => .expression error
  | .fault breakdown => .fault breakdown

/-- The failure of an aggregation as an error of its table. -/
def EvaluationError.ofAggregate : AggregateFailure → EvaluationError
  | .notAllowed error => .aggregation error
  | .fault breakdown => .fault breakdown

/-- The outcome of evaluating a table or a part of one. -/
abbrev Outcome (α : Type) := Except EvaluationError α

/-- The outcome of a comparison of values as an outcome of a table. -/
def Outcome.ofFault {α : Type} : Except Fault α → Outcome α
  | .ok value => .ok value
  | .error breakdown => .error (.fault breakdown)

/-- The outcome of a cell, with its place, as an outcome of its table. -/
def Outcome.ofCell {α : Type} (decisionId : String) (ruleId : Option String) (columnId : String) :
    Except CellError α → Outcome α
  | .ok value => .ok value
  | .error error =>
      .error (.ofCell (error.locate (some decisionId) ruleId (some columnId)))

/-- The outcomes of an action on every item, from left to right up to the first error. -/
def forAll {α β : Type} (action : α → Outcome β) : List α → Outcome (List β)
  | [] => .ok []
  | item :: rest => do
      let result ← action item
      return result :: (← forAll action rest)

namespace CompiledTable

/-- A value brought to the type of its column. -/
def coerce (table : CompiledTable) (text : String) (ruleId : Option String) (columnId : String)
    (typeRef : Option String) (context : Context) (value : Value) : Outcome Value :=
  match value.coerce table.strict typeRef with
  | .ok converted => .ok converted
  | .error (.fault fault) => .error (.fault fault)
  | .error (.conversion error) =>
      .error (.ofCell (.ofFailure (.notConvertible error) text context (some table.decisionId) ruleId
        (some columnId)))

/-- The value of a cell under the type of its column. -/
def cellValue (table : CompiledTable) (expression : CompiledExpression) (ruleId : Option String)
    (columnId : String) (typeRef : Option String) (context : Context) : Outcome Value := do
  let value ← Outcome.ofCell table.decisionId ruleId columnId (expression.evaluate context)
  table.coerce expression.text ruleId columnId typeRef context value

def subject (table : CompiledTable) (context : Context) (column : CompiledInput) : Outcome Value :=
  table.cellValue column.expression none column.id column.typeRef context

def subjects (table : CompiledTable) (context : Context) : Outcome (List Value) :=
  forAll (table.subject context) table.inputs

/-- Whether conditions accept the subjects of their columns. -/
def conditionsAccept (table : CompiledTable) (ruleId : String) (context : Context) :
    List CompiledInput → List (Option CompiledTests) → List Value → Outcome Bool
  | column :: columns, condition :: conditions, subject :: subjects => do
      let accepted ←
        match condition with
        | none => pure true
        | some tests =>
            Outcome.ofCell table.decisionId (some ruleId) column.id (tests.accepts subject context)
      if accepted then conditionsAccept table ruleId context columns conditions subjects
      else return false
  | _, _, _ => return true

def matchesRule (table : CompiledTable) (context : Context) (subjects : List Value)
    (rule : CompiledRule) : Outcome Bool :=
  table.conditionsAccept rule.id context table.inputs rule.conditions subjects

def matchingRules (table : CompiledTable) (context : Context) (subjects : List Value) :
    List CompiledRule → Outcome (List CompiledRule)
  | [] => .ok []
  | rule :: rest => do
      let accepted ← table.matchesRule context subjects rule
      let others ← matchingRules table context subjects rest
      return if accepted then rule :: others else others

def outputValues (table : CompiledTable) (ruleId : String) (context : Context) :
    List CompiledOutput → List CompiledExpression → Outcome (List OutputValue)
  | column :: columns, expression :: expressions => do
      let value ← table.cellValue expression (some ruleId) column.id column.typeRef context
      let others ← outputValues table ruleId context columns expressions
      return ⟨column.name, value, column.typeRef⟩ :: others
  | _, _ => .ok []

def entryOf (table : CompiledTable) (context : Context) (rule : CompiledRule) :
    Outcome OutputEntry :=
  (table.outputValues rule.id context table.outputs rule.outputs).map OutputEntry.mk

/-- The values of the first column of entries. -/
def firstValues (entries : List OutputEntry) : List Value :=
  entries.filterMap fun entry => entry.values.head?.map OutputValue.value

/-- The entry of an aggregation. A count is an integer whatever the type of its column. -/
def aggregatedEntry (table : CompiledTable) (aggregation : Aggregation)
    (entries : List OutputEntry) : Outcome OutputEntry :=
  match table.outputs with
  | [] => .ok ⟨[]⟩
  | column :: _ =>
      match aggregation.apply (firstValues entries) table.decisionId with
      | .error failure => .error (.ofAggregate failure)
      | .ok value =>
          let typeRef := if aggregation = .count then some "integer" else column.typeRef
          .ok ⟨[⟨column.name, value, typeRef⟩]⟩

/-- The rank of a value: the position of the first allowed value that it equals, or the number of
allowed values if there is none. A boolean never equals a number. -/
def rank (value : Value) : List Value → Except Fault Nat
  | [] => .ok 0
  | allowed :: rest => do
      let equal ←
        if allowed.isBoolean == value.isBoolean then allowed.plainEqual value else .ok false
      if equal then return 0 else return (← rank value rest) + 1

/-- The ranks of the values in the columns that have allowed values. -/
def ranks : List CompiledOutput → List OutputValue → Except Fault (List Nat)
  | column :: columns, output :: outputs =>
      if column.priorities.isEmpty then ranks columns outputs
      else do
        let first ← rank output.value column.priorities
        return first :: (← ranks columns outputs)
  | _, _ => .ok []

/-- Whether a list of ranks comes no later than another, compared from the first column on. -/
def precedes : List Nat → List Nat → Bool
  | [], _ => true
  | _ :: _, [] => false
  | left :: lefts, right :: rights =>
      decide (left < right) || (left == right && precedes lefts rights)

def withRanks (table : CompiledTable) (entry : OutputEntry) : Outcome (List Nat × OutputEntry) :=
  (Outcome.ofFault (ranks table.outputs entry.values)).map fun ranks => (ranks, entry)

/-- The entries by rank. Entries of the same rank keep the order of their rules. -/
def byPriority (table : CompiledTable) (entries : List OutputEntry) :
    Outcome (List OutputEntry) := do
  let ranked ← forAll table.withRanks entries
  return (ranked.mergeSort fun left right => precedes left.1 right.1).map Prod.snd

def conflict (table : CompiledTable) (rules : List CompiledRule) : EvaluationError :=
  .conflict ⟨table.decisionId, table.hitPolicy, rules.map CompiledRule.id⟩

/-- Whether entries agree with a first one, up to the first that does not. -/
def allAgreeWith (first : OutputEntry) : List OutputEntry → Except Fault Bool
  | [] => .ok true
  | entry :: rest => do
      if ← entry.agrees first then allAgreeWith first rest else return false

/-- Whether all entries agree with the first. -/
def allAgree : List OutputEntry → Except Fault Bool
  | [] => .ok true
  | first :: rest => allAgreeWith first rest

/-- The entries of matching rules, of which there is at least one. -/
def combine (table : CompiledTable) (context : Context) (first : CompiledRule)
    (others : List CompiledRule) : Outcome (List OutputEntry) :=
  let rules := first :: others
  match table.hitPolicy with
  | .first => return [← table.entryOf context first]
  | .unique =>
      if others.isEmpty then return [← table.entryOf context first]
      else .error (table.conflict rules)
  | .ruleOrder => forAll (table.entryOf context) rules
  | .collect => do
      let entries ← forAll (table.entryOf context) rules
      match table.aggregation with
      | none => return entries
      | some aggregation => return [← table.aggregatedEntry aggregation entries]
  | .any => do
      let entries ← forAll (table.entryOf context) rules
      if ← Outcome.ofFault (allAgree entries) then return entries.take 1
      else .error (table.conflict rules)
  | .priority => do
      let entries ← forAll (table.entryOf context) rules
      return (← table.byPriority entries).take 1
  | .outputOrder => do
      let entries ← forAll (table.entryOf context) rules
      table.byPriority entries

/-- The entries of the rules that match. If none does, only a count gives an entry. -/
def applyHitPolicy (table : CompiledTable) (context : Context) :
    List CompiledRule → Outcome (List OutputEntry)
  | [] =>
      if table.aggregation = some .count then return [← table.aggregatedEntry .count []]
      else return []
  | first :: others => table.combine context first others

/-- The result of a table in a context of variables. -/
def evaluate (table : CompiledTable) (context : Context) : Outcome ResultSet := do
  let subjects ← table.subjects context
  let rules ← table.matchingRules context subjects table.rules
  return ⟨← table.applyHitPolicy context rules⟩

end CompiledTable

end DecisionTables
