import DecisionTables.Expression.Compiled
import DecisionTables.HitPolicy

/-!
# Compiled decision tables

The executable form of a decision table. It depends on nothing outside itself: its texts are
compiled, its tokens recognised and its allowed values computed.
-/

namespace DecisionTables

/-- An input column. Its expression gives the subject that the entries of the column test. -/
structure CompiledInput where
  id : String
  label : Option String
  expression : CompiledExpression
  typeRef : Option String

/-- An output column. Its priorities are the allowed values, the highest priority first. -/
structure CompiledOutput where
  id : String
  name : String
  label : Option String
  typeRef : Option String
  priorities : List Value

/-- A rule, with one condition for each input column and one expression for each output column. No
condition stands for an entry that accepts any subject. -/
structure CompiledRule where
  id : String
  index : Nat
  description : Option String
  conditions : List (Option CompiledTests)
  outputs : List CompiledExpression

/-- A decision table. In strict mode a value that its column's type does not allow is an error. -/
structure CompiledTable where
  decisionId : String
  decisionName : Option String
  hitPolicy : HitPolicy
  aggregation : Option Aggregation
  inputs : List CompiledInput
  outputs : List CompiledOutput
  rules : List CompiledRule
  strict : Bool

end DecisionTables
