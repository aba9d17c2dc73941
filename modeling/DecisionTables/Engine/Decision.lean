import DecisionTables.Table.Evaluate
import DecisionTables.Text.Quoted

/-!
# Decisions

A decision that is ready to be evaluated. It carries the number under which its engine compiled it,
so that two decisions of one engine are the same if their numbers are.
-/

namespace DecisionTables

/-- A compiled decision. -/
structure Decision where
  number : Nat
  table : CompiledTable

namespace Decision

def evaluate (decision : Decision) (context : Context) : Except EvaluationError ResultSet :=
  decision.table.evaluate context

/-- The form in which a decision is shown. -/
def display (decision : Decision) : String :=
  "Decision(id=" ++ Text.quoted decision.table.decisionId ++ ", hit_policy=" ++
    Text.quoted decision.table.hitPolicy.name ++ ", rules=" ++
    toString decision.table.rules.length ++ ")"

end Decision

end DecisionTables
