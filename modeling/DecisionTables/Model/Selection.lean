import DecisionTables.Model.Basic
import DecisionTables.Text.Split

/-!
# Selecting a decision

A decision of a model is selected by its id, or without one if it is the only one.
-/

namespace DecisionTables

/-- Why no decision is selected. -/
inductive SelectionError where
  | notFound (label : String) (id : Option String)
  | ambiguous (label : String) (ids : List String)
  deriving DecidableEq

def SelectionError.message : SelectionError → String
  | .notFound label none => "Unable to find decision in model '" ++ label ++ "'."
  | .notFound label (some id) =>
      "Unable to find decision with id '" ++ id ++ "' in model '" ++ label ++ "'."
  | .ambiguous label ids =>
      "Unable to select a decision in model '" ++ label ++ "': it declares " ++
        toString ids.length ++ " decisions (" ++ Text.joinWith ", " ids ++
        "). Specify the decision id."

/-- The decision of an id, or the only one. -/
def Model.select (model : Model) : Option String → Except SelectionError DecisionDefinition
  | some id =>
      match model.decision? id with
      | some definition => .ok definition
      | none => .error (.notFound model.label (some id))
  | none =>
      match model.decisions with
      | [] => .error (.notFound model.label none)
      | [definition] => .ok definition
      | _ => .error (.ambiguous model.label model.decisionIds)

end DecisionTables
