import DecisionTables.Expression.Eval

/-!
# Errors of expressions

An expression of a cell that has no value is reported with its text, the place of the cell as far as
it is known, and a snapshot of the variables, in which every value is shown in quoted form and cut
to a limited length.
-/

namespace DecisionTables

/-- The greatest length of a value in a snapshot. -/
def snapshotLimit : Nat := 200

/-- A text cut to the length of a snapshot. -/
def cutToSnapshot (text : String) : String :=
  if snapshotLimit < text.length then String.ofList (text.toList.take snapshotLimit) ++ "..."
  else text

/-- The variables as they are shown in an error. -/
def Bindings.snapshot : Bindings → Except Fault (List (String × String))
  | [] => .ok []
  | (name, value) :: rest => do
      let written ← value.quoted
      return (name, cutToSnapshot written) :: (← snapshot rest)

/-- An expression that failed. -/
structure ExpressionError where
  reason : Failure
  expression : String
  context : List (String × String)
  decisionId : Option String
  ruleId : Option String
  columnId : Option String

namespace ExpressionError

/-- A name, or another one if it is missing or empty. -/
def prefer (name otherwise : Option String) : Option String :=
  match name with
  | some text => if text.isEmpty then otherwise else some text
  | none => otherwise

/-- The error with the place of its cell. An empty name says nothing about the place. -/
def locate (error : ExpressionError) (decisionId ruleId columnId : Option String) :
    ExpressionError :=
  { error with
    decisionId := prefer decisionId error.decisionId
    ruleId := prefer ruleId error.ruleId
    columnId := prefer columnId error.columnId }

def place (error : ExpressionError) : String :=
  let part (what : String) (name : Option String) :=
    match name with
    | some name => [what ++ " '" ++ name ++ "'"]
    | none => []
  let parts := part "decision" error.decisionId ++ part "rule" error.ruleId ++
    part "column" error.columnId
  if parts.isEmpty then "" else " in " ++ Text.joinWith ", " parts

def message (error : ExpressionError) : String :=
  let shown := error.context.map fun (name, value) => Text.quoted name ++ ": " ++ Text.quoted value
  "Unable to evaluate expression '" ++ error.expression ++ "'" ++ error.place ++ ": " ++
    error.reason.message ++ ". Context: " ++ Value.braced shown

end ExpressionError

/-- Why a cell has no value. -/
inductive CellError where
  | expression (error : ExpressionError)
  | fault (fault : Fault)

/-- The error of a cell for a reason, with a snapshot of the variables. -/
def CellError.ofFailure (reason : Failure) (text : String) (context : Context)
    (decisionId ruleId columnId : Option String) : CellError :=
  match context.bindings.snapshot with
  | .ok snapshot => .expression ⟨reason, text, snapshot, decisionId, ruleId, columnId⟩
  | .error breakdown => .fault breakdown

/-- The error of a cell with its place. -/
def CellError.locate (error : CellError) (decisionId ruleId columnId : Option String) : CellError :=
  match error with
  | .expression failed => .expression (failed.locate decisionId ruleId columnId)
  | .fault breakdown => .fault breakdown

end DecisionTables
