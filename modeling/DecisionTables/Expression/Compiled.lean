import DecisionTables.Expression.Error
import DecisionTables.Expression.Parser
import DecisionTables.UnaryTest.Eval
import DecisionTables.UnaryTest.Parser

/-!
# Compiled cells

The text of a cell together with what it denotes, ready to be evaluated in a context of variables.
-/

namespace DecisionTables

/-- A compiled input expression or output entry. -/
structure CompiledExpression where
  text : String
  body : Expression

/-- A compiled input entry. -/
structure CompiledTests where
  text : String
  body : UnaryTests

/-- An outcome of evaluation as an outcome of a cell with a text. -/
def Evaluated.ofCell {α : Type} (text : String) (context : Context) :
    Evaluated α → Except CellError α
  | .ok value => .ok value
  | .error (.failure reason) => .error (.ofFailure reason text context none none none)
  | .error (.fault fault) => .error (.fault fault)

namespace CompiledExpression

def compile (text : String) : Except ReadError CompiledExpression :=
  (Expression.parse text).map fun body => ⟨text, body⟩

/-- How the compiled expression is displayed. -/
def display (expression : CompiledExpression) : String :=
  "SimpleExpression(" ++ Text.quoted expression.text ++ ")"

def evaluate (expression : CompiledExpression) (context : Context) : Except CellError Value :=
  Evaluated.ofCell expression.text context (expression.body.evaluate ⟨context, .null⟩)

end CompiledExpression

namespace CompiledTests

def compile (text : String) : Except ReadError CompiledTests :=
  (UnaryTests.parse text).map fun body => ⟨text, body⟩

/-- How the compiled entry is displayed. -/
def display (tests : CompiledTests) : String :=
  "SimpleUnaryTests(" ++ Text.quoted tests.text ++ ")"

/-- Whether a subject passes the entry in a context. -/
def accepts (tests : CompiledTests) (subject : Value) (context : Context) :
    Except CellError Bool :=
  Evaluated.ofCell tests.text context (tests.body.accepts ⟨context, subject⟩)

end CompiledTests

end DecisionTables
