import DecisionTables.Expression.Eval
import DecisionTables.UnaryTest.Basic

/-!
# Matching

Whether a subject passes the tests of an input entry. Tests of a list are tried in order up to the
first that holds, and the end of an interval is looked at only if its start holds. A comparison that
gives null does not hold.
-/

namespace DecisionTables

def Value.isTrue : Value → Bool
  | .boolean value => value
  | _ => false

/-- Whether a comparison of the subject with the value of an expression holds. -/
def Environment.holds (environment : Environment) (comparison : Comparison)
    (expression : Expression) : Evaluated Bool := do
  let value ← expression.evaluate environment
  return (← Value.compareWith comparison environment.subject value).isTrue

/-- Whether the subject passes a test. -/
def UnaryTest.accepts (environment : Environment) : UnaryTest → Evaluated Bool
  | .comparison operator endpoint => environment.holds operator endpoint
  | .interval start finish startClosed finishClosed => do
      let above ← environment.holds (.relation (if startClosed then .atLeast else .greater)) start
      if above then environment.holds (.relation (if finishClosed then .atMost else .less)) finish
      else return false
  | .value expression usesSubject => do
      let value ← expression.evaluate environment
      if usesSubject then return value.isTrue
      else Evaluated.ofFault (environment.subject.equals value)

namespace UnaryTests

def anyAccepts (environment : Environment) : List UnaryTest → Evaluated Bool
  | [] => .ok false
  | test :: rest => do
      if ← test.accepts environment then return true
      else anyAccepts environment rest

/-- Whether the subject passes an input entry. -/
def accepts (environment : Environment) : UnaryTests → Evaluated Bool
  | .any => .ok true
  | .oneOf tests => anyAccepts environment tests
  | .noneOf tests => (anyAccepts environment tests).map not

end UnaryTests

end DecisionTables
