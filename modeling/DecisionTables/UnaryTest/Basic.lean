import DecisionTables.Expression.Basic

/-!
# Unary tests

An input entry of a rule tests the subject of its column. It accepts any subject, or it is a list of
tests one of which has to hold, or the negation of such a list.
-/

namespace DecisionTables

/-- One test of a list. -/
inductive UnaryTest where
  /-- A comparison of the subject with an endpoint. -/
  | comparison (comparison : Comparison) (endpoint : Expression)
  /-- An interval that holds the subject. An end that is not closed is not part of it. -/
  | interval (start finish : Expression) (startClosed finishClosed : Bool)
  /-- A value: one that the subject has to equal or, if the expression uses the subject, one that
  has to be true. -/
  | value (expression : Expression) (usesSubject : Bool)

/-- An input entry. -/
inductive UnaryTests where
  | any
  | oneOf (tests : List UnaryTest)
  | noneOf (tests : List UnaryTest)

/-- Whether an input entry accepts every subject without looking at it. -/
def UnaryTests.isWildcard : UnaryTests → Bool
  | .any => true
  | _ => false

end DecisionTables
