import DecisionTables.Proofs.Expression.Connectives
import DecisionTables.Proofs.UnaryTest.Readers
import DecisionTables.UnaryTest.Eval

/-!
# Unary tests as expressions

What a test says of the subject can be said by an expression over the subject: a comparison with the
subject on its left, the conjunction of two of them for an interval, an equation for a value, and a
disjunction for a list. Tests are tried up to the first that holds and look at the end of an
interval only if its start holds, while an expression evaluates all its operands; and a test either
holds or does not, while an expression may be null. Wherever the expression has a value the two
agree all the same.
-/

namespace DecisionTables

/-- The expression over the subject that says what a test says. -/
def UnaryTest.desugared : UnaryTest → Expression
  | .comparison operator endpoint => .compare operator .subject endpoint
  | .interval start finish startClosed finishClosed =>
      .conjunction
        (.compare (.relation (if startClosed then .atLeast else .greater)) .subject start)
        (.compare (.relation (if finishClosed then .atMost else .less)) .subject finish)
  | .value expression usesSubject =>
      if usesSubject then expression else .compare .equal .subject expression

/-- The expression over the subject that says what a list of tests says: its members joined by
`or`. -/
def UnaryTests.desugared (first : UnaryTest) (rest : List UnaryTest) : Expression :=
  rest.foldl (fun left test => .disjunction left test.desugared) first.desugared

/-! ## Truth -/

namespace Value

theorem isTrue_eq_true_iff {value : Value} : value.isTrue = true ↔ value = .boolean true := by
  cases value <;> simp [isTrue]

theorem isTrue_ofTruth (truth : Option Bool) : (ofTruth truth).isTrue = (truth == some true) := by
  rcases truth with _ | _ | _ <;> rfl

end Value

/-- Whether a connective holds between two conditions. -/
def Connective.holds : Connective → Bool → Bool → Bool
  | .conjunction => and
  | .disjunction => or

theorem Connective.isTrue_combine {connective : Connective} (left right : Option Bool) :
    (connective.combine left right == some true) =
      connective.holds (left == some true) (right == some true) := by
  revert left right
  cases connective <;> decide

/-! ## Values of the joining expressions -/

section Joined

variable {environment : Environment} {left right : Expression} {value : Value}

/-- Joined operands that have a value are true exactly if the connective holds between what is true of
each of them. -/
theorem Expression.isTrue_of_join (connective : Connective)
    (evaluates : (connective.operator.join left right).evaluate environment = .ok value) :
    ∃ leftValue rightValue, left.evaluate environment = .ok leftValue ∧
      right.evaluate environment = .ok rightValue ∧
      value.isTrue = connective.holds leftValue.isTrue rightValue.isTrue := by
  rw [evaluate_join, truth_join, Except.map_eq_ok_iff] at evaluates
  obtain ⟨truth, joined, rfl⟩ := evaluates
  simp only [Except.bind_eq_ok_iff, Except.ok.injEq] at joined
  obtain ⟨leftTruth, onLeft, rightTruth, onRight, rfl⟩ := joined
  refine ⟨_, _, truth_eq_ok_iff.mp onLeft, truth_eq_ok_iff.mp onRight, ?_⟩
  rw [Value.isTrue_ofTruth, Value.isTrue_ofTruth, Value.isTrue_ofTruth, Connective.isTrue_combine]

/-- A comparison of the subject holds if the expression that compares it is true. -/
theorem Environment.holds_of_evaluate {comparison : Comparison}
    (evaluates : (Expression.compare comparison .subject right).evaluate environment = .ok value) :
    environment.holds comparison right = .ok value.isTrue := by
  simp only [Expression.evaluate, Except.ok_bind, Except.bind_eq_ok_iff] at evaluates
  obtain ⟨endpoint, given, compared⟩ := evaluates
  simp only [holds, given, Except.ok_bind, compared, Except.pure_eq_ok]

end Joined

/-! ## Tests -/

variable {environment : Environment}

/-- A test that says what a valued expression says holds exactly if that is true. -/
theorem UnaryTest.accepts_of_desugared {test : UnaryTest} {value : Value}
    (evaluates : test.desugared.evaluate environment = .ok value) :
    test.accepts environment = .ok value.isTrue := by
  cases test with
  | comparison operator endpoint => exact Environment.holds_of_evaluate evaluates
  | interval start finish startClosed finishClosed =>
      obtain ⟨lower, upper, lowerGiven, upperGiven, both⟩ :=
        Expression.isTrue_of_join .conjunction evaluates
      simp only [accepts, Environment.holds_of_evaluate lowerGiven, Except.ok_bind]
      rw [both]
      -- The end of the interval is only looked at where the start holds.
      cases lower.isTrue with
      | false => rfl
      | true => exact Environment.holds_of_evaluate upperGiven
  | value expression usesSubject =>
      cases usesSubject with
      | true =>
          have given : expression.evaluate environment = .ok value := evaluates
          simp [accepts, given]
      | false =>
          have compares : (Expression.compare .equal .subject expression).evaluate environment =
            .ok value := evaluates
          simp only [Expression.evaluate, Except.ok_bind, Except.bind_eq_ok_iff] at compares
          obtain ⟨endpoint, given, compared⟩ := compares
          obtain ⟨equal, told, rfl⟩ := Except.map_eq_ok_iff.mp compared
          simp [accepts, given, told, Value.isTrue]

namespace UnaryTests

/-- Tests joined to an expression: what they say together is true exactly if the expression is or
one of the tests holds. -/
theorem anyAccepts_of_joined {rest : List UnaryTest} {left : Expression} {value : Value}
    (evaluates : (rest.foldl (fun left test => .disjunction left test.desugared) left).evaluate
      environment = .ok value) :
    ∃ leftValue, left.evaluate environment = .ok leftValue ∧
      (if leftValue.isTrue then .ok true else anyAccepts environment rest) = .ok value.isTrue := by
  induction rest generalizing left with
  | nil =>
      refine ⟨value, evaluates, ?_⟩
      cases value.isTrue <;> rfl
  | cons test rest ih =>
      obtain ⟨joined, joinedGiven, further⟩ := ih evaluates
      obtain ⟨leftValue, testValue, leftGiven, testGiven, either⟩ :=
        Expression.isTrue_of_join .disjunction joinedGiven
      refine ⟨leftValue, leftGiven, ?_⟩
      rw [← further, either, anyAccepts, UnaryTest.accepts_of_desugared testGiven]
      cases leftValue.isTrue <;> cases testValue.isTrue <;> rfl

/-- Tests that say what a valued expression says hold exactly if that is true. -/
theorem anyAccepts_of_desugared {first : UnaryTest} {rest : List UnaryTest} {value : Value}
    (evaluates : (desugared first rest).evaluate environment = .ok value) :
    anyAccepts environment (first :: rest) = .ok value.isTrue := by
  obtain ⟨firstValue, firstGiven, further⟩ := anyAccepts_of_joined evaluates
  rw [← further, anyAccepts, UnaryTest.accepts_of_desugared firstGiven]
  cases firstValue.isTrue <;> rfl

/-- What it means that unary tests say what expressions over the subject say. -/
structure SaidByExpressions : Prop where
  /-- Wherever the expression for a list of tests has a value, the entry that is the list and the
  one that is its negation do not fail, the list passes exactly if the value is true, and the
  negation passes exactly if it is not. -/
  passes : ∀ (first : UnaryTest) (rest : List UnaryTest) (environment : Environment)
    (value : Value),
    (desugared first rest).evaluate environment = .ok value →
      ∃ passes, (oneOf (first :: rest)).accepts environment = .ok passes ∧
        (noneOf (first :: rest)).accepts environment = .ok (!passes) ∧
        (passes = true ↔ value = .boolean true)
  /-- The tests of a text are at least one unless they accept any subject, and a value among them is
  marked as using the subject exactly if its expression does. -/
  marked : ∀ (text : String) (entry : UnaryTests), parse text = .ok entry →
    (entry ≠ .any → entry.tests ≠ []) ∧ ∀ test ∈ entry.tests, test.Marked

/-- Unary tests say what expressions over the subject say. -/
theorem saidByExpressions : SaidByExpressions := by
  constructor
  · intro first rest environment value evaluates
    have passes := anyAccepts_of_desugared evaluates
    refine ⟨value.isTrue, passes, ?_, Value.isTrue_eq_true_iff⟩
    simp only [accepts, passes, Except.map_ok]
  · intro text entry parsed
    obtain ⟨tokens, _, read⟩ := parse_eq_ok_iff.mp parsed
    exact marked_of_ofTokens read

def belowTen : UnaryTest := .comparison (.relation .less) (.literal (.integer 10))

/-- That null lies below ten is neither true nor false: the test does not pass, and its negation
does. -/
theorem belowTen_null :
    (desugared belowTen []).evaluate ⟨.ofBindings [], .null⟩ = .ok .null ∧
      ∃ passes, (oneOf [belowTen]).accepts ⟨.ofBindings [], .null⟩ = .ok passes ∧
        (noneOf [belowTen]).accepts ⟨.ofBindings [], .null⟩ = .ok (!passes) ∧
        (passes = true ↔ Value.null = .boolean true) :=
  ⟨rfl, saidByExpressions.passes belowTen [] ⟨.ofBindings [], .null⟩ .null rfl⟩

end UnaryTests

end DecisionTables
