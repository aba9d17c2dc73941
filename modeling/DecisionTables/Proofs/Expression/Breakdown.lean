import DecisionTables.Expression.Compiled
import DecisionTables.Proofs.Value.Breakdown

/-!
# Where expressions break down

Evaluation comes to operations one after the other and ends at the first that has no result. This
module names the operations that may be without one, says for which values they are, and gives the
operations that the evaluation of an expression or an input entry comes to. An expression breaks
down exactly if one of them has no result.
-/

namespace DecisionTables

/-- An operation that may be without a result where the language has no failure for it. -/
inductive Operation where
  | negation (value : Value)
  | arithmetic (operation : Arithmetic) (left right : Value)
  | comparison (operator : Comparison) (left right : Value)
  | call (function : Function) (argument : Value)
  /-- Writing a value in a message. -/
  | writing (value : Value)
  /-- Turning a number into a double before a sum. -/
  | widening (number : Number)
  /-- Adding a number to a running total. -/
  | addition (total next : Number)
  /-- Comparing a value with the extreme of those before. -/
  | ordering (value best : Value)
  /-- Comparing two outputs of a column. -/
  | agreement (left right : Value)

/-- Whether an operation has no result, for each of them in terms of its values alone. -/
def Operation.Undefined : Operation → Prop
  | .negation value => ∃ decimal, value = .number (.decimal decimal) ∧ decimal.NotNegatable
  | .arithmetic operation left right => ∃ leftNumber rightNumber, left = .number leftNumber ∧
      right = .number rightNumber ∧ Number.Undefined operation leftNumber rightNumber
  | .comparison operator left right => operator.Undefined left right
  | .call function argument => function.Undefined argument
  | .writing value => Value.Unwritable value
  | .widening number => number.HasNoDouble
  | .addition total next => Number.Unaddable total next
  | .ordering value best => Value.MeetsNotANumber value best
  | .agreement left right =>
      Value.sameNotANumber left right = false ∧ Value.Signals left right

/-- What comes to no operation breaks down if it gives a value no more than it does. -/
theorem breaks_ok_iff {ε α : Type} [Faulty ε] {value : α} {attempts : Operation → Prop}
    (none : ∀ operation, ¬attempts operation) :
    Breaks (.ok value : Except ε α) ↔ ∃ operation, attempts operation ∧ operation.Undefined :=
  iff_of_false not_breaks_ok fun ⟨operation, attempted, _⟩ => none operation attempted

namespace Expression

/-- The operations that the evaluation of an expression comes to, all operands before them having
been given. -/
inductive Attempts (environment : Environment) : Expression → Operation → Prop
  | negateOperand {operand : Expression} {attempted : Operation} :
      Attempts environment operand attempted → Attempts environment (.negate operand) attempted
  | negate {operand : Expression} {value : Value} :
      operand.evaluate environment = .ok value →
      Attempts environment (.negate operand) (.negation value)
  | complement {operand : Expression} {attempted : Operation} :
      Attempts environment operand attempted → Attempts environment (.complement operand) attempted
  | arithmeticLeft {operation : Arithmetic} {left right : Expression} {attempted : Operation} :
      Attempts environment left attempted →
      Attempts environment (.arithmetic operation left right) attempted
  | arithmeticRight {operation : Arithmetic} {left right : Expression} {value : Value}
      {attempted : Operation} :
      left.evaluate environment = .ok value → Attempts environment right attempted →
      Attempts environment (.arithmetic operation left right) attempted
  | arithmetic {operation : Arithmetic} {left right : Expression} {leftValue rightValue : Value} :
      left.evaluate environment = .ok leftValue → right.evaluate environment = .ok rightValue →
      Attempts environment (.arithmetic operation left right)
        (.arithmetic operation leftValue rightValue)
  | compareLeft {comparison : Comparison} {left right : Expression} {attempted : Operation} :
      Attempts environment left attempted →
      Attempts environment (.compare comparison left right) attempted
  | compareRight {comparison : Comparison} {left right : Expression} {value : Value}
      {attempted : Operation} :
      left.evaluate environment = .ok value → Attempts environment right attempted →
      Attempts environment (.compare comparison left right) attempted
  | compare {comparison : Comparison} {left right : Expression} {leftValue rightValue : Value} :
      left.evaluate environment = .ok leftValue → right.evaluate environment = .ok rightValue →
      Attempts environment (.compare comparison left right)
        (.comparison comparison leftValue rightValue)
  | conjunctionLeft {left right : Expression} {attempted : Operation} :
      Attempts environment left attempted → Attempts environment (.conjunction left right) attempted
  | conjunctionRight {left right : Expression} {value : Value} {truth : Option Bool}
      {attempted : Operation} :
      left.evaluate environment = .ok value → value.truth "and" = .ok truth →
      Attempts environment right attempted →
      Attempts environment (.conjunction left right) attempted
  | disjunctionLeft {left right : Expression} {attempted : Operation} :
      Attempts environment left attempted → Attempts environment (.disjunction left right) attempted
  | disjunctionRight {left right : Expression} {value : Value} {truth : Option Bool}
      {attempted : Operation} :
      left.evaluate environment = .ok value → value.truth "or" = .ok truth →
      Attempts environment right attempted →
      Attempts environment (.disjunction left right) attempted
  | argument {function : Function} {argument : Expression} {attempted : Operation} :
      Attempts environment argument attempted →
      Attempts environment (.call function argument) attempted
  | call {function : Function} {argument : Expression} {value : Value} :
      argument.evaluate environment = .ok value →
      Attempts environment (.call function argument) (.call function value)

variable {environment : Environment}

theorem not_breaks_follow {context : Context} {path : Path} {value : Value}
    {members : List String} : ¬Breaks (value.follow context path members) := by
  induction members generalizing value with
  | nil => cases value <;> exact not_breaks_ok
  | cons member rest ih =>
      cases value with
      | null => exact not_breaks_ok
      | boolean | number | text | date | moment | object | list | map =>
          simp only [Value.follow]
          split
          · exact ih
          · exact not_breaks_failure

theorem not_breaks_truth {operator : String} {value : Value} : ¬Breaks (value.truth operator) := by
  cases value <;> simp [Value.truth]

/-- An expression that breaks down comes to an operation without a result. -/
theorem attempts_of_breaks {expression : Expression}
    (broken : Breaks (expression.evaluate environment)) :
    ∃ operation, expression.Attempts environment operation ∧ operation.Undefined := by
  induction expression with
  | literal | subject => exact absurd broken not_breaks_ok
  | name path =>
      rw [evaluate] at broken
      split at broken
      · exact absurd broken not_breaks_follow
      · exact absurd broken not_breaks_failure
  | negate operand ih =>
      simp only [evaluate, breaks_bind, Value.breaks_negate_iff] at broken
      rcases broken with broken | ⟨value, given, undefined⟩
      · obtain ⟨operation, attempts, undefined⟩ := ih broken
        exact ⟨operation, .negateOperand attempts, undefined⟩
      · exact ⟨.negation value, .negate given, undefined⟩
  | complement operand ih =>
      simp only [evaluate, breaks_bind, not_breaks_truth, Except.pure_eq_ok, not_breaks_ok,
        and_false, exists_false, or_false] at broken
      obtain ⟨operation, attempts, undefined⟩ := ih broken
      exact ⟨operation, .complement attempts, undefined⟩
  | arithmetic operation left right ihLeft ihRight =>
      simp only [evaluate, breaks_bind, Value.breaks_applyArithmetic_iff] at broken
      rcases broken with broken | ⟨leftValue, leftGiven, broken |
        ⟨rightValue, rightGiven, undefined⟩⟩
      · obtain ⟨operation, attempts, undefined⟩ := ihLeft broken
        exact ⟨operation, .arithmeticLeft attempts, undefined⟩
      · obtain ⟨operation, attempts, undefined⟩ := ihRight broken
        exact ⟨operation, .arithmeticRight leftGiven attempts, undefined⟩
      · exact ⟨_, .arithmetic leftGiven rightGiven, undefined⟩
  | compare comparison left right ihLeft ihRight =>
      simp only [evaluate, breaks_bind, Value.breaks_compareWith_iff] at broken
      rcases broken with broken | ⟨leftValue, leftGiven, broken |
        ⟨rightValue, rightGiven, undefined⟩⟩
      · obtain ⟨operation, attempts, undefined⟩ := ihLeft broken
        exact ⟨operation, .compareLeft attempts, undefined⟩
      · obtain ⟨operation, attempts, undefined⟩ := ihRight broken
        exact ⟨operation, .compareRight leftGiven attempts, undefined⟩
      · exact ⟨_, .compare leftGiven rightGiven, undefined⟩
  | conjunction left right ihLeft ihRight =>
      simp only [evaluate, breaks_bind, not_breaks_truth, Except.pure_eq_ok, not_breaks_ok,
        and_false, exists_false, or_false, false_or] at broken
      rcases broken with broken | ⟨value, given, truth, taken, broken⟩
      · obtain ⟨operation, attempts, undefined⟩ := ihLeft broken
        exact ⟨operation, .conjunctionLeft attempts, undefined⟩
      · obtain ⟨operation, attempts, undefined⟩ := ihRight broken
        exact ⟨operation, .conjunctionRight given taken attempts, undefined⟩
  | disjunction left right ihLeft ihRight =>
      simp only [evaluate, breaks_bind, not_breaks_truth, Except.pure_eq_ok, not_breaks_ok,
        and_false, exists_false, or_false, false_or] at broken
      rcases broken with broken | ⟨value, given, truth, taken, broken⟩
      · obtain ⟨operation, attempts, undefined⟩ := ihLeft broken
        exact ⟨operation, .disjunctionLeft attempts, undefined⟩
      · obtain ⟨operation, attempts, undefined⟩ := ihRight broken
        exact ⟨operation, .disjunctionRight given taken attempts, undefined⟩
  | call function argument ih =>
      simp only [evaluate, breaks_bind, Value.breaks_callFunction_iff] at broken
      rcases broken with broken | ⟨value, given, undefined⟩
      · obtain ⟨operation, attempts, undefined⟩ := ih broken
        exact ⟨operation, .argument attempts, undefined⟩
      · exact ⟨.call function value, .call given, undefined⟩

/-- An operation without a result breaks every expression down that comes to it. -/
theorem breaks_of_attempts {expression : Expression} {operation : Operation}
    (attempts : expression.Attempts environment operation) (undefined : operation.Undefined) :
    Breaks (expression.evaluate environment) := by
  induction attempts with
  | negateOperand _ ih | complement _ ih | arithmeticLeft _ ih | compareLeft _ ih
  | conjunctionLeft _ ih | disjunctionLeft _ ih | argument _ ih =>
      exact breaks_bind.mpr (.inl (ih undefined))
  | negate given =>
      exact breaks_bind.mpr (.inr ⟨_, given, Value.breaks_negate_iff.mpr undefined⟩)
  | arithmeticRight given _ ih | compareRight given _ ih =>
      exact breaks_bind.mpr (.inr ⟨_, given, breaks_bind.mpr (.inl (ih undefined))⟩)
  | arithmetic leftGiven rightGiven =>
      exact breaks_bind.mpr (.inr ⟨_, leftGiven, breaks_bind.mpr
        (.inr ⟨_, rightGiven, Value.breaks_applyArithmetic_iff.mpr undefined⟩)⟩)
  | compare leftGiven rightGiven =>
      exact breaks_bind.mpr (.inr ⟨_, leftGiven, breaks_bind.mpr
        (.inr ⟨_, rightGiven, Value.breaks_compareWith_iff.mpr undefined⟩)⟩)
  | conjunctionRight given taken _ ih | disjunctionRight given taken _ ih =>
      exact breaks_bind.mpr (.inr ⟨_, given, breaks_bind.mpr
        (.inr ⟨_, taken, breaks_bind.mpr (.inl (ih undefined))⟩)⟩)
  | call given =>
      exact breaks_bind.mpr (.inr ⟨_, given, Value.breaks_callFunction_iff.mpr undefined⟩)

/-- An expression breaks down exactly if it comes to an operation without a result. -/
theorem breaks_evaluate_iff {expression : Expression} :
    Breaks (expression.evaluate environment) ↔
      ∃ operation, expression.Attempts environment operation ∧ operation.Undefined :=
  ⟨attempts_of_breaks, fun ⟨_, attempts, undefined⟩ => breaks_of_attempts attempts undefined⟩

end Expression

/-! ## Input entries -/

namespace Environment

/-- The operations that a comparison of the subject with the value of an expression comes to. -/
inductive Attempts (environment : Environment) : Comparison → Expression → Operation → Prop
  | endpoint {comparison : Comparison} {expression : Expression} {attempted : Operation} :
      expression.Attempts environment attempted →
      Attempts environment comparison expression attempted
  | comparison {comparison : Comparison} {expression : Expression} {value : Value} :
      expression.evaluate environment = .ok value →
      Attempts environment comparison expression
        (.comparison comparison environment.subject value)

theorem breaks_holds_iff {environment : Environment} {comparison : Comparison}
    {expression : Expression} :
    Breaks (environment.holds comparison expression) ↔
      ∃ operation, environment.Attempts comparison expression operation ∧
        operation.Undefined := by
  simp only [holds, breaks_bind, Except.pure_eq_ok, not_breaks_ok, and_false, exists_false,
    or_false, Value.breaks_compareWith_iff, Expression.breaks_evaluate_iff]
  constructor
  · intro found
    rcases found with ⟨operation, attempts, undefined⟩ | ⟨value, given, undefined⟩
    · exact ⟨operation, .endpoint attempts, undefined⟩
    · exact ⟨_, .comparison given, undefined⟩
  · intro found
    rcases found with ⟨operation, attempts | given, undefined⟩
    · exact .inl ⟨operation, attempts, undefined⟩
    · exact .inr ⟨_, given, undefined⟩

end Environment

namespace UnaryTest

/-- The operations that a test comes to. The end of an interval is only looked at if its start
holds. -/
inductive Attempts (environment : Environment) : UnaryTest → Operation → Prop
  | comparison {comparison : Comparison} {endpoint : Expression} {attempted : Operation} :
      environment.Attempts comparison endpoint attempted →
      Attempts environment (.comparison comparison endpoint) attempted
  | start {start finish : Expression} {startClosed finishClosed : Bool} {attempted : Operation} :
      environment.Attempts (.relation (if startClosed then .atLeast else .greater)) start
        attempted →
      Attempts environment (.interval start finish startClosed finishClosed) attempted
  | finish {start finish : Expression} {startClosed finishClosed : Bool} {attempted : Operation} :
      environment.holds (.relation (if startClosed then .atLeast else .greater)) start =
        .ok true →
      environment.Attempts (.relation (if finishClosed then .atMost else .less)) finish
        attempted →
      Attempts environment (.interval start finish startClosed finishClosed) attempted
  | value {expression : Expression} {usesSubject : Bool} {attempted : Operation} :
      expression.Attempts environment attempted →
      Attempts environment (.value expression usesSubject) attempted
  | equality {expression : Expression} {value : Value} :
      expression.evaluate environment = .ok value →
      Attempts environment (.value expression false)
        (.comparison .equal environment.subject value)

theorem breaks_accepts_iff {environment : Environment} {test : UnaryTest} :
    Breaks (test.accepts environment) ↔
      ∃ operation, test.Attempts environment operation ∧ operation.Undefined := by
  cases test with
  | comparison comparison endpoint =>
      simp only [accepts, Environment.breaks_holds_iff]
      constructor
      · intro found
        rcases found with ⟨operation, attempts, undefined⟩
        exact ⟨operation, .comparison attempts, undefined⟩
      · intro found
        rcases found with ⟨operation, attempts, undefined⟩
        cases attempts with
        | comparison attempts => exact ⟨operation, attempts, undefined⟩
  | interval start finish startClosed finishClosed =>
      simp only [accepts, breaks_bind, Environment.breaks_holds_iff]
      constructor
      · intro found
        rcases found with ⟨operation, attempts, undefined⟩ | ⟨above, given, broken⟩
        · exact ⟨operation, .start attempts, undefined⟩
        · cases above with
          | false => exact absurd broken not_breaks_ok
          | true =>
              obtain ⟨operation, attempts, undefined⟩ := Environment.breaks_holds_iff.mp broken
              exact ⟨operation, .finish given attempts, undefined⟩
      · intro found
        rcases found with ⟨operation, attempts, undefined⟩
        cases attempts with
        | start attempts => exact .inl ⟨operation, attempts, undefined⟩
        | finish given attempts =>
            exact .inr ⟨true, given,
              Environment.breaks_holds_iff.mpr ⟨operation, attempts, undefined⟩⟩
  | value expression usesSubject =>
      simp only [accepts, breaks_bind, Expression.breaks_evaluate_iff]
      constructor
      · intro found
        rcases found with ⟨operation, attempts, undefined⟩ | ⟨value, given, broken⟩
        · exact ⟨operation, .value attempts, undefined⟩
        · cases usesSubject with
          | true => exact absurd broken not_breaks_ok
          | false =>
              exact ⟨_, .equality given,
                Value.breaks_equals_iff.mp (breaks_ofFault.mp broken)⟩
      · intro found
        rcases found with ⟨operation, attempts, undefined⟩
        cases attempts with
        | value attempts => exact .inl ⟨operation, attempts, undefined⟩
        | equality given =>
            exact .inr ⟨_, given, breaks_ofFault.mpr (Value.breaks_equals_iff.mpr undefined)⟩

end UnaryTest

namespace UnaryTests

/-- The operations that a list of tests comes to, up to the first test that holds. -/
inductive AttemptsAny (environment : Environment) : List UnaryTest → Operation → Prop
  | first {test : UnaryTest} {rest : List UnaryTest} {attempted : Operation} :
      test.Attempts environment attempted → AttemptsAny environment (test :: rest) attempted
  | later {test : UnaryTest} {rest : List UnaryTest} {attempted : Operation} :
      test.accepts environment = .ok false → AttemptsAny environment rest attempted →
      AttemptsAny environment (test :: rest) attempted

/-- The operations that an input entry comes to. -/
def Attempts (environment : Environment) : UnaryTests → Operation → Prop
  | .any, _ => False
  | .oneOf tests, attempted | .noneOf tests, attempted => AttemptsAny environment tests attempted

variable {environment : Environment}

theorem breaks_anyAccepts_iff {tests : List UnaryTest} :
    Breaks (anyAccepts environment tests) ↔
      ∃ operation, AttemptsAny environment tests operation ∧ operation.Undefined := by
  induction tests with
  | nil => exact breaks_ok_iff fun _ => nofun
  | cons test rest ih =>
      simp only [anyAccepts, breaks_bind, UnaryTest.breaks_accepts_iff]
      constructor
      · intro found
        rcases found with ⟨operation, attempts, undefined⟩ | ⟨accepted, tried, broken⟩
        · exact ⟨operation, .first attempts, undefined⟩
        · cases accepted with
          | true => exact absurd broken not_breaks_ok
          | false =>
              obtain ⟨operation, attempts, undefined⟩ := ih.mp broken
              exact ⟨operation, .later tried attempts, undefined⟩
      · intro found
        rcases found with ⟨operation, attempts, undefined⟩
        cases attempts with
        | first attempts => exact .inl ⟨operation, attempts, undefined⟩
        | later tried attempts =>
            exact .inr ⟨false, tried, ih.mpr ⟨operation, attempts, undefined⟩⟩

/-- An input entry breaks down exactly if it comes to an operation without a result. -/
theorem breaks_accepts_iff {tests : UnaryTests} :
    Breaks (tests.accepts environment) ↔
      ∃ operation, tests.Attempts environment operation ∧ operation.Undefined := by
  cases tests with
  | any => simp [accepts, Attempts]
  | oneOf tests => exact breaks_anyAccepts_iff
  | noneOf tests => exact breaks_map.trans breaks_anyAccepts_iff

end UnaryTests

end DecisionTables
