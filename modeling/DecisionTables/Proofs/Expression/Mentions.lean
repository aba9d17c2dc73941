import DecisionTables.Proofs.Outcome
import DecisionTables.UnaryTest.Eval

/-!
# Variables that are mentioned

A name in an expression mentions the variable that its path starts from. Evaluation looks at no
other variable, and at each of those: the operands of every operation are evaluated, also where the
left one of `and` or `or` decides. An expression therefore has no value unless all variables that it
mentions are bound, and one that has a value without any variables has it whatever they are. Tests
look at no other variable than those they mention either, but may leave some of them alone.
-/

namespace DecisionTables

def Expression.variables : Expression → List String
  | .literal _ | .subject => []
  | .name path => [path.head]
  | .negate operand | .complement operand | .call _ operand => operand.variables
  | .arithmetic _ left right | .compare _ left right | .conjunction left right
  | .disjunction left right => left.variables ++ right.variables

def UnaryTest.variables : UnaryTest → List String
  | .comparison _ endpoint => endpoint.variables
  | .interval start finish _ _ => start.variables ++ finish.variables
  | .value expression _ => expression.variables

def UnaryTests.variables : UnaryTests → List String
  | .any => []
  | .oneOf tests | .noneOf tests => tests.flatMap UnaryTest.variables

/-- Whether each of the names is unbound in both contexts, or bound to the same value with the same
attributes in both. -/
def Context.AgreeOn (first second : Context) (names : List String) : Prop :=
  ∀ name ∈ names, first.bindings.get? name = second.bindings.get? name ∧
    first.attribute? = second.attribute?

namespace Context.AgreeOn

variable {first second : Context} {names others : List String}

theorem append_iff :
    AgreeOn first second (names ++ others) ↔
      AgreeOn first second names ∧ AgreeOn first second others :=
  List.forall_mem_append

theorem flatMap_iff {α : Type} {items : List α} {mentions : α → List String} :
    AgreeOn first second (items.flatMap mentions) ↔
      ∀ item ∈ items, AgreeOn first second (mentions item) :=
  List.forall_mem_flatMap

end Context.AgreeOn

variable {first second context : Context} {subject value : Value} {expression : Expression}

/-- A path leads to the same value where values have the same attributes. -/
theorem Value.follow_congr (attributes : first.attribute? = second.attribute?) {path : Path}
    {members : List String} :
    value.follow first path members = value.follow second path members := by
  induction members generalizing value with
  | nil => cases value <;> rfl
  | cons member rest ih =>
      have same : value.member? first member = value.member? second member := by
        cases value <;> simp only [member?, attributes]
      cases value with
      | null => rfl
      | boolean | number | text | date | moment | object | list | map =>
          simp only [follow, same, ih]

namespace Expression

/-- Evaluation has the same outcome in contexts that agree on what the expression mentions. -/
theorem evaluate_congr (agree : first.AgreeOn second expression.variables) :
    expression.evaluate ⟨first, subject⟩ = expression.evaluate ⟨second, subject⟩ := by
  induction expression with
  | literal | subject => rfl
  | name path =>
      obtain ⟨bound, attributes⟩ := agree path.head List.mem_cons_self
      simp only [evaluate, bound, Value.follow_congr attributes]
  | negate operand ih | complement operand ih | call function operand ih =>
      simp only [evaluate, ih agree]
  | arithmetic operation left right ihLeft ihRight | compare comparison left right ihLeft ihRight
  | conjunction left right ihLeft ihRight | disjunction left right ihLeft ihRight =>
      obtain ⟨onLeft, onRight⟩ := Context.AgreeOn.append_iff.mp agree
      simp only [evaluate, ihLeft onLeft, ihRight onRight]

/-- Every variable that an expression mentions is bound where the expression has a value. -/
theorem bound_of_evaluate (evaluates : expression.evaluate ⟨context, subject⟩ = .ok value)
    {name : String} (mentioned : name ∈ expression.variables) : context.bindings.get? name ≠ none := by
  induction expression generalizing value with
  | literal | subject => cases mentioned
  | name path =>
      obtain rfl := List.mem_singleton.mp mentioned
      intro unbound
      simp only [evaluate, unbound, reduceCtorEq] at evaluates
  | negate operand ih | complement operand ih | call function operand ih =>
      simp only [evaluate, Except.bind_eq_ok_iff] at evaluates
      obtain ⟨operandValue, given, _⟩ := evaluates
      exact ih given mentioned
  | arithmetic operation left right ihLeft ihRight | compare comparison left right ihLeft ihRight =>
      simp only [evaluate, Except.bind_eq_ok_iff] at evaluates
      obtain ⟨leftValue, leftGiven, rightValue, rightGiven, _⟩ := evaluates
      rcases List.mem_append.mp mentioned with onLeft | onRight
      · exact ihLeft leftGiven onLeft
      · exact ihRight rightGiven onRight
  | conjunction left right ihLeft ihRight | disjunction left right ihLeft ihRight =>
      -- Whatever the left operand is, the right one has been evaluated.
      simp only [evaluate, Except.bind_eq_ok_iff] at evaluates
      obtain ⟨leftValue, leftGiven, leftTruth, _, rightValue, rightGiven, _⟩ := evaluates
      rcases List.mem_append.mp mentioned with onLeft | onRight
      · exact ihLeft leftGiven onLeft
      · exact ihRight rightGiven onRight

/-- An expression that has a value without any variables has it in every context, whatever the
attributes of values are. -/
theorem evaluate_of_unbound (unbound : first.bindings = [])
    (evaluates : expression.evaluate ⟨first, subject⟩ = .ok value) :
    expression.evaluate ⟨context, subject⟩ = .ok value := by
  have agree : first.AgreeOn context expression.variables := by
    intro name mentioned
    exact absurd (by rw [unbound]; rfl) (bound_of_evaluate evaluates mentioned)
  rw [← evaluate_congr agree, evaluates]

end Expression

section Tests

variable {first second : Context} {subject : Value}

theorem Environment.holds_congr {comparison : Comparison} {expression : Expression}
    (agree : first.AgreeOn second expression.variables) :
    Environment.holds ⟨first, subject⟩ comparison expression =
      Environment.holds ⟨second, subject⟩ comparison expression := by
  simp only [Environment.holds, Expression.evaluate_congr agree]

theorem UnaryTest.accepts_congr {test : UnaryTest}
    (agree : first.AgreeOn second test.variables) :
    test.accepts ⟨first, subject⟩ = test.accepts ⟨second, subject⟩ := by
  cases test with
  | comparison comparison endpoint => exact Environment.holds_congr agree
  | interval start finish startClosed finishClosed =>
      obtain ⟨onStart, onFinish⟩ := Context.AgreeOn.append_iff.mp agree
      simp only [accepts, Environment.holds_congr onStart, Environment.holds_congr onFinish]
  | value expression usesSubject => simp only [accepts, Expression.evaluate_congr agree]

namespace UnaryTests

theorem anyAccepts_congr {tests : List UnaryTest}
    (agree : first.AgreeOn second (tests.flatMap UnaryTest.variables)) :
    anyAccepts ⟨first, subject⟩ tests = anyAccepts ⟨second, subject⟩ tests := by
  induction tests with
  | nil => rfl
  | cons test rest ih =>
      obtain ⟨onTest, onRest⟩ := Context.AgreeOn.append_iff.mp agree
      simp only [anyAccepts, UnaryTest.accepts_congr onTest, ih onRest]

/-- Matching has the same outcome in contexts that agree on what the entry mentions. -/
theorem accepts_congr {entry : UnaryTests} (agree : first.AgreeOn second entry.variables) :
    entry.accepts ⟨first, subject⟩ = entry.accepts ⟨second, subject⟩ := by
  cases entry with
  | any => rfl
  | oneOf tests | noneOf tests => simp only [accepts, anyAccepts_congr agree]

end UnaryTests

end Tests

end DecisionTables
