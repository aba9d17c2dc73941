import DecisionTables.Proofs.Table.Shape

/-!
# Matching rules

A table is evaluated in two stages: the rules that match are found, and the hit policy makes entries
of them. The first stage does not look at the hit policy. This module separates the two, so that
tables that differ in their policy alone can be compared on one list of matching rules.
-/

namespace DecisionTables.CompiledTable

/-- The table under another hit policy and aggregation. -/
def under (table : CompiledTable) (policy : HitPolicy) (aggregation : Option Aggregation) :
    CompiledTable :=
  { table with hitPolicy := policy, aggregation := aggregation }

/-- The rules of a table that match in a context. -/
def matching (table : CompiledTable) (context : Context) : Outcome (List CompiledRule) := do
  let subjects ← table.subjects context
  table.matchingRules context subjects table.rules

def accepted : Outcome Bool → Bool
  | .ok answer => answer
  | .error _ => false

/-! ## Values of cells -/

theorem cellValue_eq_ok_iff {table : CompiledTable} {expression : CompiledExpression}
    {ruleId : Option String} {columnId : String} {typeRef : Option String} {context : Context}
    {value : Value} :
    table.cellValue expression ruleId columnId typeRef context = .ok value ↔
      ∃ raw, expression.body.evaluate ⟨context, .null⟩ = .ok raw ∧
        raw.coerce table.strict typeRef = .ok value := by
  simp only [cellValue, Except.bind_eq_ok_iff, Outcome.ofCell_eq_ok_iff,
    CompiledExpression.evaluate_eq_ok_iff, coerce]
  refine exists_congr fun raw => and_congr_right fun _ => ?_
  rcases raw.coerce table.strict typeRef with (error | fault) | converted
  all_goals simp

/-- The output of a cell, under the name and the type of its column. -/
def outputOf (table : CompiledTable) (ruleId : String) (context : Context)
    (cell : CompiledOutput × CompiledExpression) : Outcome OutputValue :=
  (table.cellValue cell.2 (some ruleId) cell.1.id cell.1.typeRef context).map fun value =>
    ⟨cell.1.name, value, cell.1.typeRef⟩

/-- The outputs of a rule are those of its cells, one after the other. -/
theorem outputValues_eq {table : CompiledTable} {ruleId : String} {context : Context}
    {columns : List CompiledOutput} {expressions : List CompiledExpression} :
    table.outputValues ruleId context columns expressions =
      forAll (table.outputOf ruleId context) (columns.zip expressions) := by
  induction columns generalizing expressions with
  | nil => rfl
  | cons column columns ih =>
      cases expressions with
      | nil => rfl
      | cons expression expressions =>
          rw [List.zip_cons_cons, forAll_cons, outputValues, ih, outputOf]
          cases table.cellValue expression (some ruleId) column.id column.typeRef context <;> rfl

/-- Every output of a rule is the output of a cell. -/
theorem mem_outputValues {table : CompiledTable} {ruleId : String} {context : Context}
    {columns : List CompiledOutput} {expressions : List CompiledExpression}
    {values : List OutputValue}
    (given : table.outputValues ruleId context columns expressions = .ok values)
    {output : OutputValue} (member : output ∈ values) :
    ∃ cell ∈ columns.zip expressions, ∃ value,
      table.cellValue cell.2 (some ruleId) cell.1.id cell.1.typeRef context = .ok value ∧
        output = ⟨cell.1.name, value, cell.1.typeRef⟩ := by
  rw [outputValues_eq] at given
  obtain ⟨cell, among, made⟩ := forAll_mem given member
  obtain ⟨value, found, rfl⟩ := Except.map_eq_ok_iff.mp made
  exact ⟨cell, among, value, found, rfl⟩

/-! ## What the stages look at -/

/-- The conditions of a rule only look at the decision of their table. -/
theorem conditionsAccept_congr {left right : CompiledTable} (same : left.decisionId = right.decisionId)
    {ruleId : String} {context : Context} {columns : List CompiledInput}
    {conditions : List (Option CompiledTests)} {subjects : List Value} :
    left.conditionsAccept ruleId context columns conditions subjects =
      right.conditionsAccept ruleId context columns conditions subjects := by
  induction columns generalizing conditions subjects with
  | nil => rfl
  | cons column columns ih =>
      cases conditions with
      | nil => rfl
      | cons condition conditions =>
          cases subjects with
          | nil => rfl
          | cons subject subjects => simp only [conditionsAccept, ih, same]

/-- The outputs of a rule only look at the decision and the mode of their table. -/
theorem outputValues_congr {left right : CompiledTable} (same : left.decisionId = right.decisionId)
    (mode : left.strict = right.strict) {ruleId : String} {context : Context}
    {columns : List CompiledOutput} {expressions : List CompiledExpression} :
    left.outputValues ruleId context columns expressions =
      right.outputValues ruleId context columns expressions := by
  have cells : left.outputOf ruleId context = right.outputOf ruleId context := by
    funext cell
    simp only [outputOf, cellValue, coerce, same, mode]
  rw [outputValues_eq, outputValues_eq, cells]

section Under

variable (table : CompiledTable) (policy : HitPolicy) (aggregation : Option Aggregation)
  (context : Context)

@[simp] theorem under_hitPolicy : (table.under policy aggregation).hitPolicy = policy := rfl

@[simp] theorem under_aggregation :
    (table.under policy aggregation).aggregation = aggregation := rfl

@[simp] theorem under_decisionId :
    (table.under policy aggregation).decisionId = table.decisionId := rfl

@[simp] theorem under_outputs : (table.under policy aggregation).outputs = table.outputs := rfl

@[simp] theorem under_strict : (table.under policy aggregation).strict = table.strict := rfl

@[simp] theorem under_subjects :
    (table.under policy aggregation).subjects context = table.subjects context := rfl

theorem under_matchingRules (subjects : List Value) (rules : List CompiledRule) :
    (table.under policy aggregation).matchingRules context subjects rules =
      table.matchingRules context subjects rules := by
  induction rules with
  | nil => rfl
  | cons rule rest ih =>
      have same : (table.under policy aggregation).matchesRule context subjects rule =
          table.matchesRule context subjects rule :=
        conditionsAccept_congr (under_decisionId table policy aggregation)
      simp only [matchingRules, same, ih]

@[simp] theorem under_matching :
    (table.under policy aggregation).matching context = table.matching context := by
  simp only [matching, under_subjects, under_matchingRules]
  rfl

@[simp] theorem under_entryOf :
    (table.under policy aggregation).entryOf context = table.entryOf context := by
  funext rule
  simp only [entryOf, under_outputs]
  rw [outputValues_congr (under_decisionId table policy aggregation)
    (under_strict table policy aggregation)]

end Under

variable {table : CompiledTable} {context : Context}

/-- Evaluation finds the matching rules and then applies the hit policy to them. -/
theorem evaluate_eq (table : CompiledTable) (context : Context) :
    table.evaluate context =
      table.matching context >>= fun rules =>
        (table.applyHitPolicy context rules).map ResultSet.mk := by
  simp only [evaluate, matching]
  cases table.subjects context with
  | error error => rfl
  | ok subjects =>
      simp only [Except.ok_bind]
      cases table.matchingRules context subjects table.rules with
      | error error => rfl
      | ok rules =>
          simp only [Except.ok_bind]
          cases table.applyHitPolicy context rules with
          | error error => rfl
          | ok entries => rfl

/-- Matching succeeds if every rule of the table is found to match or not to match, and then gives
the rules that do, in the order of the table. -/
theorem matchingRules_eq_ok_iff {subjects : List Value} {rules found : List CompiledRule} :
    table.matchingRules context subjects rules = .ok found ↔
      (∀ rule ∈ rules, ∃ answer, table.matchesRule context subjects rule = .ok answer) ∧
        found = rules.filter fun rule => accepted (table.matchesRule context subjects rule) := by
  induction rules generalizing found with
  | nil => simp [matchingRules, eq_comm]
  | cons rule rest ih =>
      simp only [matchingRules, Except.bind_eq_ok_iff, Except.pure_eq_ok, Except.ok.injEq, ih,
        List.mem_cons, forall_eq_or_imp]
      constructor
      · intro shown
        rcases shown with ⟨answer, tried, others, ⟨decided, rfl⟩, rfl⟩
        refine ⟨⟨⟨answer, tried⟩, decided⟩, ?_⟩
        cases answer <;> simp [tried, accepted]
      · intro shown
        rcases shown with ⟨⟨⟨answer, tried⟩, decided⟩, rfl⟩
        refine ⟨answer, tried, _, ⟨decided, rfl⟩, ?_⟩
        cases answer <;> simp [tried, accepted]

/-- The matching rules are those rules of the table that accept the subjects, in its order. -/
theorem matching_eq_filter {rules : List CompiledRule}
    (matched : table.matching context = .ok rules) :
    ∃ subjects, table.subjects context = .ok subjects ∧
      rules = table.rules.filter fun rule =>
        accepted (table.matchesRule context subjects rule) := by
  simp only [matching, Except.bind_eq_ok_iff] at matched
  rcases matched with ⟨subjects, evaluated, matched⟩
  exact ⟨subjects, evaluated, (matchingRules_eq_ok_iff.mp matched).2⟩

end DecisionTables.CompiledTable
