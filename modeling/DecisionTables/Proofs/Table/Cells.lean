import DecisionTables.Proofs.Table.Breakdown
import DecisionTables.Proofs.Table.Results

/-!
# Runs in which no cell fails

A run evaluates the subjects, the conditions of each rule up to the first that does not pass, and the
outputs of those matching rules whose entries the hit policy asks for. What the policy makes of the
entries comes to no further cell. The first cell that fails ends the run, with an error that tells it
or in a breakdown, and a run in which no cell fails ends in anything else.
-/

namespace DecisionTables

/-- Whether an error is the failure of a cell, which is told or a breakdown. -/
inductive EvaluationError.OfCell : EvaluationError → Prop
  | expression {error : ExpressionError} : OfCell (.expression error)
  | fault {fault : Fault} : OfCell (.fault fault)

namespace CompiledTable

variable {table : CompiledTable} {context : Context}

/-! ## Hit policies -/

theorem applyHitPolicy_nil (regular : table.Regular) :
    table.applyHitPolicy context [] = table.conclude [] [] := by
  rw [applyHitPolicy]
  by_cases collects : table.hitPolicy = .collect
  · cases present : table.aggregation with
    | none => simp [conclude, collects, present]
    | some aggregation =>
        by_cases counts : aggregation = .count
        · simp [conclude, collects, present, counts, singleton_bind]
        · simp [conclude, collects, present, counts]
  · have unaggregated := regular.unaggregated collects
    cases policy : table.hitPolicy with
    | collect => exact absurd policy collects
    | first | unique | any | priority | ruleOrder | outputOrder =>
        simp [conclude, policy, unaggregated, allAgree, Outcome.ofFault, byPriority]

/-- A hit policy concludes from the entries that it asks for, also if no rule matches. -/
theorem applyHitPolicy_eq (regular : table.Regular) (rules : List CompiledRule) :
    table.applyHitPolicy context rules =
      table.entriesOf context (table.contributing rules) >>= table.conclude rules := by
  cases rules with
  | nil => exact applyHitPolicy_nil regular
  | cons first others => exact combine_eq first others

/-! ## Failures of cells -/

theorem ofCell_of_located {α : Type} {decisionId columnId : String} {ruleId : Option String}
    {outcome : Except CellError α} {error : EvaluationError}
    (failed : Outcome.ofCell decisionId ruleId columnId outcome = .error error) : error.OfCell := by
  rcases outcome with (told | fault) | value
  · cases failed
    exact .expression
  · cases failed
    exact .fault
  · cases failed

theorem ofCell_of_cellValue {expression : CompiledExpression} {ruleId : Option String}
    {columnId : String} {typeRef : Option String} {error : EvaluationError}
    (failed : table.cellValue expression ruleId columnId typeRef context = .error error) :
    error.OfCell := by
  rw [cellValue, Except.bind_eq_error_iff] at failed
  rcases failed with failed | ⟨value, _, failed⟩
  · exact ofCell_of_located failed
  · rw [coerce] at failed
    split at failed
    · cases failed
    · cases failed
      exact .fault
    · rename_i refusal _
      cases failed
      rw [CellError.ofFailure]
      split
      · exact .expression
      · exact .fault

theorem ofCell_of_conditionsAccept {ruleId : String} {columns : List CompiledInput}
    {conditions : List (Option CompiledTests)} {subjects : List Value} {error : EvaluationError}
    (failed : table.conditionsAccept ruleId context columns conditions subjects = .error error) :
    error.OfCell := by
  induction columns generalizing conditions subjects with
  | nil => cases failed
  | cons column columns ih =>
      rcases conditions with _ | ⟨_ | tests, conditions⟩
      · cases failed
      · cases subjects with
        | nil => cases failed
        | cons subject subjects => exact ih failed
      · cases subjects with
        | nil => cases failed
        | cons subject subjects =>
            simp only [conditionsAccept, Except.bind_eq_error_iff] at failed
            rcases failed with failed | ⟨_ | _, _, failed⟩
            · exact ofCell_of_located failed
            · cases failed
            · exact ih failed

theorem ofCell_of_matching {error : EvaluationError}
    (failed : table.matching context = .error error) : error.OfCell := by
  rw [matching, Except.bind_eq_error_iff] at failed
  rcases failed with failed | ⟨subjects, _, failed⟩
  · obtain ⟨_, _, failed⟩ := forAll_error failed
    exact ofCell_of_cellValue failed
  · obtain ⟨_, _, failed⟩ := matchingRules_error failed
    exact ofCell_of_conditionsAccept failed

theorem ofCell_of_entriesOf {rules : List CompiledRule} {error : EvaluationError}
    (failed : table.entriesOf context rules = .error error) : error.OfCell := by
  obtain ⟨_, _, failed⟩ := forAll_error failed
  rw [entryOf, Except.map_eq_error_iff, outputValues_eq] at failed
  obtain ⟨_, _, failed⟩ := forAll_error failed
  exact ofCell_of_cellValue (Except.map_eq_error_iff.mp failed)

/-! ## Runs without them -/

/-- Whether every cell that a run comes to has a value: no expression, no test and no conversion to
the type of a column fails, be it with an error that tells it or in a breakdown. -/
def CellsSucceed (table : CompiledTable) (context : Context) : Prop :=
  ∃ rules entries, table.matching context = .ok rules ∧
    table.entriesOf context (table.contributing rules) = .ok entries

/-- A run in which a cell fails ends in the failure of that cell. -/
theorem evaluate_of_failure (regular : table.Regular) (failing : ¬table.CellsSucceed context) :
    ∃ error, table.evaluate context = .error error ∧ error.OfCell := by
  cases matched : table.matching context with
  | error error =>
      refine ⟨error, ?_, ofCell_of_matching matched⟩
      rw [evaluate_eq, matched, Except.error_bind]
  | ok rules =>
      cases given : table.entriesOf context (table.contributing rules) with
      | error error =>
          refine ⟨error, ?_, ofCell_of_entriesOf given⟩
          rw [evaluate_of_matching matched, applyHitPolicy_eq regular, given, Except.error_bind,
            Except.map_error]
      | ok entries => exact absurd ⟨rules, entries, matched, given⟩ failing

/-- Where a run does not break down, its cells succeed exactly if it raises no expression error. -/
theorem cellsSucceed_iff (regular : table.Regular) (unbroken : ¬Breaks (table.evaluate context)) :
    table.CellsSucceed context ↔ ∀ error, table.evaluate context ≠ .error (.expression error) := by
  constructor
  · intro succeed error failed
    obtain ⟨rules, entries, matched, given⟩ := succeed
    rw [evaluate_of_matching matched, applyHitPolicy_eq regular, given, Except.ok_bind,
      Except.map_eq_error_iff] at failed
    exact conclude_ne_expression failed
  · intro untold
    by_contra failing
    obtain ⟨error, failed, ofCell⟩ := evaluate_of_failure regular failing
    cases ofCell with
    | expression => exact untold _ failed
    | fault => exact unbroken ⟨_, failed⟩

end CompiledTable

end DecisionTables
