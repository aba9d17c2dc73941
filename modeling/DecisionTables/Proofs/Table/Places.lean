import DecisionTables.Proofs.Table.Policies

/-!
# Places of failures

Every cell that fails is reported with the decision and the column it belongs to. The place is given
on the way up from the cell to its table, and an empty name says nothing about it; the columns of a
well-shaped table have no empty ids, so that a column is always named.
-/

namespace DecisionTables.CompiledTable

variable {table : CompiledTable} {context : Context}

/-- Whether an error names the decision, unless that has no name, and a column of the table. -/
structure Locates (table : CompiledTable) (error : ExpressionError) : Prop where
  decision : table.decisionId ≠ "" → error.decisionId = some table.decisionId
  column : ∃ id ∈ table.inputs.map CompiledInput.id ++ table.outputs.map CompiledOutput.id,
    error.columnId = some id

/-- Whether an error names a decision, unless that has no name, and a column. -/
def Names (decisionId columnId : String) (error : ExpressionError) : Prop :=
  (decisionId ≠ "" → error.decisionId = some decisionId) ∧ error.columnId = some columnId

theorem prefer_of_ne_empty {text : String} {otherwise : Option String} (named : text ≠ "") :
    ExpressionError.prefer (some text) otherwise = some text := by
  simp [ExpressionError.prefer, named]

theorem names_of_located {α : Type} {decisionId columnId : String} {ruleId : Option String}
    {outcome : Except CellError α} {error : ExpressionError} (named : columnId ≠ "")
    (failed : Outcome.ofCell decisionId ruleId columnId outcome = .error (.expression error)) :
    Names decisionId columnId error := by
  rcases outcome with (inner | fault) | value
  · cases failed
    exact ⟨prefer_of_ne_empty, prefer_of_ne_empty named⟩
  · cases failed
  · cases failed

theorem names_of_coerce {text columnId : String} {ruleId typeRef : Option String} {value : Value}
    {error : ExpressionError}
    (failed : table.coerce text ruleId columnId typeRef context value =
      .error (.expression error)) : Names table.decisionId columnId error := by
  rw [coerce] at failed
  split at failed
  · cases failed
  · cases failed
  · rw [CellError.ofFailure] at failed
    split at failed
    · cases failed
      exact ⟨fun _ => rfl, rfl⟩
    · cases failed

theorem names_of_cellValue {expression : CompiledExpression} {ruleId : Option String}
    {columnId : String} {typeRef : Option String} {error : ExpressionError} (named : columnId ≠ "")
    (failed : table.cellValue expression ruleId columnId typeRef context =
      .error (.expression error)) : Names table.decisionId columnId error := by
  rw [cellValue, Except.bind_eq_error_iff] at failed
  rcases failed with failed | ⟨_, _, failed⟩
  · exact names_of_located named failed
  · exact names_of_coerce failed

theorem names_of_conditionsAccept {ruleId : String} {columns : List CompiledInput}
    {conditions : List (Option CompiledTests)} {subjects : List Value} {error : ExpressionError}
    (named : ∀ column ∈ columns, column.id ≠ "")
    (failed : table.conditionsAccept ruleId context columns conditions subjects =
      .error (.expression error)) :
    ∃ column ∈ columns, Names table.decisionId column.id error := by
  induction columns generalizing conditions subjects with
  | nil => cases failed
  | cons column columns ih =>
      have later {conditions : List (Option CompiledTests)} {subjects : List Value}
          (failed : table.conditionsAccept ruleId context columns conditions subjects =
            .error (.expression error)) :
          ∃ other ∈ column :: columns, Names table.decisionId other.id error := by
        obtain ⟨other, among, names⟩ :=
          ih (fun other among => named other (List.mem_cons_of_mem _ among)) failed
        exact ⟨other, List.mem_cons_of_mem _ among, names⟩
      cases conditions with
      | nil => cases failed
      | cons condition conditions =>
          cases subjects with
          | nil => cases failed
          | cons subject subjects =>
              cases condition with
              | none => exact later failed
              | some tests =>
                  simp only [conditionsAccept, Except.bind_eq_error_iff] at failed
                  rcases failed with failed | ⟨_ | _, _, failed⟩
                  · exact ⟨column, List.mem_cons_self,
                      names_of_located (named column List.mem_cons_self) failed⟩
                  · cases failed
                  · exact later failed

theorem names_of_outputValues {ruleId : String} {columns : List CompiledOutput}
    {expressions : List CompiledExpression} {error : ExpressionError}
    (named : ∀ column ∈ columns, column.id ≠ "")
    (failed : table.outputValues ruleId context columns expressions =
      .error (.expression error)) :
    ∃ column ∈ columns, Names table.decisionId column.id error := by
  rw [outputValues_eq] at failed
  obtain ⟨cell, among, failed⟩ := forAll_error failed
  have declared := (List.of_mem_zip among).1
  exact ⟨cell.1, declared,
    names_of_cellValue (named cell.1 declared) (Except.map_eq_error_iff.mp failed)⟩

theorem matchingRules_error {subjects : List Value} {rules : List CompiledRule}
    {error : EvaluationError} (failed : table.matchingRules context subjects rules = .error error) :
    ∃ rule ∈ rules, table.matchesRule context subjects rule = .error error := by
  induction rules with
  | nil => cases failed
  | cons rule rest ih =>
      rcases Except.both_error failed with failed | failed
      · exact ⟨rule, List.mem_cons_self, failed⟩
      · obtain ⟨found, among, failed⟩ := ih failed
        exact ⟨found, List.mem_cons_of_mem _ among, failed⟩

theorem combine_expression {first : CompiledRule} {others : List CompiledRule}
    {error : ExpressionError}
    (failed : table.combine context first others = .error (.expression error)) :
    ∃ rule, table.entryOf context rule = .error (.expression error) := by
  rw [combine_eq, Except.bind_eq_error_iff] at failed
  rcases failed with failed | ⟨entries, _, failed⟩
  · obtain ⟨rule, _, failed⟩ := forAll_error failed
    exact ⟨rule, failed⟩
  · exact absurd failed conclude_ne_expression

theorem applyHitPolicy_expression {rules : List CompiledRule} {error : ExpressionError}
    (failed : table.applyHitPolicy context rules = .error (.expression error)) :
    ∃ rule, table.entryOf context rule = .error (.expression error) := by
  cases rules with
  | nil =>
      rw [applyHitPolicy] at failed
      split at failed
      · simp only [Except.bind_eq_error_iff, Except.pure_eq_ok, reduceCtorEq, and_false,
          exists_false, or_false] at failed
        exact absurd failed aggregatedEntry_ne_expression
      · cases failed
  | cons first others => exact combine_expression failed

/-- Every failure of an expression in a well-shaped table is located. -/
theorem locates_of_evaluate (shaped : table.WellShaped) {error : ExpressionError}
    (failed : table.evaluate context = .error (.expression error)) : table.Locates error := by
  have input {column : CompiledInput} (among : column ∈ table.inputs)
      (names : Names table.decisionId column.id error) : table.Locates error :=
    ⟨names.1, column.id, List.mem_append_left _ (List.mem_map_of_mem among), names.2⟩
  have output {column : CompiledOutput} (among : column ∈ table.outputs)
      (names : Names table.decisionId column.id error) : table.Locates error :=
    ⟨names.1, column.id, List.mem_append_right _ (List.mem_map_of_mem among), names.2⟩
  simp only [evaluate_eq, matching, Except.bind_eq_error_iff, Except.map_eq_error_iff] at failed
  rcases failed with (failed | ⟨subjects, _, failed⟩) | ⟨rules, _, failed⟩
  · obtain ⟨column, among, failed⟩ := forAll_error failed
    exact input among (names_of_cellValue (shaped.input_id column among) failed)
  · obtain ⟨rule, _, failed⟩ := matchingRules_error failed
    obtain ⟨column, among, names⟩ := names_of_conditionsAccept shaped.input_id failed
    exact input among names
  · obtain ⟨rule, failed⟩ := applyHitPolicy_expression failed
    rw [entryOf, Except.map_eq_error_iff] at failed
    obtain ⟨column, among, names⟩ := names_of_outputValues shaped.output_id failed
    exact output among names

end DecisionTables.CompiledTable
