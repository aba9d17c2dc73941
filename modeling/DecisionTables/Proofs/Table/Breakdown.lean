import DecisionTables.Proofs.Table.Aggregates
import DecisionTables.Proofs.Table.Comparisons
import DecisionTables.Proofs.Table.Places

/-!
# Where tables break down

The operations that the evaluation of a table comes to: those of the cells that it looks at, the
writing of values in the errors that it reports, and those of its hit policy, which aggregates outputs or
compares them. A table breaks down exactly if one of them has no result.
-/

namespace DecisionTables

/-! ## Errors of cells -/

theorem Bindings.breaks_snapshot_iff {bindings : Bindings} :
    Breaks bindings.snapshot ↔ Value.Unwritable (.map bindings) := by
  induction bindings with
  | nil =>
      refine iff_of_false not_breaks_ok ?_
      intro impossible
      obtain _ | _ | ⟨⟨⟩, _⟩ := impossible
  | cons binding rest ih =>
      rcases binding with ⟨name, value⟩
      rw [Value.unwritable_members_iff, ← ih, ← Value.breaks_quoted_iff]
      exact breaks_both_iff

theorem breaks_ofFailure_iff {α : Type} {reason : Failure} {text : String} {context : Context}
    {decisionId ruleId columnId : Option String} :
    Breaks (.error (CellError.ofFailure reason text context decisionId ruleId columnId) :
      Except CellError α) ↔ Value.Unwritable (.map context.bindings) := by
  rw [← Bindings.breaks_snapshot_iff, CellError.ofFailure]
  cases context.bindings.snapshot with
  | ok snapshot =>
      refine iff_of_false ?_ not_breaks_ok
      intro impossible
      obtain ⟨_, ⟨⟩⟩ := impossible
  | error fault => exact iff_of_true ⟨fault, rfl⟩ breaks_fault

/-- A cell breaks down if its evaluation does, or if that fails and the variables cannot be shown.
-/
theorem breaks_ofCell_iff {α : Type} {text : String} {context : Context} {outcome : Evaluated α} :
    Breaks (Evaluated.ofCell text context outcome) ↔
      Breaks outcome ∨ (∃ reason, outcome = .error (.failure reason)) ∧
        Value.Unwritable (.map context.bindings) := by
  rcases outcome with (reason | fault) | value
  · simp [Evaluated.ofCell, breaks_ofFailure_iff]
  · exact iff_of_true ⟨fault, rfl⟩ (.inl ⟨fault, rfl⟩)
  · simp [Evaluated.ofCell]

theorem breaks_located_iff {α : Type} {decisionId columnId : String} {ruleId : Option String}
    {outcome : Except CellError α} :
    Breaks (Outcome.ofCell decisionId ruleId columnId outcome) ↔ Breaks outcome := by
  rcases outcome with (error | fault) | value
  · refine iff_of_false ?_ ?_ <;> rintro ⟨_, ⟨⟩⟩
  · exact iff_of_true ⟨fault, rfl⟩ ⟨fault, rfl⟩
  · simp [Outcome.ofCell]

theorem breaks_ofCell_error_iff {α : Type} {error : CellError} :
    Breaks (.error (.ofCell error) : Outcome α) ↔ Breaks (.error error : Except CellError α) := by
  cases error with
  | expression error => refine iff_of_false ?_ ?_ <;> rintro ⟨_, ⟨⟩⟩
  | fault fault => exact iff_of_true ⟨fault, rfl⟩ ⟨fault, rfl⟩

namespace CompiledTable

variable {table : CompiledTable} {context : Context}

/-! ## Cells -/

/-- The operations that a cell comes to whose value is brought to the type of its column. The
variables are written in the error of a cell that fails. -/
inductive AttemptsCell (table : CompiledTable) (context : Context)
    (expression : CompiledExpression) (typeRef : Option String) : Operation → Prop
  | evaluation {attempted : Operation} :
      expression.body.Attempts ⟨context, .null⟩ attempted →
      AttemptsCell table context expression typeRef attempted
  | failure {reason : Failure} :
      expression.body.evaluate ⟨context, .null⟩ = .error (.failure reason) →
      AttemptsCell table context expression typeRef (.writing (.map context.bindings))
  | refusal {value : Value} :
      expression.body.evaluate ⟨context, .null⟩ = .ok value →
      table.strict = true → value.convert? typeRef = none →
      AttemptsCell table context expression typeRef (.writing value)
  | refused {value : Value} {quoted : String} :
      expression.body.evaluate ⟨context, .null⟩ = .ok value →
      table.strict = true → value.convert? typeRef = none → value.quoted = .ok quoted →
      AttemptsCell table context expression typeRef (.writing (.map context.bindings))

theorem breaks_coerce_iff {text : String} {ruleId : Option String} {columnId : String}
    {typeRef : Option String} {value : Value} :
    Breaks (table.coerce text ruleId columnId typeRef context value) ↔
      (table.strict = true ∧ value.convert? typeRef = none) ∧
        (Value.Unwritable value ∨
          (∃ quoted, value.quoted = .ok quoted) ∧ Value.Unwritable (.map context.bindings)) := by
  rw [coerce, Value.coerce, ← Value.breaks_quoted_iff value]
  cases value.convert? typeRef with
  | some converted => simp
  | none =>
      cases table.strict with
      | false => simp
      | true =>
          cases written : value.quoted with
          | error fault =>
              simp only [Value.refuse, written, if_true]
              exact iff_of_true ⟨fault, rfl⟩ ⟨⟨trivial, trivial⟩, .inl breaks_fault⟩
          | ok quoted =>
              simp only [Value.refuse, written, if_true, breaks_ofCell_error_iff]
              simp [breaks_ofFailure_iff]

theorem breaks_cellValue_iff {expression : CompiledExpression} {ruleId : Option String}
    {columnId : String} {typeRef : Option String} :
    Breaks (table.cellValue expression ruleId columnId typeRef context) ↔
      ∃ operation, table.AttemptsCell context expression typeRef operation ∧
        operation.Undefined := by
  simp only [cellValue, breaks_bind, CompiledExpression.evaluate, Outcome.ofCell_eq_ok_iff,
    Evaluated.ofCell_eq_ok_iff, breaks_located_iff, breaks_ofCell_iff,
    Expression.breaks_evaluate_iff, breaks_coerce_iff]
  constructor
  · intro found
    rcases found with (⟨operation, attempts, undefined⟩ | ⟨⟨reason, failed⟩, unwritable⟩) | ⟨value,
      given, ⟨strict, refused⟩, unwritable | ⟨⟨quoted, written⟩, unwritable⟩⟩
    · exact ⟨operation, .evaluation attempts, undefined⟩
    · exact ⟨_, .failure failed, unwritable⟩
    · exact ⟨_, .refusal given strict refused, unwritable⟩
    · exact ⟨_, .refused given strict refused written, unwritable⟩
  · intro found
    rcases found with ⟨operation, attempts, undefined⟩
    cases attempts with
    | evaluation attempts => exact .inl (.inl ⟨operation, attempts, undefined⟩)
    | failure failed => exact .inl (.inr ⟨⟨_, failed⟩, undefined⟩)
    | refusal given strict refused => exact .inr ⟨_, given, ⟨strict, refused⟩, .inl undefined⟩
    | refused given strict refused written =>
        exact .inr ⟨_, given, ⟨strict, refused⟩, .inr ⟨⟨_, written⟩, undefined⟩⟩

/-! ## Conditions -/

/-- The operations that the conditions of a rule come to, up to the first that does not accept the
subject of its column. -/
inductive AttemptsConditions (context : Context) : List CompiledInput →
    List (Option CompiledTests) → List Value → Operation → Prop
  | test {column : CompiledInput} {columns : List CompiledInput} {tests : CompiledTests}
      {conditions : List (Option CompiledTests)} {subject : Value} {subjects : List Value}
      {attempted : Operation} :
      tests.body.Attempts ⟨context, subject⟩ attempted →
      AttemptsConditions context (column :: columns) (some tests :: conditions)
        (subject :: subjects) attempted
  | failure {column : CompiledInput} {columns : List CompiledInput} {tests : CompiledTests}
      {conditions : List (Option CompiledTests)} {subject : Value} {subjects : List Value}
      {reason : Failure} :
      tests.body.accepts ⟨context, subject⟩ = .error (.failure reason) →
      AttemptsConditions context (column :: columns) (some tests :: conditions)
        (subject :: subjects) (.writing (.map context.bindings))
  | accepted {column : CompiledInput} {columns : List CompiledInput} {tests : CompiledTests}
      {conditions : List (Option CompiledTests)} {subject : Value} {subjects : List Value}
      {attempted : Operation} :
      tests.body.accepts ⟨context, subject⟩ = .ok true →
      AttemptsConditions context columns conditions subjects attempted →
      AttemptsConditions context (column :: columns) (some tests :: conditions)
        (subject :: subjects) attempted
  | unconditional {column : CompiledInput} {columns : List CompiledInput}
      {conditions : List (Option CompiledTests)} {subject : Value} {subjects : List Value}
      {attempted : Operation} :
      AttemptsConditions context columns conditions subjects attempted →
      AttemptsConditions context (column :: columns) (none :: conditions) (subject :: subjects)
        attempted

theorem breaks_conditionsAccept_iff {ruleId : String} {columns : List CompiledInput}
    {conditions : List (Option CompiledTests)} {subjects : List Value} :
    Breaks (table.conditionsAccept ruleId context columns conditions subjects) ↔
      ∃ operation, AttemptsConditions context columns conditions subjects operation ∧
        operation.Undefined := by
  induction columns generalizing conditions subjects with
  | nil => exact breaks_ok_iff fun _ => nofun
  | cons column columns ih =>
      cases conditions with
      | nil => exact breaks_ok_iff fun _ => nofun
      | cons condition conditions =>
          cases subjects with
          | nil => exact breaks_ok_iff fun _ => nofun
          | cons subject subjects =>
              cases condition with
              | none =>
                  simp only [conditionsAccept, Except.pure_eq_ok, Except.ok_bind, if_true, ih]
                  constructor
                  · intro found
                    rcases found with ⟨operation, attempts, undefined⟩
                    exact ⟨operation, .unconditional attempts, undefined⟩
                  · intro found
                    rcases found with ⟨operation, attempts, undefined⟩
                    cases attempts with
                    | unconditional attempts => exact ⟨operation, attempts, undefined⟩
              | some tests =>
                  simp only [conditionsAccept, breaks_bind, CompiledTests.accepts,
                    Outcome.ofCell_eq_ok_iff, Evaluated.ofCell_eq_ok_iff, breaks_located_iff,
                    breaks_ofCell_iff, UnaryTests.breaks_accepts_iff]
                  constructor
                  · intro found
                    rcases found with (⟨operation, attempts, undefined⟩ | ⟨⟨reason, failed⟩,
                      unwritable⟩) | ⟨_ | _, tried, broken⟩
                    · exact ⟨operation, .test attempts, undefined⟩
                    · exact ⟨_, .failure failed, unwritable⟩
                    · exact absurd broken not_breaks_ok
                    · obtain ⟨operation, attempts, undefined⟩ := ih.mp broken
                      exact ⟨operation, .accepted tried attempts, undefined⟩
                  · intro found
                    rcases found with ⟨operation, attempts, undefined⟩
                    cases attempts with
                    | test attempts => exact .inl (.inl ⟨operation, attempts, undefined⟩)
                    | failure failed => exact .inl (.inr ⟨⟨_, failed⟩, undefined⟩)
                    | accepted tried attempts =>
                        exact .inr ⟨true, tried, ih.mpr ⟨operation, attempts, undefined⟩⟩

theorem breaks_matchingRules_iff {subjects : List Value} {rules : List CompiledRule} :
    Breaks (table.matchingRules context subjects rules) ↔
      ∃ rule, Reaches (table.matchesRule context subjects) rules rule ∧
        Breaks (table.matchesRule context subjects rule) := by
  induction rules with
  | nil => exact iff_of_false not_breaks_ok not_reaches_nil
  | cons rule rest ih =>
      simp only [matchingRules, breaks_bind, Except.pure_eq_ok, not_breaks_ok, and_false,
        exists_false, or_false, ih, reaches_cons_iff]

/-! ## Outputs -/

/-- The operations that the output entries of a rule come to. -/
inductive AttemptsOutputs (table : CompiledTable) (context : Context) (ruleId : String) :
    List CompiledOutput → List CompiledExpression → Operation → Prop
  | cell {column : CompiledOutput} {columns : List CompiledOutput} {expression : CompiledExpression}
      {expressions : List CompiledExpression} {attempted : Operation} :
      table.AttemptsCell context expression column.typeRef attempted →
      AttemptsOutputs table context ruleId (column :: columns) (expression :: expressions)
        attempted
  | later {column : CompiledOutput} {columns : List CompiledOutput}
      {expression : CompiledExpression} {expressions : List CompiledExpression} {value : Value}
      {attempted : Operation} :
      table.cellValue expression (some ruleId) column.id column.typeRef context = .ok value →
      AttemptsOutputs table context ruleId columns expressions attempted →
      AttemptsOutputs table context ruleId (column :: columns) (expression :: expressions)
        attempted

theorem breaks_outputValues_iff {ruleId : String} {columns : List CompiledOutput}
    {expressions : List CompiledExpression} :
    Breaks (table.outputValues ruleId context columns expressions) ↔
      ∃ operation, table.AttemptsOutputs context ruleId columns expressions operation ∧
        operation.Undefined := by
  induction columns generalizing expressions with
  | nil => exact breaks_ok_iff fun _ => nofun
  | cons column columns ih =>
      cases expressions with
      | nil => exact breaks_ok_iff fun _ => nofun
      | cons expression expressions =>
          simp only [outputValues, breaks_bind, Except.pure_eq_ok, not_breaks_ok, and_false,
            exists_false, or_false, ih, breaks_cellValue_iff]
          constructor
          · intro found
            rcases found with ⟨operation, attempts, undefined⟩ | ⟨value, given, operation,
              attempts, undefined⟩
            · exact ⟨operation, .cell attempts, undefined⟩
            · exact ⟨operation, .later given attempts, undefined⟩
          · intro found
            rcases found with ⟨operation, attempts, undefined⟩
            cases attempts with
            | cell attempts => exact .inl ⟨operation, attempts, undefined⟩
            | later given attempts => exact .inr ⟨_, given, operation, attempts, undefined⟩

theorem breaks_aggregatedEntry_iff {aggregation : Aggregation} {entries : List OutputEntry} :
    Breaks (table.aggregatedEntry aggregation entries) ↔
      table.outputs ≠ [] ∧ Breaks (aggregation.apply (firstValues entries) table.decisionId) := by
  rw [aggregatedEntry]
  cases table.outputs with
  | nil => simp
  | cons column columns =>
      rcases aggregation.apply (firstValues entries) table.decisionId with (error | fault) | value
      · refine iff_of_false ?_ ?_
        · intro impossible
          rcases impossible with ⟨_, ⟨⟩⟩
        · intro impossible
          rcases impossible with ⟨_, _, ⟨⟩⟩
      · exact iff_of_true ⟨fault, rfl⟩ ⟨by simp, fault, rfl⟩
      · simp

theorem not_breaks_conflict {α : Type} {rules : List CompiledRule} :
    ¬Breaks (.error (table.conflict rules) : Outcome α) := by
  intro impossible
  rcases impossible with ⟨_, ⟨⟩⟩

theorem breaks_outcome_ofFault {α : Type} {outcome : Except Fault α} :
    Breaks (Outcome.ofFault outcome) ↔ Breaks outcome := by
  cases outcome with
  | ok value => simp [Outcome.ofFault]
  | error fault => exact iff_of_true ⟨fault, rfl⟩ breaks_fault

theorem breaks_byPriority_iff {entries : List OutputEntry} :
    Breaks (table.byPriority entries) ↔ ∃ entry, Reaches table.withRanks entries entry ∧
      ∃ operation, AttemptsRanks table.outputs entry.values operation ∧ operation.Undefined := by
  simp only [byPriority, breaks_bind, breaks_forAll_iff, Except.pure_eq_ok, not_breaks_ok, and_false,
    exists_false, or_false, withRanks, breaks_map, breaks_outcome_ofFault, breaks_ranks_iff]

/-- The operations that a hit policy comes to with the entries of matching rules: it reduces their
values, compares them with each other, or looks for them among the allowed values. -/
inductive AttemptsConclusion (table : CompiledTable) (entries : List OutputEntry) : Operation → Prop
  | aggregation {aggregation : Aggregation} {attempted : Operation} :
      table.hitPolicy = .collect → table.aggregation = some aggregation →
      Aggregate.Attempts aggregation ((firstValues entries).filter fun value => !value.isNull)
        attempted →
      AttemptsConclusion table entries attempted
  | agreement {attempted : Operation} :
      table.hitPolicy = .any → AttemptsAllAgree entries attempted →
      AttemptsConclusion table entries attempted
  | ranking {entry : OutputEntry} {attempted : Operation} :
      table.hitPolicy.usesPriorities = true → Reaches table.withRanks entries entry →
      AttemptsRanks table.outputs entry.values attempted →
      AttemptsConclusion table entries attempted

section Policies

variable {entries : List OutputEntry} {operation : Operation}

theorem attemptsConclusion_any_iff (policy : table.hitPolicy = .any) :
    table.AttemptsConclusion entries operation ↔ AttemptsAllAgree entries operation := by
  constructor
  · rintro (⟨other, _, _⟩ | ⟨_, attempts⟩ | ⟨uses, _, _⟩)
    · simp [policy] at other
    · exact attempts
    · simp [policy, HitPolicy.usesPriorities] at uses
  · exact .agreement policy

theorem attemptsConclusion_collect_iff (policy : table.hitPolicy = .collect) :
    table.AttemptsConclusion entries operation ↔
      ∃ aggregation, table.aggregation = some aggregation ∧
        Aggregate.Attempts aggregation ((firstValues entries).filter fun value => !value.isNull)
          operation := by
  constructor
  · rintro (⟨_, present, attempts⟩ | ⟨other, _⟩ | ⟨uses, _, _⟩)
    · exact ⟨_, present, attempts⟩
    · simp [policy] at other
    · simp [policy, HitPolicy.usesPriorities] at uses
  · rintro ⟨aggregation, present, attempts⟩
    exact .aggregation policy present attempts

theorem attemptsConclusion_priorities_iff (uses : table.hitPolicy.usesPriorities = true) :
    table.AttemptsConclusion entries operation ↔
      ∃ entry, Reaches table.withRanks entries entry ∧
        AttemptsRanks table.outputs entry.values operation := by
  constructor
  · rintro (⟨policy, _, _⟩ | ⟨policy, _⟩ | ⟨_, reached, attempts⟩)
    · simp [policy, HitPolicy.usesPriorities] at uses
    · simp [policy, HitPolicy.usesPriorities] at uses
    · exact ⟨_, reached, attempts⟩
  · rintro ⟨entry, reached, attempts⟩
    exact .ranking uses reached attempts

/-- The other policies take the entries as they come. -/
theorem not_attemptsConclusion (notAny : table.hitPolicy ≠ .any)
    (notCollect : table.hitPolicy ≠ .collect) (unused : table.hitPolicy.usesPriorities = false) :
    ¬∃ operation, table.AttemptsConclusion entries operation ∧ operation.Undefined := by
  rintro ⟨_, ⟨policy, _, _⟩ | ⟨policy, _⟩ | ⟨uses, _, _⟩, _⟩
  · exact notCollect policy
  · exact notAny policy
  · simp [unused] at uses

theorem breaks_byPriority_iff_attempts (uses : table.hitPolicy.usesPriorities = true) :
    Breaks (table.byPriority entries) ↔
      ∃ operation, table.AttemptsConclusion entries operation ∧ operation.Undefined := by
  simp only [breaks_byPriority_iff, attemptsConclusion_priorities_iff uses]
  constructor
  · rintro ⟨entry, reached, operation, attempts, undefined⟩
    exact ⟨operation, ⟨entry, reached, attempts⟩, undefined⟩
  · rintro ⟨operation, ⟨entry, reached, attempts⟩, undefined⟩
    exact ⟨entry, reached, operation, attempts, undefined⟩

/-- The conclusion from the entries of matching rules breaks down exactly if it comes to an operation
without a result. An aggregated table has an output column. -/
theorem breaks_conclude_iff {rules : List CompiledRule} (matched : rules ≠ [])
    (outputs : table.aggregation.isSome → table.outputs ≠ []) :
    Breaks (table.conclude rules entries) ↔
      ∃ operation, table.AttemptsConclusion entries operation ∧ operation.Undefined := by
  cases policy : table.hitPolicy with
  | first =>
      simp only [conclude, policy]
      refine iff_of_false not_breaks_ok (not_attemptsConclusion ?_ ?_ ?_)
      all_goals simp [policy, HitPolicy.usesPriorities]
  | ruleOrder =>
      simp only [conclude, policy]
      refine iff_of_false not_breaks_ok (not_attemptsConclusion ?_ ?_ ?_)
      all_goals simp [policy, HitPolicy.usesPriorities]
  | unique =>
      simp only [conclude, policy]
      refine iff_of_false ?_ (not_attemptsConclusion ?_ ?_ ?_)
      · split
        · exact not_breaks_ok
        · exact not_breaks_conflict
      all_goals simp [policy, HitPolicy.usesPriorities]
  | any =>
      simp only [conclude, policy, breaks_bind, breaks_outcome_ofFault, breaks_allAgree_iff,
        attemptsConclusion_any_iff policy]
      refine or_iff_left ?_
      rintro ⟨_ | _, _, broken⟩
      · exact not_breaks_conflict broken
      · exact not_breaks_ok broken
  | priority =>
      simp only [conclude, policy, breaks_map]
      exact breaks_byPriority_iff_attempts (by simp [policy, HitPolicy.usesPriorities])
  | outputOrder =>
      simp only [conclude, policy]
      exact breaks_byPriority_iff_attempts (by simp [policy, HitPolicy.usesPriorities])
  | collect =>
      simp only [attemptsConclusion_collect_iff policy]
      cases present : table.aggregation with
      | none =>
          simp only [conclude, policy, present]
          refine iff_of_false not_breaks_ok ?_
          rintro ⟨_, ⟨_, ⟨⟩, _⟩, _⟩
      | some aggregation =>
          have column := outputs (by rw [present]; rfl)
          simp only [conclude, policy, present, List.isEmpty_iff, matched, false_and, if_false,
            breaks_map, breaks_aggregatedEntry_iff, Aggregate.breaks_apply_iff, ne_eq, column,
            not_false_eq_true, true_and, Option.some.injEq, exists_eq_left']

end Policies

theorem not_breaks_aggregatedEntry_nil {aggregation : Aggregation} :
    ¬Breaks (table.aggregatedEntry aggregation []) := by
  rw [breaks_aggregatedEntry_iff, Aggregate.breaks_apply_iff]
  intro shown
  rcases shown with ⟨_, _, attempts, _⟩
  exact Aggregate.not_attempts_nil attempts

theorem not_attemptsConclusion_nil {operation : Operation} :
    ¬table.AttemptsConclusion [] operation := by
  rintro (⟨_, _, attempts⟩ | ⟨_, ⟨⟩⟩ | ⟨_, ⟨⟩, _⟩)
  exact Aggregate.not_attempts_nil attempts

/-- Applying the hit policy breaks down if an entry that it asks for does, or the conclusion from all of
them. -/
theorem breaks_applyHitPolicy_iff (outputs : table.aggregation.isSome → table.outputs ≠ [])
    {rules : List CompiledRule} :
    Breaks (table.applyHitPolicy context rules) ↔
      (∃ rule, Reaches (table.entryOf context) (table.contributing rules) rule ∧
        Breaks (table.entryOf context rule)) ∨
      ∃ entries, table.entriesOf context (table.contributing rules) = .ok entries ∧
        ∃ operation, table.AttemptsConclusion entries operation ∧ operation.Undefined := by
  cases rules with
  | nil =>
      refine iff_of_false ?_ ?_
      · rw [applyHitPolicy]
        split
        · simp [not_breaks_aggregatedEntry_nil]
        · exact not_breaks_ok
      · rintro (⟨_, ⟨⟩, _⟩ | ⟨_, ⟨⟩, _, attempts, _⟩)
        exact not_attemptsConclusion_nil attempts
  | cons first others =>
      change Breaks (table.combine context first others) ↔ _
      simp only [combine_eq, breaks_bind, entriesOf, breaks_forAll_iff,
        breaks_conclude_iff (List.cons_ne_nil first others) outputs]

/-! ## Tables -/

/-- The operations that the evaluation of a table comes to: in the input columns, in the conditions
of the rules, in the outputs of the rules that the hit policy asks for, and in its conclusion from
them. -/
inductive Attempts (table : CompiledTable) (context : Context) : Operation → Prop
  | subject {column : CompiledInput} {attempted : Operation} :
      Reaches (table.subject context) table.inputs column →
      table.AttemptsCell context column.expression column.typeRef attempted →
      Attempts table context attempted
  | condition {subjects : List Value} {rule : CompiledRule} {attempted : Operation} :
      table.subjects context = .ok subjects →
      Reaches (table.matchesRule context subjects) table.rules rule →
      AttemptsConditions context table.inputs rule.conditions subjects attempted →
      Attempts table context attempted
  | output {rules : List CompiledRule} {rule : CompiledRule} {attempted : Operation} :
      table.matching context = .ok rules →
      Reaches (table.entryOf context) (table.contributing rules) rule →
      table.AttemptsOutputs context rule.id table.outputs rule.outputs attempted →
      Attempts table context attempted
  | conclusion {rules : List CompiledRule} {entries : List OutputEntry} {attempted : Operation} :
      table.matching context = .ok rules →
      table.entriesOf context (table.contributing rules) = .ok entries →
      table.AttemptsConclusion entries attempted → Attempts table context attempted

theorem breaks_matching_iff :
    Breaks (table.matching context) ↔
      (∃ column, Reaches (table.subject context) table.inputs column ∧
        ∃ operation, table.AttemptsCell context column.expression column.typeRef operation ∧
          operation.Undefined) ∨
      ∃ subjects, table.subjects context = .ok subjects ∧
        ∃ rule, Reaches (table.matchesRule context subjects) table.rules rule ∧
          ∃ operation, AttemptsConditions context table.inputs rule.conditions subjects operation ∧
            operation.Undefined := by
  simp only [matching, breaks_bind, subjects, breaks_forAll_iff, subject, breaks_cellValue_iff,
    breaks_matchingRules_iff, matchesRule, breaks_conditionsAccept_iff]

/-- The evaluation of a well-shaped table breaks down exactly if it comes to an operation without a
result. -/
theorem breaks_evaluate_iff (shaped : table.WellShaped) :
    Breaks (table.evaluate context) ↔
      ∃ operation, table.Attempts context operation ∧ operation.Undefined := by
  have outputs (aggregated : table.aggregation.isSome) : table.outputs ≠ [] := by
    intro none
    have single := shaped.aggregation aggregated
    rw [none] at single
    cases single
  simp only [evaluate_eq, breaks_bind, breaks_matching_iff, breaks_map,
    breaks_applyHitPolicy_iff outputs, entryOf, breaks_outputValues_iff]
  constructor
  · intro found
    rcases found with (⟨column, reached, operation, attempts, undefined⟩ | ⟨subjects, given, rule,
      reached, operation, attempts, undefined⟩) | ⟨rules, matched, ⟨rule, reached, operation,
      attempts, undefined⟩ | ⟨entries, made, operation, attempts, undefined⟩⟩
    · exact ⟨operation, .subject reached attempts, undefined⟩
    · exact ⟨operation, .condition given reached attempts, undefined⟩
    · exact ⟨operation, .output matched reached attempts, undefined⟩
    · exact ⟨operation, .conclusion matched made attempts, undefined⟩
  · intro found
    rcases found with ⟨operation, attempts, undefined⟩
    cases attempts with
    | subject reached attempts =>
        exact .inl (.inl ⟨_, reached, operation, attempts, undefined⟩)
    | condition given reached attempts =>
        exact .inl (.inr ⟨_, given, _, reached, operation, attempts, undefined⟩)
    | output matched reached attempts =>
        exact .inr ⟨_, matched, .inl ⟨_, reached, operation, attempts, undefined⟩⟩
    | conclusion matched made attempts =>
        exact .inr ⟨_, matched, .inr ⟨_, made, operation, attempts, undefined⟩⟩

/-! ## Compiled tables -/

/-- What the evaluation of a table may end in: a result, a conflict of rules, a failed aggregation
or the failure of a cell, which is located. -/
inductive Settles (table : CompiledTable) : Outcome ResultSet → Prop
  | result {result : ResultSet} : Settles table (.ok result)
  | conflict {error : RuleConflict} : Settles table (.error (.conflict error))
  | aggregation {error : AggregationError} : Settles table (.error (.aggregation error))
  | expression {error : ExpressionError} :
      table.Locates error → Settles table (.error (.expression error))

theorem not_settles_of_breaks {outcome : Outcome ResultSet} (broken : Breaks outcome) :
    ¬table.Settles outcome := by
  rcases broken with ⟨fault, rfl⟩
  intro settled
  cases settled

theorem settles_of_not_breaks (shaped : table.WellShaped)
    (unbroken : ¬Breaks (table.evaluate context)) : table.Settles (table.evaluate context) := by
  cases ended : table.evaluate context with
  | ok result => exact .result
  | error error =>
      cases error with
      | expression error => exact .expression (locates_of_evaluate shaped ended)
      | conflict error => exact .conflict
      | aggregation error => exact .aggregation
      | fault fault => exact absurd ⟨fault, ended⟩ unbroken

/-- The evaluation of a compiled table gives a result or an error of the language exactly if every
operation that it comes to has a result. -/
theorem evaluate_settles_iff {options : CompilerOptions} {definition : DecisionDefinition}
    (compiled : definition.compile options = .ok table) (context : Context) :
    table.Settles (table.evaluate context) ↔
      ∀ operation, table.Attempts context operation → ¬operation.Undefined := by
  have shaped := DecisionDefinition.compile_wellShaped compiled
  constructor
  · intro settled operation attempts undefined
    have broken := (breaks_evaluate_iff shaped).mpr ⟨operation, attempts, undefined⟩
    exact not_settles_of_breaks broken settled
  · intro defined
    apply settles_of_not_breaks shaped
    intro broken
    obtain ⟨operation, attempts, undefined⟩ := (breaks_evaluate_iff shaped).mp broken
    exact defined operation attempts undefined

/-- A decision whose table has no input column and one rule with one output entry. -/
def answering (id text : String) : DecisionDefinition :=
  ⟨id, none, .decisionTable,
    some (.decisionTable ⟨none, some "FIRST", none, [], [⟨none, none, none, none, []⟩],
      [⟨none, none, [], [text]⟩]⟩), []⟩

/-- The compiled form of a decision with one rule and one output entry. -/
def answeringTable (id : String) (expression : CompiledExpression) : CompiledTable where
  decisionId := id
  decisionName := none
  hitPolicy := .first
  aggregation := none
  inputs := []
  outputs := [⟨"output0", id, none, none, []⟩]
  rules := [⟨"rule0", 0, none, [], [expression]⟩]
  strict := false

theorem answering_compile (id : String) {text : String} {expression : CompiledExpression}
    (read : CompiledExpression.compile text = .ok expression) :
    (answering id text).compile ⟨"UNIQUE", false⟩ = .ok (answeringTable id expression) := by
  have recognised : HitPolicy.parse (some "FIRST") none "UNIQUE" = .ok (.first, none) :=
    HitPolicy.parse_plain "FIRST" (by decide +kernel) rfl rfl
  have rule : Compile.rule id [] (answeringTable id expression).outputs 0
      ⟨none, none, [], [text]⟩ = .ok ⟨"rule0", 0, none, [], [expression]⟩ := by
    simp only [Compile.rule, answeringTable, Compile.forCells, Compile.outputEntry, List.map_nil,
      List.map_cons, read]
    rfl
  refine DecisionDefinition.compile_eq_ok rfl rfl ?_ rfl rfl (by simp [HitPolicy.usesPriorities]) ?_
  · exact Compile.hitPolicy_eq_ok recognised (by simp)
  · change Compile.forAllFrom _ 0 [_] = _
    rw [forAllFrom_cons]
    exact congrArg (· >>= _) rule

def comparedMoments : CompiledExpression :=
  ⟨"sent<due", .compare (.relation .less) (.name ⟨"sent", []⟩) (.name ⟨"due", []⟩)⟩

set_option maxRecDepth 4000 in
theorem comparedMoments_compile : CompiledExpression.compile "sent<due" = .ok comparedMoments := by
  have shown : Text.isBlankText "sent<due" = false := by cbv
  have tokenized : tokenize "sent<due" =
      .ok [⟨.name "sent", 0⟩, ⟨.symbol .less, 4⟩, ⟨.name "due", 5⟩] := by cbv
  have read : (Expression.read
      [⟨.name "sent", 0⟩, ⟨.symbol .less, 4⟩, ⟨.name "due", 5⟩]).complete =
        .ok comparedMoments.body := by cbv
  simp only [CompiledExpression.compile, Expression.parse, shown, tokenized, read]
  rfl

def punctuality : DecisionDefinition := answering "punctuality" "sent<due"

def punctualityTable : CompiledTable := answeringTable "punctuality" comparedMoments

theorem punctuality_compile : punctuality.compile ⟨"UNIQUE", false⟩ = .ok punctualityTable :=
  answering_compile "punctuality" comparedMoments_compile

/-- Noon of a day, without a zone or in one. -/
def noon (zone : Option Zone) : Moment :=
  { Moment.first with date := ⟨2024, 5, 1, by decide⟩, hour := ⟨12, by decide⟩, zone }

/-- Variables bound to noon without a zone and to noon in universal time. -/
def sentAndDue : Context :=
  .ofBindings [("sent", .moment (noon none)), ("due", .moment (noon (some (.fixed 0))))]

/-- A moment without a zone and one with a zone have no order, which no error tells. -/
theorem punctuality_not_settles : punctuality.compile ⟨"UNIQUE", false⟩ = .ok punctualityTable ∧
    ¬punctualityTable.Settles (punctualityTable.evaluate sentAndDue) := by
  refine ⟨punctuality_compile, fun settled => ?_⟩
  refine (evaluate_settles_iff punctuality_compile _).mp settled
    (.comparison (.relation .less) (.moment (noon none)) (.moment (noon (some (.fixed 0))))) ?_ ?_
  · exact .output rfl (reaches_singleton.mpr rfl) (.cell (.evaluation (.compare rfl rfl)))
  · exact fun alike => nomatch alike

end CompiledTable

end DecisionTables
