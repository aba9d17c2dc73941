import DecisionTables.Proofs.Table.Reflection
import DecisionTables.Proofs.Table.Unvisited

/-!
# The first failure

An evaluation that does not break down ends with an expression error exactly if its scan meets a cell
that fails, and the error tells the decision, the rule, the column and the text of that cell and shows
the variables of the context. Cells that the scan does not come to have no part in the outcome: tables
that differ in such cells alone are evaluated alike.
-/

namespace DecisionTables

/-! ## What an error tells -/

namespace Visit

/-- The text in which the failure of a cell is told. -/
def message (visit : Visit) (decisionId : String) (reason : Failure)
    (shown : List (String × String)) : String :=
  let rule :=
    match visit.ruleId with
    | some ruleId => ["rule '" ++ ruleId ++ "'"]
    | none => []
  let place := ["decision '" ++ decisionId ++ "'"] ++ rule ++ ["column '" ++ visit.columnId ++ "'"]
  "Unable to evaluate expression '" ++ visit.text ++ "' in " ++ Text.joinWith ", " place ++ ": " ++
    reason.message ++ ". Context: " ++
    Value.braced (shown.map fun (name, value) => Text.quoted name ++ ": " ++ Text.quoted value)

/-- Whether an error tells the failure of a cell, its place and the variables of a context. -/
structure ToldBy (visit : Visit) (decisionId : String) (bindings : Bindings)
    (error : ExpressionError) : Prop where
  reason : visit.outcome = .error (.failure error.reason)
  context : bindings.snapshot = .ok error.context
  decision : error.decisionId = some decisionId
  rule : error.ruleId = visit.ruleId
  column : error.columnId = some visit.columnId
  expression : error.expression = visit.text
  message : error.message = visit.message decisionId error.reason error.context

variable {visit : Visit} {decisionId : String} {context : Context}

theorem message_eq (visit : Visit) (decisionId : String) (reason : Failure)
    (shown : List (String × String)) :
    ExpressionError.message ⟨reason, visit.text, shown, some decisionId, visit.ruleId,
      some visit.columnId⟩ = visit.message decisionId reason shown := by
  have decision : "decision" ++ " '" = "decision '" := by decide
  have rule : "rule" ++ " '" = "rule '" := by decide
  have column : "column" ++ " '" = "column '" := by decide
  have opening : "'" ++ " in " = "' in " := by decide
  rcases visit with ⟨place, ruleId, columnId, text, outcome⟩
  unfold ExpressionError.message ExpressionError.place message
  dsimp only
  rw [decision, column, rule, ← opening, if_neg]
  · cases ruleId <;> simp only [String.append_assoc]
  · exact Bool.false_ne_true

theorem toldBy_of_report {error : ExpressionError}
    (reported : visit.report decisionId context = .error (.expression error)) :
    visit.ToldBy decisionId context.bindings error := by
  unfold report at reported
  split at reported
  · cases reported
  · rename_i reason failed
    unfold CellError.ofFailure at reported
    split at reported
    · rename_i shown snapshot
      cases reported
      exact ⟨failed, snapshot, rfl, rfl, rfl, rfl, visit.message_eq decisionId reason shown⟩
    · cases reported
  · cases reported

/-- A cell that fails is told by an error, or the evaluation breaks down over the variables. -/
theorem report_of_failure {reason : Failure} (failed : visit.outcome = .error (.failure reason)) :
    (∃ error, visit.report decisionId context = .error (.expression error)) ∨
      Breaks (visit.report decisionId context) := by
  rw [report, failed]
  simp only [CellError.ofFailure]
  cases context.bindings.snapshot with
  | ok shown => exact .inl ⟨_, rfl⟩
  | error fault => exact .inr ⟨fault, rfl⟩

end Visit

namespace CompiledTable

variable {table : CompiledTable} {context : Context}

/-- An expression error is the report of a cell of the scan. -/
theorem report_of_evaluate (named : table.Named) (regular : table.Regular) {error : ExpressionError}
    (failed : table.evaluate context = .error (.expression error)) :
    ∃ visit ∈ table.scan context,
      visit.report table.decisionId context = .error (.expression error) := by
  rw [evaluate_eq_halt named regular, Except.bind_eq_error_iff] at failed
  rcases failed with halted | ⟨_, _, concluded⟩
  · exact exists_report_of_halt halted
  · exact absurd (Except.map_eq_error_iff.mp concluded) conclude_ne_expression

theorem evaluate_of_report (named : table.Named) (regular : table.Regular) {visit : Visit}
    (among : visit ∈ table.scan context) {error : EvaluationError}
    (reported : visit.report table.decisionId context = .error error) :
    table.evaluate context = .error error := by
  have stops : visit.stops = true := by
    rw [← Bool.not_eq_false, visit.goes_iff table.decisionId context, reported]
    rintro ⟨_, ⟨⟩⟩
  obtain ⟨before, split, goes⟩ := upThrough_split among stops
  have halted : halt table.decisionId context (table.visits context) = .error error := by
    rw [← halt_upThrough, split, halt_append, halt_eq_ok_iff.mpr goes, Except.ok_bind, halt_singleton,
      reported, Except.error_bind]
  rw [evaluate_eq_halt named regular, halted, Except.error_bind]

/-! ## Evaluation by its scan -/

/-- The columns and the rules of a compiled table have names, and so has all of it if the decision
has. -/
theorem named_of_compile {options : CompilerOptions} {definition : DecisionDefinition}
    {table : CompiledTable} (compiled : definition.compile options = .ok table)
    (named : table.decisionId ≠ "") : table.Named := by
  obtain ⟨_, makes⟩ := DecisionDefinition.makes_of_compile compiled
  refine ⟨named, makes.wellShaped.input_id, ?_, makes.wellShaped.output_id⟩
  intro rule among
  obtain ⟨index, declared, _, made⟩ := forAllFrom_mem makes.given among
  rw [identified_iff.mp (Compile.rule_eq_ok_iff.mp made).id]
  exact Compile.idOr_ne_empty declared.id "rule" index (by decide)

/-- What the scan of a table says of its evaluation. -/
structure FollowsScan (table : CompiledTable) (context : Context) : Prop where
  /-- There is an expression error exactly if the scan meets a cell that fails. -/
  fails_iff : ¬Breaks (table.evaluate context) →
    ((∃ error, table.evaluate context = .error (.expression error)) ↔
      ∃ visit ∈ table.scan context, ∃ reason, visit.outcome = .error (.failure reason))
  /-- The error tells the last cell of the scan, before which all have values. -/
  tells : ∀ error, table.evaluate context = .error (.expression error) →
    ∃ before visit, table.scan context = before ++ [visit] ∧
      (∀ earlier ∈ before, ∃ value, earlier.outcome = .ok value) ∧
      visit.ToldBy table.decisionId context.bindings error
  /-- Other cells than those of the scan may be replaced by any others. -/
  ignores : ∀ other, SameFrame table other →
    (∀ visit ∈ table.scan context, other.cellAt? visit.place = table.cellAt? visit.place) →
      other.evaluate context = table.evaluate context

/-- The evaluation of a compiled table follows its scan. -/
theorem followsScan_of_compile {options : CompilerOptions} {definition : DecisionDefinition}
    {table : CompiledTable} (compiled : definition.compile options = .ok table)
    (decision : table.decisionId ≠ "") (context : Context) : FollowsScan table context := by
  have regular := DecisionDefinition.compile_regular compiled
  have named := named_of_compile compiled decision
  constructor
  · intro unbroken
    constructor
    · intro failing
      obtain ⟨error, failed⟩ := failing
      obtain ⟨visit, among, reported⟩ := report_of_evaluate named regular failed
      exact ⟨visit, among, _, (Visit.toldBy_of_report reported).reason⟩
    · intro failing
      obtain ⟨visit, among, reason, failed⟩ := failing
      rcases Visit.report_of_failure failed with ⟨error, reported⟩ | ⟨fault, reported⟩
      · exact ⟨error, evaluate_of_report named regular among reported⟩
      · exact absurd ⟨fault, evaluate_of_report named regular among reported⟩ unbroken
  · intro error failed
    obtain ⟨visit, among, reported⟩ := report_of_evaluate named regular failed
    have told := Visit.toldBy_of_report reported
    have stops : visit.stops = true := by simp [Visit.stops, told.reason]
    obtain ⟨before, split, goes⟩ := upThrough_split among stops
    refine ⟨before, visit, split, ?_, told⟩
    intro earlier inFront
    have goesOn := goes earlier inFront
    unfold Visit.stops at goesOn
    split at goesOn
    · exact ⟨_, by assumption⟩
    · cases goesOn
  · intro other frame kept
    exact evaluate_congr frame named regular kept

/-- A table with a cell that is not visited and could not be evaluated, and one that fails. -/
def ratio : DecisionDefinition :=
  ⟨"ratio", none, .decisionTable,
    some (.decisionTable ⟨none, some "FIRST", none, [⟨none, none, "n", none⟩],
      [⟨none, none, none, none, []⟩],
      [⟨none, none, ["3"], ["m"]⟩, ⟨none, none, ["-"], ["1/n"]⟩]⟩), []⟩

def ratioTable : CompiledTable where
  decisionId := "ratio"
  decisionName := none
  hitPolicy := .first
  aggregation := none
  inputs := [⟨"input0", none, ⟨"n", .name ⟨"n", []⟩⟩, none⟩]
  outputs := [⟨"output0", "ratio", none, none, []⟩]
  rules := [
    ⟨"rule0", 0, none, [some ⟨"3", .oneOf [.value (.literal (.integer 3)) false]⟩],
      [⟨"m", .name ⟨"m", []⟩⟩]⟩,
    ⟨"rule1", 1, none, [none],
      [⟨"1/n", .arithmetic .div (.literal (.integer 1)) (.name ⟨"n", []⟩)⟩]⟩]
  strict := false

theorem ratio_compile : ratio.compile ⟨"UNIQUE", false⟩ = .ok ratioTable := by
  have recognised : HitPolicy.parse (some "FIRST") none "UNIQUE" = .ok (.first, none) :=
    HitPolicy.parse_plain "FIRST" (by decide +kernel) rfl rfl
  refine DecisionDefinition.compile_eq_ok rfl rfl ?_ ?_ rfl (fun uses => nomatch uses) ?_
  · exact Compile.hitPolicy_eq_ok recognised fun aggregated => nomatch aggregated
  · cbv
  · cbv

theorem ratio_followsScan : ratio.compile ⟨"UNIQUE", false⟩ = .ok ratioTable ∧
    ratioTable.decisionId ≠ "" ∧
    (ratioTable.scan (.ofBindings [("n", .boolean true)])).map Visit.place =
      [.input 0, .condition 0 0, .condition 1 0, .output 1 0] ∧
    ratioTable.evaluate (.ofBindings [("n", .boolean true)]) = .error (.expression
      ⟨.notApplicable .div "int" "bool", "1/n", [("n", "True")], some "ratio", some "rule1",
        some "output0"⟩) ∧
    FollowsScan ratioTable (.ofBindings [("n", .boolean true)]) := by
  have named : ratioTable.decisionId ≠ "" := by decide
  exact ⟨ratio_compile, named, rfl, rfl, followsScan_of_compile ratio_compile named _⟩

end CompiledTable

end DecisionTables
