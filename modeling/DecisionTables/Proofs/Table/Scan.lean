import DecisionTables.Proofs.Table.Cells
import DecisionTables.Proofs.UpThrough

/-!
# The scan of a table

A scan visits the cells of a table one by one: the input expressions from left to right, the
conditions of each rule up to the first that does not pass, and the outputs of the rules that the hit
policy asks for. It ends at the first cell without a value. An evaluation ends with what that cell has
to report, and otherwise with what the hit policy concludes from the values that were visited. Where
the failure of a cell arises makes no difference to the report: an expression is given its place on
the way up to the table, a conversion to the type of the column where it is refused.
-/

namespace DecisionTables

/-- Where a cell stands in its table, counted from zero. -/
inductive Place where
  | input (column : Nat)
  | condition (row column : Nat)
  | output (row column : Nat)

/-- A cell that a scan comes to, with what it has for a value there. -/
structure Visit where
  place : Place
  ruleId : Option String
  columnId : String
  text : String
  outcome : Evaluated Value

namespace Visit

/-- Whether the scan stops at the cell, since it has no value. -/
def stops (visit : Visit) : Bool :=
  match visit.outcome with
  | .ok _ => false
  | .error _ => true

/-- The value of the cell, or null if it has none. -/
def value (visit : Visit) : Value :=
  match visit.outcome with
  | .ok value => value
  | .error _ => .null

/-- Whether the cell is a condition that passes. -/
def passes (visit : Visit) : Bool :=
  match visit.outcome with
  | .ok value => value.isTrue
  | .error _ => false

/-- What becomes of an evaluation at the cell. -/
def report (decisionId : String) (context : Context) (visit : Visit) : Outcome Value :=
  match visit.outcome with
  | .ok value => .ok value
  | .error (.failure reason) =>
      .error (.ofCell (.ofFailure reason visit.text context (some decisionId) visit.ruleId
        (some visit.columnId)))
  | .error (.fault fault) => .error (.fault fault)

/-- A condition without a value does not pass. -/
theorem stops_not_passes (visit : Visit) (stops : visit.stops = true) :
    (!visit.passes) = true := by
  rcases visit with ⟨place, ruleId, columnId, text, interruption | value⟩
  · rfl
  · cases stops

end Visit

namespace CompiledTable

/-! ## The cells in the order of the scan -/

section Scan

variable (table : CompiledTable) (context : Context)

/-- The value of an expression brought to the type of its column. -/
def typedValue (expression : CompiledExpression) (typeRef : Option String) : Evaluated Value :=
  expression.body.evaluate ⟨context, .null⟩ >>= fun value =>
    match value.coerce table.strict typeRef with
    | .ok converted => .ok converted
    | .error (.conversion error) => .error (.failure (.notConvertible error))
    | .error (.fault fault) => .error (.fault fault)

def visitInput (column : CompiledInput × Nat) : Visit where
  place := .input column.2
  ruleId := none
  columnId := column.1.id
  text := column.1.expression.text
  outcome := table.typedValue context column.1.expression column.1.typeRef

/-- The visit of the condition of a rule for a column with a subject. -/
def visitCondition (rule : CompiledRule × Nat)
    (cell : (CompiledInput × Option CompiledTests × Value) × Nat) : Visit where
  place := .condition rule.2 cell.2
  ruleId := some rule.1.id
  columnId := cell.1.1.id
  text := (cell.1.2.1.map CompiledTests.text).getD ""
  outcome :=
    match cell.1.2.1 with
    | none => .ok (.boolean true)
    | some tests => (tests.body.accepts ⟨context, cell.1.2.2⟩).map .boolean

def visitOutput (rule : CompiledRule × Nat)
    (cell : (CompiledOutput × CompiledExpression) × Nat) : Visit where
  place := .output rule.2 cell.2
  ruleId := some rule.1.id
  columnId := cell.1.1.id
  text := cell.1.2.text
  outcome := table.typedValue context cell.1.2 cell.1.1.typeRef

/-- The input columns from left to right. -/
def inputVisits : List Visit :=
  table.inputs.zipIdx.map (table.visitInput context)

def scannedSubjects : List Value :=
  (table.inputVisits context).map Visit.value

/-- The conditions of a rule from left to right, up to the first that does not pass. -/
def conditionVisits (rule : CompiledRule × Nat) : List Visit :=
  upThrough (fun visit => !visit.passes)
    ((table.inputs.zip (rule.1.conditions.zip (table.scannedSubjects context))).zipIdx.map
      (visitCondition context rule))

/-- The rules all of whose conditions pass, each with its row. -/
def matchedRows : List (CompiledRule × Nat) :=
  table.rules.zipIdx.filter fun rule => (table.conditionVisits context rule).all Visit.passes

/-- The rules whose outputs the hit policy asks for: the first, a single one, or all. -/
def askedRows (rows : List (CompiledRule × Nat)) : List (CompiledRule × Nat) :=
  match table.hitPolicy with
  | .first => rows.take 1
  | .unique => if rows.length ≤ 1 then rows else []
  | .any | .priority | .collect | .ruleOrder | .outputOrder => rows

def outputVisits (rule : CompiledRule × Nat) : List Visit :=
  (table.outputs.zip rule.1.outputs).zipIdx.map (table.visitOutput context rule)

/-- All cells that a scan would visit if every one had a value. -/
def visits : List Visit :=
  table.inputVisits context ++ table.rules.zipIdx.flatMap (table.conditionVisits context) ++
    (table.askedRows (table.matchedRows context)).flatMap (table.outputVisits context)

/-- The cells that a scan visits, the first without a value being the last. -/
def scan : List Visit :=
  upThrough Visit.stops (table.visits context)

/-- The entry of a rule by the values of the scan. -/
def scannedEntry (rule : CompiledRule × Nat) : OutputEntry where
  values := (table.outputs.zip rule.1.outputs).zipIdx.map fun cell =>
    ⟨cell.1.1.name, (table.visitOutput context rule cell).value, cell.1.1.typeRef⟩

end Scan

/-- The entry that is made of some visited outputs. -/
def entryOfVisits (table : CompiledTable) (visits : List Visit) : OutputEntry where
  values := (table.outputs.zip visits).map fun cell =>
    ⟨cell.1.name, cell.2.value, cell.1.typeRef⟩

theorem scannedEntry_eq (table : CompiledTable) (context : Context) (rule : CompiledRule × Nat) :
    table.scannedEntry context rule = table.entryOfVisits (table.outputVisits context rule) := by
  rw [scannedEntry, entryOfVisits, OutputEntry.mk.injEq]
  apply List.ext_getElem
  · simp [outputVisits]
  · intro position _ _
    simp [outputVisits]

end CompiledTable

/-! ## Visiting cells -/

/-- What becomes of an evaluation at some cells, which is decided by the first without a value. -/
def halt (decisionId : String) (context : Context) : List Visit → Outcome Unit
  | [] => .ok ()
  | visit :: rest => visit.report decisionId context >>= fun _ => halt decisionId context rest

section Halt

variable {decisionId : String} {context : Context} {visit : Visit} {visits : List Visit}

/-- What a cell reports other than an error is its value. -/
theorem Visit.report_map {α : Type} (visit : Visit) (image : Value → α) :
    (visit.report decisionId context).map image =
      visit.report decisionId context >>= fun _ => .ok (image visit.value) := by
  rcases visit with ⟨_, _, _, _, (reason | fault) | value⟩
  all_goals rfl

/-- The scan goes on past a cell exactly if what the cell reports is no error. -/
theorem Visit.goes_iff (decisionId : String) (context : Context) (visit : Visit) :
    visit.stops = false ↔ ∃ value, visit.report decisionId context = .ok value := by
  rcases visit with ⟨_, _, _, _, (reason | fault) | value⟩
  all_goals simp [Visit.stops, Visit.report]

theorem halt_cons (visit : Visit) (visits : List Visit) :
    halt decisionId context (visit :: visits) =
      visit.report decisionId context >>= fun _ => halt decisionId context visits := rfl

theorem halt_append (first second : List Visit) :
    halt decisionId context (first ++ second) =
      halt decisionId context first >>= fun _ => halt decisionId context second := by
  induction first with
  | nil => rfl
  | cons visit first ih =>
      rw [List.cons_append, halt_cons, halt_cons, ih, bind_assoc]

theorem halt_singleton (visit : Visit) :
    halt decisionId context [visit] = visit.report decisionId context >>= fun _ => .ok () := rfl

/-- Only the cells that a scan comes to decide what becomes of an evaluation at them. -/
theorem halt_upThrough (visits : List Visit) :
    halt decisionId context (upThrough Visit.stops visits) = halt decisionId context visits := by
  induction visits with
  | nil => rfl
  | cons visit rest ih =>
      rcases visit with ⟨place, ruleId, columnId, text, (reason | fault) | value⟩
      · rfl
      · rfl
      · rw [halt_cons, ← ih]
        rfl

/-- An evaluation goes on exactly if all cells have values. -/
theorem halt_eq_ok_iff : halt decisionId context visits = .ok () ↔
    ∀ visit ∈ visits, visit.stops = false := by
  induction visits with
  | nil => simp [halt]
  | cons visit rest ih =>
      rw [halt_cons, List.forall_mem_cons, ← ih, visit.goes_iff decisionId context,
        Except.bind_eq_ok_iff]
      exact exists_and_right

/-- An evaluation that does not go on ends with the report of a cell that the scan comes to. -/
theorem exists_report_of_halt {error : EvaluationError}
    (halted : halt decisionId context visits = .error error) :
    ∃ visit ∈ upThrough Visit.stops visits, visit.report decisionId context = .error error := by
  induction visits with
  | nil => cases halted
  | cons visit rest ih =>
      rw [halt_cons, Except.bind_eq_error_iff] at halted
      rw [upThrough]
      rcases halted with reported | ⟨value, reported, halted⟩
      · refine ⟨visit, ?_, reported⟩
        split <;> exact List.mem_cons_self
      · have goes : visit.stops = false :=
          (visit.goes_iff decisionId context).mpr ⟨value, reported⟩
        obtain ⟨later, among, failed⟩ := ih halted
        refine ⟨later, ?_, failed⟩
        simp [goes, among]

/-- An action on every item visits the cells of all items if it visits those of each. -/
theorem forAll_eq_halt {α β : Type} {items : List α} {start : Nat} {action : α → Outcome β}
    {block : α × Nat → List Visit} {result : α × Nat → β}
    (each : ∀ numbered ∈ items.zipIdx start, action numbered.1 =
      halt decisionId context (block numbered) >>= fun _ => .ok (result numbered)) :
    forAll action items = halt decisionId context ((items.zipIdx start).flatMap block) >>=
      fun _ => .ok ((items.zipIdx start).map result) := by
  induction items generalizing start with
  | nil => rfl
  | cons item rest ih =>
      rw [List.zipIdx_cons, List.forall_mem_cons] at each
      rw [forAll_cons, each.1, ih each.2, List.zipIdx_cons, List.flatMap_cons, halt_append]
      simp only [bind_assoc, Except.ok_bind, List.map_cons]

end Halt

namespace CompiledTable

variable {table : CompiledTable} {context : Context}

/-! ## Reports -/

/-- The place that a failure is given on its way up is that with which it would have been told. -/
theorem locate_ofFailure {reason : Failure} {text decisionId columnId : String}
    {ruleId : Option String} (decision : decisionId ≠ "") (column : columnId ≠ "")
    (rule : ruleId ≠ some "") :
    (CellError.ofFailure reason text context none none none).locate (some decisionId) ruleId
        (some columnId) =
      .ofFailure reason text context (some decisionId) ruleId (some columnId) := by
  have kept : ExpressionError.prefer ruleId none = ruleId := by
    cases ruleId with
    | none => rfl
    | some text => exact prefer_of_ne_empty fun empty => rule (congrArg some empty)
  unfold CellError.ofFailure
  cases context.bindings.snapshot with
  | error fault => rfl
  | ok snapshot =>
      simp only [CellError.locate, ExpressionError.locate, prefer_of_ne_empty decision,
        prefer_of_ne_empty column, kept]

/-- A cell under the type of its column reports the same wherever it fails. -/
theorem cellValue_eq_report (visit : Visit) {expression : CompiledExpression}
    {typeRef : Option String} (decision : table.decisionId ≠ "") (column : visit.columnId ≠ "")
    (rule : visit.ruleId ≠ some "") (text : visit.text = expression.text)
    (outcome : visit.outcome = table.typedValue context expression typeRef) :
    table.cellValue expression visit.ruleId visit.columnId typeRef context =
      visit.report table.decisionId context := by
  rw [Visit.report, outcome, text, cellValue, typedValue, CompiledExpression.evaluate]
  rcases expression.body.evaluate ⟨context, .null⟩ with (reason | fault) | value
  · simp only [Evaluated.ofCell, Outcome.ofCell, Except.error_bind,
      locate_ofFailure decision column rule]
  · rfl
  · simp only [Evaluated.ofCell, Outcome.ofCell, Except.ok_bind, coerce]
    rcases value.coerce table.strict typeRef with (error | fault) | converted
    all_goals rfl

/-- The outcome of one condition of a rule. -/
def conditionOutcome (table : CompiledTable) (ruleId columnId : String) (context : Context)
    (subject : Value) : Option CompiledTests → Outcome Bool
  | none => .ok true
  | some tests =>
      Outcome.ofCell table.decisionId (some ruleId) columnId (tests.accepts subject context)

theorem conditionsAccept_cons {ruleId : String} {column : CompiledInput}
    {columns : List CompiledInput} {condition : Option CompiledTests}
    {conditions : List (Option CompiledTests)} {subject : Value} {subjects : List Value} :
    table.conditionsAccept ruleId context (column :: columns) (condition :: conditions)
        (subject :: subjects) =
      table.conditionOutcome ruleId column.id context subject condition >>= fun accepted =>
        if accepted then table.conditionsAccept ruleId context columns conditions subjects
        else .ok false := by
  cases condition <;> rfl

/-- A condition reports the same as well. -/
theorem conditionOutcome_eq_report (context : Context) {rule : CompiledRule × Nat}
    (cell : (CompiledInput × Option CompiledTests × Value) × Nat)
    (decision : table.decisionId ≠ "") (column : cell.1.1.id ≠ "") (identified : rule.1.id ≠ "") :
    table.conditionOutcome rule.1.id cell.1.1.id context cell.1.2.2 cell.1.2.1 =
      (visitCondition context rule cell).report table.decisionId context >>=
        fun _ => .ok (visitCondition context rule cell).passes := by
  have named : some rule.1.id ≠ some "" := fun same => identified (Option.some.inj same)
  rcases cell with ⟨⟨input, _ | tests, subject⟩, index⟩
  · rfl
  simp only [conditionOutcome, visitCondition, Visit.report, Visit.passes, CompiledTests.accepts]
  rcases tests.body.accepts ⟨context, subject⟩ with (reason | fault) | passes
  · simp only [Evaluated.ofCell, Outcome.ofCell, Except.map_error, Except.error_bind,
      locate_ofFailure decision column named]
    rfl
  · rfl
  · cases passes <;> rfl

/-! ## Stages -/

/-- Whether the decision, the columns and the rules of a table all have names. -/
structure Named (table : CompiledTable) : Prop where
  decision : table.decisionId ≠ ""
  input : ∀ column ∈ table.inputs, column.id ≠ ""
  rule : ∀ rule ∈ table.rules, rule.id ≠ ""
  output : ∀ column ∈ table.outputs, column.id ≠ ""

/-- The rules that match are those that the scan finds. -/
theorem matchingRules_eq_halt {subjects : List Value} {rules : List CompiledRule} {start : Nat}
    {block : CompiledRule × Nat → List Visit} {answer : CompiledRule × Nat → Bool}
    (each : ∀ rule ∈ rules.zipIdx start, table.matchesRule context subjects rule.1 =
      halt table.decisionId context (block rule) >>= fun _ => .ok (answer rule)) :
    table.matchingRules context subjects rules =
      halt table.decisionId context ((rules.zipIdx start).flatMap block) >>=
        fun _ => .ok (((rules.zipIdx start).filter answer).map Prod.fst) := by
  induction rules generalizing start with
  | nil => rfl
  | cons rule rest ih =>
      rw [List.zipIdx_cons, List.forall_mem_cons] at each
      rw [matchingRules, each.1, ih each.2, List.zipIdx_cons, List.flatMap_cons, halt_append,
        List.filter_cons]
      simp only [bind_assoc, Except.ok_bind, Except.pure_eq_ok]
      cases answer (rule, start) <;> rfl

/-- The policy asks for the same rules of the scan as of the rules that match. -/
theorem askedRows_eq_contributing (rows : List (CompiledRule × Nat)) :
    (table.askedRows rows).map Prod.fst = table.contributing (rows.map Prod.fst) := by
  cases rows with
  | nil => cases policy : table.hitPolicy <;> simp [askedRows, contributing, policy]
  | cons first others =>
      cases policy : table.hitPolicy with
      | first => simp [askedRows, contributing, policy]
      | unique => cases others <;> simp [askedRows, contributing, policy]
      | any | priority | collect | ruleOrder | outputOrder =>
          simp [askedRows, contributing, policy]

theorem mem_of_mem_askedRows {rows : List (CompiledRule × Nat)} {rule : CompiledRule × Nat}
    (among : rule ∈ table.askedRows rows) : rule ∈ rows := by
  unfold askedRows at among
  split at among
  · exact List.mem_of_mem_take among
  · split at among
    · exact among
    · cases among
  all_goals exact among

section Stages

variable (named : table.Named)

include named

theorem subjects_eq_halt :
    table.subjects context = halt table.decisionId context (table.inputVisits context) >>=
      fun _ => .ok (table.scannedSubjects context) := by
  have each : ∀ column ∈ table.inputs.zipIdx, table.subject context column.1 =
      halt table.decisionId context [table.visitInput context column] >>=
        fun _ => .ok (table.visitInput context column).value := by
    intro column among
    have identified := named.input column.1 (List.fst_mem_of_mem_zipIdx among)
    have reported : table.subject context column.1 =
        (table.visitInput context column).report table.decisionId context :=
      cellValue_eq_report (table.visitInput context column) named.decision identified nofun rfl rfl
    rw [reported, halt_singleton, bind_assoc]
    refine Eq.trans ?_ ((table.visitInput context column).report_map id)
    cases (table.visitInput context column).report table.decisionId context <;> rfl
  rw [subjects, forAll_eq_halt each, inputVisits, scannedSubjects, inputVisits, List.map_map,
    ← List.map_eq_flatMap]
  rfl

theorem conditionsAccept_eq_halt {rule : CompiledRule × Nat} {columns : List CompiledInput}
    {conditions : List (Option CompiledTests)} {subjects : List Value} (start : Nat)
    (identified : rule.1.id ≠ "") (columnsNamed : ∀ column ∈ columns, column.id ≠ "") :
    table.conditionsAccept rule.1.id context columns conditions subjects =
      halt table.decisionId context (upThrough (fun visit => !visit.passes)
        (((columns.zip (conditions.zip subjects)).zipIdx start).map
          (visitCondition context rule))) >>= fun _ =>
      .ok ((upThrough (fun visit => !visit.passes)
        (((columns.zip (conditions.zip subjects)).zipIdx start).map
          (visitCondition context rule))).all Visit.passes) := by
  induction columns generalizing conditions subjects start with
  | nil => rfl
  | cons column columns ih =>
      rcases conditions with _ | ⟨condition, conditions⟩
      · rfl
      rcases subjects with _ | ⟨subject, subjects⟩
      · rfl
      obtain ⟨columnNamed, othersNamed⟩ := List.forall_mem_cons.mp columnsNamed
      have step := conditionOutcome_eq_report context ((column, condition, subject), start)
        named.decision columnNamed identified
      rw [List.zip_cons_cons, List.zip_cons_cons, List.zipIdx_cons, List.map_cons, upThrough,
        conditionsAccept_cons, step, ih (start + 1) othersNamed]
      cases passes : (visitCondition context rule ((column, condition, subject), start)).passes with
      | true => simp [halt_cons, bind_assoc, passes]
      | false => simp [halt_cons, halt, bind_assoc, passes]

theorem matchesRule_eq_halt {rule : CompiledRule × Nat} (among : rule ∈ table.rules.zipIdx) :
    table.matchesRule context (table.scannedSubjects context) rule.1 =
      halt table.decisionId context (table.conditionVisits context rule) >>=
        fun _ => .ok ((table.conditionVisits context rule).all Visit.passes) :=
  conditionsAccept_eq_halt named 0 (named.rule rule.1 (List.fst_mem_of_mem_zipIdx among))
    named.input

theorem matching_eq_halt :
    table.matching context = halt table.decisionId context (table.inputVisits context ++
        table.rules.zipIdx.flatMap (table.conditionVisits context)) >>=
      fun _ => .ok ((table.matchedRows context).map Prod.fst) := by
  have each : ∀ rule ∈ table.rules.zipIdx,
      table.matchesRule context (table.scannedSubjects context) rule.1 =
        halt table.decisionId context (table.conditionVisits context rule) >>=
          fun _ => .ok ((table.conditionVisits context rule).all Visit.passes) :=
    fun rule among => matchesRule_eq_halt named among
  rw [matching, subjects_eq_halt named, bind_assoc, halt_append]
  simp only [Except.ok_bind, matchingRules_eq_halt each, bind_assoc]
  rfl

theorem entryOf_eq_halt {rule : CompiledRule × Nat} (among : rule ∈ table.rules.zipIdx) :
    table.entryOf context rule.1 =
      halt table.decisionId context (table.outputVisits context rule) >>=
        fun _ => .ok (table.scannedEntry context rule) := by
  have identified := named.rule rule.1 (List.fst_mem_of_mem_zipIdx among)
  have each : ∀ cell ∈ (table.outputs.zip rule.1.outputs).zipIdx,
      table.outputOf rule.1.id context cell.1 =
        halt table.decisionId context [table.visitOutput context rule cell] >>= fun _ =>
          .ok ⟨cell.1.1.name, (table.visitOutput context rule cell).value, cell.1.1.typeRef⟩ := by
    intro cell among
    have column := (List.of_mem_zip (List.fst_mem_of_mem_zipIdx among)).1
    have reported : table.cellValue cell.1.2 (some rule.1.id) cell.1.1.id cell.1.1.typeRef context =
        (table.visitOutput context rule cell).report table.decisionId context :=
      cellValue_eq_report (table.visitOutput context rule cell) named.decision
        (named.output cell.1.1 column) (fun same => identified (Option.some.inj same)) rfl rfl
    rw [outputOf, reported, halt_singleton, bind_assoc]
    exact (table.visitOutput context rule cell).report_map _
  rw [entryOf, outputValues_eq, forAll_eq_halt each, ← List.map_eq_flatMap, outputVisits]
  cases halt table.decisionId context
    ((table.outputs.zip rule.1.outputs).zipIdx.map (table.visitOutput context rule)) <;> rfl

theorem entriesOf_eq_halt {rows : List (CompiledRule × Nat)}
    (among : ∀ rule ∈ rows, rule ∈ table.rules.zipIdx) :
    table.entriesOf context (rows.map Prod.fst) =
      halt table.decisionId context (rows.flatMap (table.outputVisits context)) >>=
        fun _ => .ok (rows.map (table.scannedEntry context)) := by
  induction rows with
  | nil => rfl
  | cons rule rows ih =>
      obtain ⟨first, others⟩ := List.forall_mem_cons.mp among
      have later := ih others
      rw [entriesOf] at later ⊢
      rw [List.map_cons, forAll_cons, entryOf_eq_halt named first, later, List.flatMap_cons,
        halt_append]
      simp only [bind_assoc, Except.ok_bind, List.map_cons]

/-- An evaluation ends with what the first cell without a value reports. If all cells of the scan have
values, the hit policy concludes from them. -/
theorem evaluate_eq_halt (regular : table.Regular) :
    table.evaluate context = halt table.decisionId context (table.visits context) >>= fun _ =>
      (table.conclude ((table.matchedRows context).map Prod.fst)
        ((table.askedRows (table.matchedRows context)).map (table.scannedEntry context))).map
          ResultSet.mk := by
  have among : ∀ rule ∈ table.askedRows (table.matchedRows context), rule ∈ table.rules.zipIdx :=
    fun rule asked => List.mem_of_mem_filter (mem_of_mem_askedRows asked)
  rw [evaluate_eq, matching_eq_halt named, visits, halt_append (table.inputVisits context ++ _),
    bind_assoc, bind_assoc, Except.ok_bind, applyHitPolicy_eq regular, ← askedRows_eq_contributing,
    entriesOf_eq_halt named among, bind_assoc]
  congr 1
  funext _
  cases halt table.decisionId context
    ((table.askedRows (table.matchedRows context)).flatMap (table.outputVisits context)) <;> rfl

end Stages

end CompiledTable

end DecisionTables
