import DecisionTables.CommandLine.Run
import DecisionTables.Proofs.Engine.Batches
import DecisionTables.Proofs.Table.Shape

/-!
# Validation

The command that validates a file compiles all its decisions and goes on after those that fail. An
engine looks a decision up, perhaps gives one that it keeps, and stops a batch at the first failure.
Both accept the same decisions: the command succeeds exactly if the engine prepares the whole batch,
and it marks exactly the decisions that the engine does not prepare, whatever files and bytes the
engine was asked for before.
-/

namespace DecisionTables.CommandLine

namespace Report

theorem after_output (output errors : String) (report : Report) :
    (report.after output errors).output = output ++ report.output := rfl

theorem after_errors (output errors : String) (report : Report) :
    (report.after output errors).errors = errors ++ report.errors := rfl

theorem code_after (output errors : String) (report : Report) :
    (report.after output errors).code = report.code := rfl

end Report

/-! ## What is written about decisions -/

/-- What is written to the output about a decision with some outcome of preparing it. -/
def passedLine (id : String) : Except PreparationError CompiledTable → String
  | .ok table => compiledLine table id
  | .error _ => ""

/-- What is written about errors of a decision with some outcome of preparing it. -/
def failedLine (id : String) : Except PreparationError CompiledTable → String
  | .ok _ => ""
  | .error error => "✗ " ++ id ++ ": " ++ error.message ++ "\n"

/-- The line that tells how many decisions of a model have failed, if any has. -/
def summary (failures total : Nat) : String :=
  if failures = 0 then ""
  else toString failures ++ " of " ++ toString total ++ " decision(s) invalid\n"

def failed (outcome : String → Except PreparationError CompiledTable) (ids : List String) :
    List String :=
  ids.filter fun id => !(outcome id).isOk

/-- Whether a report marks the decisions of some ids as passed or failed by the outcomes of
preparing them, each with its table or its error, and counts those that failed. -/
structure Report.Marks (report : Report) (outcome : String → Except PreparationError CompiledTable)
    (ids : List String) : Prop where
  output : report.output = String.join (ids.map fun id => passedLine id (outcome id))
  errors : report.errors =
    String.join ((failed outcome ids).map fun id => failedLine id (outcome id)) ++
      summary (failed outcome ids).length ids.length

section Failed

variable {outcome : String → Except PreparationError CompiledTable} {id : String}
  {ids : List String}

theorem failed_cons_of_ok {table : CompiledTable} (passes : outcome id = .ok table) :
    failed outcome (id :: ids) = failed outcome ids :=
  List.filter_cons_of_neg (by simp [passes, Except.isOk, Except.toBool])

theorem failed_cons_of_error {error : PreparationError} (fails : outcome id = .error error) :
    failed outcome (id :: ids) = id :: failed outcome ids :=
  List.filter_cons_of_pos (by simp [fails, Except.isOk, Except.toBool])

end Failed

section ValidateAll

variable {options : CompilerOptions} {total failures : Nat} {definition : DecisionDefinition}
  {definitions rest : List DecisionDefinition}

theorem validateAll_nil :
    validateAll options total failures [] =
      ⟨"", summary failures total, .status (if failures = 0 then 0 else 1)⟩ := by
  cases failures with
  | zero => rfl
  | succ failures => simp [validateAll, summary]

theorem validateAll_of_ok {table : CompiledTable}
    (compiled : definition.compile options = .ok table) :
    validateAll options total failures (definition :: rest) =
      (validateAll options total failures rest).after (compiledLine table definition.id) "" := by
  cases failures <;> simp only [validateAll, compiled]

theorem validateAll_of_fault {fault : Fault}
    (broken : definition.compile options = .error (.fault fault)) :
    validateAll options total failures (definition :: rest) = .broken fault := by
  cases failures <;> simp only [validateAll, broken]

theorem validateAll_of_error {error : CompileError}
    (rejected : definition.compile options = .error error)
    (unbroken : ∀ fault, error ≠ .fault fault) :
    validateAll options total failures (definition :: rest) =
      (validateAll options total (failures + 1) rest).after ""
        (failedLine definition.id (.error (.compilation error))) := by
  cases error with
  | fault fault => exact absurd rfl (unbroken fault)
  | unsupported | problem => cases failures <;> simp only [validateAll, rejected] <;> rfl

/-- The run on decisions succeeds exactly if all of them compile. -/
theorem validateAll_code :
    (validateAll options total failures definitions).code = 0 ↔
      failures = 0 ∧
        ∀ definition ∈ definitions, ∃ table, definition.compile options = .ok table := by
  induction definitions generalizing failures with
  | nil => simp [validateAll_nil, Report.code]
  | cons definition rest ih =>
      rw [List.forall_mem_cons]
      rcases compiled : definition.compile options with error | table
      · by_cases broken : ∃ fault, error = .fault fault
        · obtain ⟨fault, rfl⟩ := broken
          rw [validateAll_of_fault compiled]
          simp [Report.broken, Report.code]
        · rw [validateAll_of_error compiled (not_exists.mp broken), Report.code_after, ih]
          simp
      · rw [validateAll_of_ok compiled, Report.code_after, ih]
        simp

/-- Unless a fault ends it, the run on decisions marks each by the outcome of compiling it. -/
theorem validateAll_marks {outcome : String → Except PreparationError CompiledTable}
    (agrees : ∀ definition ∈ definitions, outcome definition.id = Afresh.compile options definition)
    (unbroken : ∀ fault, (validateAll options total failures definitions).ending ≠ .fault fault) :
    (validateAll options total failures definitions).output =
        String.join ((definitions.map DecisionDefinition.id).map fun id =>
          passedLine id (outcome id)) ∧
      (validateAll options total failures definitions).errors =
        String.join ((failed outcome (definitions.map DecisionDefinition.id)).map fun id =>
          failedLine id (outcome id)) ++
          summary (failures + (failed outcome (definitions.map DecisionDefinition.id)).length)
            total := by
  induction definitions generalizing failures with
  | nil =>
      rw [validateAll_nil]
      simp [failed]
  | cons definition rest ih =>
      obtain ⟨first, agrees⟩ := List.forall_mem_cons.mp agrees
      rw [List.map_cons, List.map_cons, String.join_cons]
      rcases compiled : definition.compile options with error | table
      · rw [Afresh.compile_error compiled] at first
        have rejected : ∀ fault, error ≠ .fault fault := by
          rintro fault rfl
          exact unbroken fault (by rw [validateAll_of_fault compiled]; rfl)
        rw [validateAll_of_error compiled rejected] at unbroken ⊢
        obtain ⟨output, errors⟩ := ih agrees unbroken
        rw [failed_cons_of_error first, List.map_cons, String.join_cons, List.length_cons, first]
        refine ⟨by rw [Report.after_output, output]; rfl, ?_⟩
        rw [Report.after_errors, errors, String.append_assoc, Nat.add_assoc, Nat.add_comm 1]
      · rw [Afresh.compile_ok compiled] at first
        rw [validateAll_of_ok compiled] at unbroken ⊢
        obtain ⟨output, errors⟩ := ih agrees unbroken
        rw [failed_cons_of_ok first, first]
        refine ⟨by rw [Report.after_output, output]; rfl, ?_⟩
        rw [Report.after_errors, errors, String.empty_append]

end ValidateAll

/-! ## The run on a source -/

/-- What an engine makes of the decision of an id. -/
def outcomeOf (engine : Engine) (source : ModelSource) (id : String) :
    Except PreparationError CompiledTable :=
  (engine.decision source (some id)).1.map Decision.table

/-- Whether the report of a run that validates a source agrees with what an engine makes of it. -/
structure Report.AgreesWith (report : Report) (engine : Engine) (source : ModelSource) : Prop where
  /-- The run succeeds exactly if the source is a model with decisions and the engine prepares all
  of them. -/
  code_iff : report.code = 0 ↔ ∃ model decisions, Model.ofSource source = .ok model ∧
    model.decisions ≠ [] ∧ (engine.decisions source).1 = .ok decisions
  /-- Unless a fault ends the run, it marks exactly the decisions that the engine does not prepare
  as failed. -/
  marks : ∀ model, Model.ofSource source = .ok model → model.decisions ≠ [] →
    (∀ fault, report.ending ≠ .fault fault) →
    report.Marks (outcomeOf engine source) model.decisionIds

/-- The report on the decisions of a source. -/
def reportOn (settings : Settings) (source : ModelSource) : Report :=
  match Model.ofSource source with
  | .error error => errorReport (.preparation (.model error))
  | .ok model =>
      if model.decisions.isEmpty then
        .failure (SelectionError.message (.notFound model.label none))
      else validateAll settings.compilerOptions model.decisions.length 0 model.decisions

section ReportOn

variable {settings : Settings} {source : ModelSource} {model : Model}

theorem code_errorReport (error : RunError) : (errorReport error).code = 1 := by
  unfold errorReport
  cases error.fault? <;> rfl

theorem reportOn_of_nonempty (read : Model.ofSource source = .ok model)
    (declares : model.decisions ≠ []) :
    reportOn settings source =
      validateAll settings.compilerOptions model.decisions.length 0 model.decisions := by
  simp [reportOn, read, declares]

theorem code_reportOn :
    (reportOn settings source).code = 0 ↔ ∃ model tables, Model.ofSource source = .ok model ∧
      model.decisions ≠ [] ∧ Afresh.decisions settings.compilerOptions source = .ok tables := by
  cases read : Model.ofSource source with
  | error error => simp [reportOn, read, code_errorReport]
  | ok model =>
      by_cases none : model.decisions = []
      · simp [reportOn, read, none, Report.failure, Report.code]
      · rw [reportOn_of_nonempty read none, validateAll_code, ← Afresh.exists_compileAll_iff]
        simp [Afresh.decisions, read, none]

/-- The report on a source agrees with every engine that compiles its decisions as if afresh. -/
theorem reportOn_agreesWith {kind : Engine → Prop} {served : Model → Prop}
    (afresh : CompilesAfresh settings.compilerOptions kind served) {engine : Engine}
    (good : kind engine) (serves : ∀ model, Model.ofSource source = .ok model → served model)
    (distinct : ∀ model, Model.ofSource source = .ok model → model.decisionIds.Nodup) :
    (reportOn settings source).AgreesWith engine source := by
  constructor
  case code_iff =>
    obtain ⟨same, -⟩ := afresh.decisions good serves
    rw [code_reportOn, ← same]
    simp [Except.map_eq_ok_iff]
  case marks =>
    intro model read declares unbroken
    rw [reportOn_of_nonempty read declares] at unbroken ⊢
    have agrees : ∀ definition ∈ model.decisions, outcomeOf engine source definition.id =
        Afresh.compile settings.compilerOptions definition := by
      intro definition member
      have prepared : outcomeOf engine source definition.id =
          Afresh.decision settings.compilerOptions source (some definition.id) :=
        (afresh.decision good serves).1
      rw [prepared]
      simp only [Afresh.decision, read, Model.select_of_distinct (distinct model read) member]
    obtain ⟨output, errors⟩ := validateAll_marks agrees unbroken
    refine ⟨output, errors.trans ?_⟩
    simp [Model.decisionIds]

end ReportOn

/-! ## The command -/

/-- Whether the words after `validate` name a file, which is shown by a path and has a content. -/
def Names (files : Files) (words : List String) (path : String) (content : Bytes) : Prop :=
  (do
    let arguments ← readArguments files validateShape words
    modelArgument files validateShape arguments.words) = .ok (path, content)

/-- A file is named by its path, which may not be taken for an option behind two dashes. -/
theorem names_of_file {files : Files} {path : String} {content : Bytes}
    (found : files path = some (.file content)) :
    Names files ["--", path] (Path.normal path) content := by
  simp [Names, readArguments, Arguments.read, Arguments.gives, Arguments.purposes, checkOptions,
    modelArgument, fileAt, found, noArguments]

theorem validate_eq_reportOn {files : Files} {words : List String} {path : String}
    {content : Bytes} (names : Names files words path content) (settings : Settings) :
    Step.report (validate files settings words) =
      reportOn settings (.file path (some content)) := by
  obtain ⟨arguments, given, named⟩ := Except.bind_eq_ok_iff.mp names
  simp only [validate, readModel, given, named, Except.ok_bind, reportOn]
  cases Model.ofSource (.file path (some content)) with
  | error error => rfl
  | ok model =>
      simp only [Except.pure_eq_ok, Except.ok_bind]
      split <;> rfl

/-- The command that validates a file agrees with every engine of the same settings, whatever the
engine was asked for before about files and bytes, as long as their checksums do not collide. -/
theorem validate_agreesWith (settings : Settings) {files : Files} {words : List String}
    {path : String} {content : Bytes} (names : Names files words path content)
    {contents : Content → Prop} (unique : NoCollisions contents)
    (untexted : ∀ text, ¬contents (.text text)) (among : contents (.bytes content))
    {requests : List Request} (drawn : ∀ request ∈ requests, request.DrawnFrom contents) :
    (Step.report (validate files settings words)).AgreesWith
      ((Engine.ofSettings settings).after requests) (.file path (some content)) := by
  have alike : CompileAlike settings.compilerOptions contents :=
    (alike_iff_texts unique).mpr fun text text_among => absurd text_among (untexted text)
  have afresh := Engine.keeps_afresh alike
  have file : (ModelSource.file path (some content)).DrawnFrom contents := among
  rw [validate_eq_reportOn names]
  refine reportOn_agreesWith afresh ?_ (fun model read => file.content read) ?_
  · refine afresh.after (Engine.keeps_ofSettings settings) fun request member => ?_
    exact (drawn request member).served
  · intro model read
    obtain ⟨_, _, _, declaring⟩ := file.content read
    exact Content.decisionIds_nodup declaring

/-- The files of a program that finds one file, of two decisions of which the second does not
compile. -/
def unfinishedFiles : Files := fun path =>
  if path = "unfinished.dmn" then some (.file unfinished) else none

def unfinishedRequests : List Request :=
  [.decisions (.bytes unfinished), .decision (.file "copy.dmn" (some unfinished)) (some "a")]

theorem ending_unfinishedDecisions :
    (validateAll Settings.default.compilerOptions unfinishedDecisions.length 0
      unfinishedDecisions).ending = .status 1 := by
  have recognised : HitPolicy.parse none none "UNIQUE" = .ok (.unique, none) :=
    HitPolicy.parse_plain "UNIQUE" (by decide +kernel) rfl rfl
  have compiled : emptyTable.compile Settings.default.compilerOptions =
      .ok ⟨"a", none, .unique, none, [], [], [], false⟩ :=
    DecisionDefinition.compile_eq_ok rfl rfl (Compile.hitPolicy_eq_ok recognised nofun) rfl rfl
      nofun rfl
  rw [unfinishedDecisions, validateAll_of_ok compiled]
  rfl

theorem unfinished_agreesWith :
    Names unfinishedFiles ["--", "unfinished.dmn"] "unfinished.dmn" unfinished ∧
      NoCollisions (· = .bytes unfinished) ∧
      (∀ text, Content.text text ≠ .bytes unfinished) ∧
      (∀ request ∈ unfinishedRequests, request.DrawnFrom (· = .bytes unfinished)) ∧
      (Step.report (validate unfinishedFiles .default ["--", "unfinished.dmn"])).ending =
        .status 1 ∧
      (Step.report (validate unfinishedFiles .default ["--", "unfinished.dmn"])).AgreesWith
        ((Engine.ofSettings .default).after unfinishedRequests)
        (.file "unfinished.dmn" (some unfinished)) := by
  have normal : Path.normal "unfinished.dmn" = "unfinished.dmn" := by decide +kernel
  have names : Names unfinishedFiles ["--", "unfinished.dmn"] "unfinished.dmn" unfinished :=
    normal ▸ names_of_file rfl
  have unique : NoCollisions (· = .bytes unfinished) := by
    rintro first second rfl rfl -
    rfl
  have untexted : ∀ text, Content.text text ≠ .bytes unfinished := nofun
  have drawn : ∀ request ∈ unfinishedRequests, request.DrawnFrom (· = .bytes unfinished) := by
    simp [unfinishedRequests, Request.DrawnFrom, ModelSource.DrawnFrom]
  have ending : (reportOn .default (.file "unfinished.dmn" (some unfinished))).ending =
      .status 1 := by
    have read : Model.ofSource (.file "unfinished.dmn" (some unfinished)) =
        .ok (unfinishedModel "unfinished.dmn") := unfinished_read _
    rw [reportOn_of_nonempty read (by simp [unfinishedDecisions]), decisions_unfinishedModel]
    exact ending_unfinishedDecisions
  refine ⟨names, unique, untexted, drawn, ?_, ?_⟩
  · rw [validate_eq_reportOn names, ending]
  · exact validate_agreesWith .default names unique untexted rfl drawn

end DecisionTables.CommandLine
