import DecisionTables.CommandLine.Run
import DecisionTables.Proofs.Table.Compilation
import DecisionTables.Proofs.Table.Problems

/-!
# What compilation reports

Every problem of a decision is reported with the id of that decision, and so the check of all
decisions of a model can go on after it. The report is missing exactly where compilation breaks down.
-/

namespace DecisionTables

namespace Compile

/-! ## Problems name the decision -/

/-- Whether an error is a problem of a decision, unless it is a fault. -/
def Concerns (decisionId : String) : CompileError → Prop
  | .unsupported _ _ => False
  | .problem id _ => id = decisionId
  | .fault _ => True

/-- Whether an outcome can only be an error that concerns a decision. -/
def Concerned {α : Type} (decisionId : String) (outcome : Compiled α) : Prop :=
  ∀ error, outcome = .error error → Concerns decisionId error

theorem concerned_table {options : CompilerOptions} {definition : DecisionDefinition}
    {logic : TableLogic} : Concerned definition.id (table options definition logic) := by
  intro error failed
  have ofTable := reportsOnly_table error failed
  cases error with
  | unsupported => exact ofTable
  | problem => exact ofTable.1
  | fault => exact ofTable

end Compile

/-! ## Decisions -/

namespace DecisionDefinition

variable {options : CompilerOptions} {definition : DecisionDefinition}

/-- How compilation may end: in a table, in the report that the kind of logic is not supported, which
is for all kinds but one, or in a problem that names the decision. -/
inductive Reports (definition : DecisionDefinition) : Compiled CompiledTable → Prop
  | table {table : CompiledTable} :
      definition.variant = .decisionTable → Reports definition (.ok table)
  | unsupported :
      definition.variant ≠ .decisionTable →
      Reports definition (.error (.unsupported definition.id definition.variant))
  | problem {problem : TableProblem} :
      definition.variant = .decisionTable →
      Reports definition (.error (.problem definition.id problem))

theorem reports_iff_not_breaks :
    definition.Reports (definition.compile options) ↔ ¬Breaks (definition.compile options) := by
  constructor
  · intro reports broken
    obtain ⟨fault, broken⟩ := broken
    rw [broken] at reports
    cases reports
  · intro unbroken
    by_cases variant : definition.variant = .decisionTable
    · have concerned : Compile.Concerned definition.id (definition.compile options) := by
        rw [compile, if_neg (Decidable.not_not.mpr variant)]
        split
        · exact Compile.concerned_table
        · rintro _ ⟨⟩
          rfl
      rcases ended : definition.compile options with (_ | _ | fault) | table
      · exact (concerned _ ended).elim
      · obtain rfl := concerned _ ended
        exact .problem variant
      · exact absurd ⟨fault, ended⟩ unbroken
      · exact .table variant
    · rw [compile, if_pos variant]
      exact .unsupported variant

end DecisionDefinition

/-! ## All decisions of a model -/

section ValidateAll

open CommandLine

/-- The check of all decisions goes on to the last one exactly if none breaks it down. -/
theorem validateAll_status_iff {options : CompilerOptions} {total failures : Nat}
    {definitions : List DecisionDefinition} :
    (∃ code, (validateAll options total failures definitions).ending = .status code) ↔
      ∀ definition ∈ definitions, ¬Breaks (definition.compile options) := by
  induction definitions generalizing failures with
  | nil =>
      refine iff_of_true ?_ nofun
      cases failures <;> exact ⟨_, rfl⟩
  | cons definition rest ih =>
      rw [List.forall_mem_cons]
      cases ended : definition.compile options with
      | ok table => simp [validateAll, ended, Report.after, ih]
      | error error =>
          cases error with
          | unsupported id variant =>
              simp [validateAll, ended, Report.after, ih, Breaks, Faulty.ofFault]
          | problem id problem => simp [validateAll, ended, Report.after, ih]
          | fault fault => simp [validateAll, ended, Report.broken, Breaks, Faulty.ofFault]

end ValidateAll

namespace DecisionDefinition

/-- Compilation gives a table or a report exactly if all that it comes to ask for has a result. The
check of many decisions goes on to the last one exactly if this holds for each of them. -/
theorem compile_reports_iff (options : CompilerOptions) :
    (∀ definition : DecisionDefinition, definition.Reports (definition.compile options) ↔
      ∀ demand, definition.Demands options demand → ¬demand.Undefined) ∧
    ∀ (total failures : Nat) (definitions : List DecisionDefinition),
      (∃ code, (CommandLine.validateAll options total failures definitions).ending =
        .status code) ↔
      ∀ definition ∈ definitions, definition.Reports (definition.compile options) := by
  constructor
  · intro definition
    rw [reports_iff_not_breaks, breaks_compile_iff]
    simp only [not_exists, not_and]
  · intro total failures definitions
    simp only [validateAll_status_iff, reports_iff_not_breaks]

/-- A whole number of one digit more than a number may be written with. -/
def longNumeral : String :=
  String.ofList (List.replicate (Numeral.maxDigits + 1) '1')

theorem hasOverlongNumeral_longNumeral : Text.HasOverlongNumeral longNumeral := by
  have digit : Text.isAsciiDigit '1' = true := by decide
  refine ⟨longNumeral.toList, ?_, ?_⟩
  · rw [longNumeral, String.toList_ofList, List.replicate_succ]
    exact .here (by decide)
  · rw [Lexer.Overlong, longNumeral, String.toList_ofList, List.takeWhile_replicate,
      List.dropWhile_replicate, digit, if_pos rfl, if_pos rfl, List.length_replicate]
    exact ⟨Nat.lt_succ_self _, rfl⟩

/-- A decision that always gives an answer asks for the text of it. -/
theorem answering_demands (id text : String) :
    (CompiledTable.answering id text).Demands ⟨"UNIQUE", false⟩ (.reading text) := by
  have recognised : HitPolicy.parse (some "FIRST") none "UNIQUE" = .ok (.first, none) :=
    HitPolicy.parse_plain "FIRST" (by decide +kernel) rfl rfl
  have read : Compile.DemandsRule id [] [⟨"output0", id, none, none, []⟩] 0
      ⟨none, none, [], [text]⟩ (.reading text) :=
    @Compile.DemandsRule.output id [] _ 0 _ [] ("output0", text) rfl rfl rfl
      .first
  exact ⟨_, rfl, rfl, .rule (Compile.hitPolicy_eq_ok recognised (by simp)) rfl rfl rfl .first read⟩

/-- A cell with such a number has no error that names the decision. -/
theorem longNumeral_not_reports :
    ¬(CompiledTable.answering "long" longNumeral).Reports
      ((CompiledTable.answering "long" longNumeral).compile ⟨"UNIQUE", false⟩) := by
  intro reports
  exact ((compile_reports_iff ⟨"UNIQUE", false⟩).1 _).mp reports _
    (answering_demands "long" longNumeral) hasOverlongNumeral_longNumeral

end DecisionDefinition

end DecisionTables
