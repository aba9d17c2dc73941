import DecisionTables.Proofs.Outcome
import DecisionTables.Table.Compile

/-!
# What compiling a table reports

A table is compiled in stages, of which each ends in a result or in a problem that names the
decision. None of them reports that there is no table, since that is found before the first.
-/

namespace DecisionTables.Compile

variable {options : CompilerOptions} {decisionId columnId : String}

/-- Whether an error may come from a table of a decision. It names the decision, unless it is a
fault, and does not say that there is no table. -/
def OfTable (decisionId : String) : CompileError → Prop
  | .unsupported _ _ => False
  | .problem id problem => id = decisionId ∧ ∀ variant, problem ≠ .missingLogic variant
  | .fault _ => True

/-- Whether an outcome can only be an error that may come from a table of a decision. -/
def ReportsOnly {α : Type} (decisionId : String) (outcome : Compiled α) : Prop :=
  ∀ error, outcome = .error error → OfTable decisionId error

variable {α β : Type}

/-! ## Steps -/

theorem reportsOnly_ok {value : α} : ReportsOnly decisionId (.ok value) := nofun

theorem reportsOnly_problem {problem : TableProblem}
    (declared : ∀ variant, problem ≠ .missingLogic variant) :
    ReportsOnly decisionId (.error (.problem decisionId problem) : Compiled α) := by
  rintro _ ⟨⟩
  exact ⟨rfl, declared⟩

theorem reportsOnly_fault {fault : Fault} :
    ReportsOnly decisionId (.error (.fault fault) : Compiled α) := by
  rintro _ ⟨⟩
  trivial

theorem ReportsOnly.bind {first : Compiled α} {next : α → Compiled β}
    (begun : ReportsOnly decisionId first)
    (later : ∀ value, ReportsOnly decisionId (next value)) :
    ReportsOnly decisionId (first >>= next) := by
  intro error failed
  rcases Except.bind_eq_error_iff.mp failed with failed | ⟨value, _, failed⟩
  · exact begun error failed
  · exact later value error failed

theorem reportsOnly_ofRead {ruleId : Option String} {outcome : Except ReadError α} :
    ReportsOnly decisionId (ofRead decisionId ruleId columnId outcome) := by
  rcases outcome with (error | fault) | value
  · exact reportsOnly_problem nofun
  · exact reportsOnly_fault
  · exact reportsOnly_ok

theorem reportsOnly_forAllFrom {action : Nat → α → Compiled β}
    (each : ∀ index item, ReportsOnly decisionId (action index item)) {index : Nat}
    {items : List α} : ReportsOnly decisionId (forAllFrom action index items) := by
  induction items generalizing index with
  | nil => exact reportsOnly_ok
  | cons item rest ih => exact (each index item).bind fun _ => ih.bind fun _ => reportsOnly_ok

/-! ## Stages -/

theorem reportsOnly_input {index : Nat} {clause : InputClause} :
    ReportsOnly decisionId (input decisionId index clause) :=
  reportsOnly_ofRead.bind fun _ => reportsOnly_ok

theorem reportsOnly_constant {typeRef : Option String} {text : String} :
    ReportsOnly decisionId (constant options decisionId columnId typeRef text) := by
  apply reportsOnly_ofRead.bind
  intro expression
  dsimp only
  split
  · exact reportsOnly_fault
  · exact reportsOnly_problem nofun
  · split
    · exact reportsOnly_ok
    · exact reportsOnly_problem nofun
    · exact reportsOnly_fault

theorem reportsOnly_constants {typeRef : Option String} {texts : List String} :
    ReportsOnly decisionId (constants options decisionId columnId typeRef texts) := by
  induction texts with
  | nil => exact reportsOnly_ok
  | cons text rest ih => exact reportsOnly_constant.bind fun _ => ih.bind fun _ => reportsOnly_ok

theorem reportsOnly_outputsFrom {single : Bool} {index : Nat} {seen : List String}
    {clauses : List OutputClause} :
    ReportsOnly decisionId (outputsFrom options decisionId single index seen clauses) := by
  induction clauses generalizing index seen with
  | nil => exact reportsOnly_ok
  | cons clause rest ih =>
      have named : ReportsOnly decisionId (outputName decisionId single index clause) := by
        rw [outputName]
        split
        · exact reportsOnly_ok
        · split
          · exact reportsOnly_ok
          · exact reportsOnly_problem nofun
      apply named.bind
      intro name
      dsimp only
      split
      · exact reportsOnly_problem nofun
      · exact reportsOnly_constants.bind fun _ => ih.bind fun _ => reportsOnly_ok

theorem reportsOnly_condition {ruleId columnId text : String} :
    ReportsOnly decisionId (condition decisionId ruleId columnId text) := by
  rw [condition]
  split
  · exact reportsOnly_ok
  · intro error failed
    exact reportsOnly_ofRead error (Except.map_eq_error_iff.mp failed)

theorem reportsOnly_forCells {α : Type} {action : (columnId text : String) → Compiled α}
    (each : ∀ columnId text, ReportsOnly decisionId (action columnId text))
    {columnIds texts : List String} : ReportsOnly decisionId (forCells action columnIds texts) := by
  induction columnIds generalizing texts with
  | nil => exact reportsOnly_ok
  | cons columnId columnIds ih =>
      cases texts with
      | nil => exact reportsOnly_ok
      | cons text texts => exact (each columnId text).bind fun _ => ih.bind fun _ => reportsOnly_ok

theorem reportsOnly_rule {inputs : List CompiledInput} {outputs : List CompiledOutput} {index : Nat}
    {definition : RuleDefinition} :
    ReportsOnly decisionId (rule decisionId inputs outputs index definition) := by
  simp only [rule]
  split
  · exact reportsOnly_problem nofun
  · split
    · exact reportsOnly_problem nofun
    · refine (reportsOnly_forCells fun _ _ => reportsOnly_condition).bind fun _ => ?_
      exact (reportsOnly_forCells fun _ _ => reportsOnly_ofRead).bind fun _ => reportsOnly_ok

theorem reportsOnly_hitPolicy {logic : TableLogic} :
    ReportsOnly decisionId (hitPolicy options decisionId logic) := by
  unfold hitPolicy
  -- The tokens are not looked into: unfolding them would unfold the tables of letter case.
  generalize HitPolicy.parse logic.hitPolicy logic.aggregation options.defaultHitPolicy = named
  split
  · exact reportsOnly_problem nofun
  · exact reportsOnly_ok
  · split
    · exact reportsOnly_ok
    · exact reportsOnly_problem nofun

theorem reportsOnly_table {definition : DecisionDefinition} {logic : TableLogic} :
    ReportsOnly definition.id (table options definition logic) := by
  refine reportsOnly_hitPolicy.bind fun named => ?_
  refine (reportsOnly_forAllFrom fun _ _ => reportsOnly_input).bind fun inputs => ?_
  refine reportsOnly_outputsFrom.bind fun outputs => ?_
  split
  · exact reportsOnly_problem nofun
  · exact (reportsOnly_forAllFrom fun _ _ => reportsOnly_rule).bind fun _ => reportsOnly_ok

end DecisionTables.Compile
