import DecisionTables.Proofs.Expression.Mentions
import DecisionTables.Proofs.Table.Breakdown
import DecisionTables.Proofs.Table.Coupling

/-!
# Tables and the variables they mention

A table is evaluated in two contexts that agree on what its cells mention. Up to the snapshot of the
variables in an error the outcomes are the same: every cell has the same outcome in both, and the
hit policy only looks at the values of cells. The snapshot, however, shows all variables, also those
that no cell mentions. A variable that is too long to be written turns the error of a cell into a
breakdown, and this is the one way in which a variable that is not mentioned decides on the outcome.
-/

namespace DecisionTables

def CompiledTests.variablesOf : Option CompiledTests → List String
  | none => []
  | some tests => tests.body.variables

def CompiledRule.variables (rule : CompiledRule) : List String :=
  rule.conditions.flatMap CompiledTests.variablesOf ++
    rule.outputs.flatMap fun expression => expression.body.variables

def CompiledTable.variables (table : CompiledTable) : List String :=
  table.inputs.flatMap (fun column => column.expression.body.variables) ++
    table.rules.flatMap CompiledRule.variables

/-- An error without the snapshot of the variables. -/
def EvaluationError.withoutSnapshot : EvaluationError → EvaluationError
  | .expression error => .expression { error with context := [] }
  | error => error

namespace Outcome

/-- Whether two outcomes are the same up to the snapshot of the variables in an error. -/
def SameUpToSnapshot {α : Type} (left right : Outcome α) : Prop :=
  left.mapError EvaluationError.withoutSnapshot = right.mapError EvaluationError.withoutSnapshot

/-- Outcomes in two contexts that come about in the same way: both are the same value or the same
error without a snapshot, or a cell fails in both for the same reason and at the same place. -/
inductive Alike (first second : Context) {α : Type} : Outcome α → Outcome α → Prop
  | same {outcome : Outcome α} :
      (∀ error, outcome ≠ .error (.expression error)) → Alike first second outcome outcome
  | failed {reason : Failure} {text : String} {decisionId ruleId columnId : Option String} :
      Alike first second
        (.error (.ofCell (.ofFailure reason text first decisionId ruleId columnId)))
        (.error (.ofCell (.ofFailure reason text second decisionId ruleId columnId)))

namespace Alike

variable {α β : Type} {first second : Context}

theorem ok (value : α) : Alike first second (.ok value) (.ok value) :=
  .same nofun

theorem fault (fault : Fault) :
    Alike first second (.error (.fault fault) : Outcome α) (.error (.fault fault)) :=
  .same nofun

theorem bind {left right : Outcome α} {leftNext rightNext : α → Outcome β}
    (alike : Alike first second left right)
    (next : ∀ value, left = .ok value → Alike first second (leftNext value) (rightNext value)) :
    Alike first second (left >>= leftNext) (right >>= rightNext) := by
  cases alike with
  | same plain =>
      cases left with
      | ok value => exact next value rfl
      | error error =>
          refine .same fun failed shown => plain failed ?_
          cases shown
          rfl
  | failed => exact .failed

theorem coupling : Coupling fun _ => Alike first second :=
  ⟨.same, .bind⟩

theorem ofCell {text decisionId columnId : String} {ruleId : Option String}
    (outcome : Evaluated α) :
    Alike first second (Outcome.ofCell decisionId ruleId columnId
      (Evaluated.ofCell text first outcome)) (Outcome.ofCell decisionId ruleId columnId
      (Evaluated.ofCell text second outcome)) := by
  rcases outcome with (reason | fault) | value
  · have located (context : Context) :
        (CellError.ofFailure reason text context none none none).locate (some decisionId) ruleId
          (some columnId) = CellError.ofFailure reason text context
            (ExpressionError.prefer (some decisionId) none) (ExpressionError.prefer ruleId none)
            (ExpressionError.prefer (some columnId) none) := by
      simp only [CellError.ofFailure]
      cases context.bindings.snapshot <;> rfl
    simp only [Evaluated.ofCell, Outcome.ofCell, located]
    exact .failed
  · exact .fault fault
  · exact .ok value

end Alike

end Outcome

theorem Bindings.snapshot_fault {bindings : Bindings} {fault : Fault}
    (failed : bindings.snapshot = .error fault) : fault = .numeralTooLong := by
  induction bindings with
  | nil => cases failed
  | cons binding rest ih =>
      rcases Except.both_error failed with failed | failed
      · exact Value.quoted_fault _ failed
      · exact ih failed

namespace Outcome

variable {α : Type} {first second : Context} {left right : Outcome α}

/-- Outcomes that come about in the same way are the same up to the snapshot exactly if there is no
failed cell in one of the contexts where the variables of the other cannot be written. -/
theorem Alike.sameUpToSnapshot_iff (alike : Alike first second left right) :
    SameUpToSnapshot left right ↔
      (∀ error, left = .error (.expression error) → ¬Value.Unwritable (.map second.bindings)) ∧
        ∀ error, right = .error (.expression error) → ¬Value.Unwritable (.map first.bindings) := by
  cases alike with
  | same plain =>
      refine iff_of_true rfl ⟨?_, ?_⟩
      · intro error shown
        exact absurd shown (plain error)
      · intro error shown
        exact absurd shown (plain error)
  | failed =>
      simp only [← Bindings.breaks_snapshot_iff, CellError.ofFailure]
      cases firstShown : first.bindings.snapshot with
      | ok firstSnapshot =>
          cases second.bindings.snapshot with
          | ok secondSnapshot | error secondFault =>
              simp [SameUpToSnapshot, EvaluationError.ofCell, Except.mapError,
                EvaluationError.withoutSnapshot]
      | error firstFault =>
          cases secondShown : second.bindings.snapshot with
          | ok secondSnapshot =>
              simp [SameUpToSnapshot, EvaluationError.ofCell, Except.mapError,
                EvaluationError.withoutSnapshot]
          | error secondFault =>
              -- Both snapshots fail, and there is but one reason for which they do.
              obtain rfl := Bindings.snapshot_fault firstShown
              obtain rfl := Bindings.snapshot_fault secondShown
              simp [SameUpToSnapshot, EvaluationError.ofCell]

end Outcome

namespace CompiledTable

open Outcome

variable {table : CompiledTable} {first second : Context}

theorem alike_coerce {text : String} {ruleId : Option String} {columnId : String}
    {typeRef : Option String} (value : Value) :
    Alike first second (table.coerce text ruleId columnId typeRef first value)
      (table.coerce text ruleId columnId typeRef second value) := by
  simp only [coerce]
  rcases value.coerce table.strict typeRef with (error | fault) | converted
  · exact .failed
  · exact .fault fault
  · exact .ok converted

theorem alike_cellValue {expression : CompiledExpression} {ruleId : Option String}
    {columnId : String} {typeRef : Option String}
    (agree : first.AgreeOn second expression.body.variables) :
    Alike first second (table.cellValue expression ruleId columnId typeRef first)
      (table.cellValue expression ruleId columnId typeRef second) := by
  simp only [cellValue, CompiledExpression.evaluate, Expression.evaluate_congr agree]
  exact (Alike.ofCell _).bind fun value _ => alike_coerce value

theorem alike_conditionsAccept {ruleId : String} {columns : List CompiledInput}
    {conditions : List (Option CompiledTests)} {subjects : List Value}
    (agree : first.AgreeOn second (conditions.flatMap CompiledTests.variablesOf)) :
    Alike first second (table.conditionsAccept ruleId first columns conditions subjects)
      (table.conditionsAccept ruleId second columns conditions subjects) := by
  induction columns generalizing conditions subjects with
  | nil => exact .ok true
  | cons column columns ih =>
      cases conditions with
      | nil => exact .ok true
      | cons condition conditions =>
          cases subjects with
          | nil => exact .ok true
          | cons subject subjects =>
              obtain ⟨onCondition, onOthers⟩ := Context.AgreeOn.append_iff.mp agree
              have further (accepted : Bool) : Alike first second
                  (if accepted then
                    table.conditionsAccept ruleId first columns conditions subjects
                    else .ok false)
                  (if accepted then
                    table.conditionsAccept ruleId second columns conditions subjects
                    else .ok false) := by
                cases accepted with
                | false => exact .ok false
                | true => exact ih onOthers
              cases condition with
              | none => exact further true
              | some tests =>
                  simp only [conditionsAccept, CompiledTests.accepts,
                    UnaryTests.accepts_congr onCondition]
                  exact (Alike.ofCell _).bind fun accepted _ => further accepted

/-- In contexts that agree on what the cells of a table mention, its outcome comes about in the same
way. -/
theorem alike_evaluate (agree : first.AgreeOn second table.variables) :
    Alike first second (table.evaluate first) (table.evaluate second) := by
  obtain ⟨onInputs, onRules⟩ := Context.AgreeOn.append_iff.mp agree
  refine coupled_evaluate Alike.coupling ?_ ?_ ?_
  · intro column among
    exact alike_cellValue (Context.AgreeOn.flatMap_iff.mp onInputs column among)
  · intro rule among subjects
    have onRule := Context.AgreeOn.flatMap_iff.mp onRules rule among
    exact alike_conditionsAccept (Context.AgreeOn.append_iff.mp onRule).1
  · intro rule among cell paired
    have onRule := Context.AgreeOn.flatMap_iff.mp onRules rule among
    have onOutputs := Context.AgreeOn.flatMap_iff.mp (Context.AgreeOn.append_iff.mp onRule).2
    exact alike_cellValue (onOutputs cell.2 (List.of_mem_zip paired).2)

end CompiledTable

namespace Compile

/-- The value of an output value text is that of its expression in every context, brought to the
type of the column. -/
theorem evaluate_of_constant {options : CompilerOptions} {decisionId columnId : String}
    {typeRef : Option String} {text : String} {value : Value}
    (compiled : constant options decisionId columnId typeRef text = .ok value)
    (context : Context) :
    ∃ expression raw, CompiledExpression.compile text = .ok expression ∧
      expression.evaluate context = .ok raw ∧ raw.coerce options.strict typeRef = .ok value := by
  simp only [constant, Except.bind_eq_ok_iff, ofRead_eq_ok_iff] at compiled
  obtain ⟨expression, read, given⟩ := compiled
  cases evaluated : expression.evaluate (.ofBindings []) with
  | error error => cases error <;> simp [evaluated] at given
  | ok raw =>
      cases coerced : raw.coerce options.strict typeRef with
      | error refusal => cases refusal <;> simp [evaluated, coerced] at given
      | ok converted =>
          simp only [evaluated, coerced, Except.pure_eq_ok, Except.ok.injEq] at given
          refine ⟨expression, raw, read, ?_, by rw [coerced, given]⟩
          rw [CompiledExpression.evaluate_eq_ok_iff] at evaluated ⊢
          exact Expression.evaluate_of_unbound rfl evaluated

end Compile

/-- What it means for two contexts that the variables that are mentioned decide on evaluation. -/
structure DecidedByMentions (first second : Context) : Prop where
  /-- An expression has the same value in both, or fails in both for the same reason, if they agree
  on the variables that it mentions. -/
  expressions : ∀ (expression : Expression) (subject : Value),
    first.AgreeOn second expression.variables →
      expression.evaluate ⟨first, subject⟩ = expression.evaluate ⟨second, subject⟩
  /-- An input entry accepts the same subjects in both, or fails in both for the same reason, if
  they agree on the variables that it mentions. -/
  entries : ∀ (entry : UnaryTests) (subject : Value), first.AgreeOn second entry.variables →
    entry.accepts ⟨first, subject⟩ = entry.accepts ⟨second, subject⟩
  /-- An expression has no value where a variable that it mentions is unbound. -/
  mandatory : ∀ (expression : Expression) (subject : Value) (name : String),
    name ∈ expression.variables → first.bindings.get? name = none →
      ∀ value, expression.evaluate ⟨first, subject⟩ ≠ .ok value
  /-- An expression that has a value without any variables has the same value with them. -/
  constants : ∀ (expression : Expression) (subject value : Value) (unbound : Context),
    unbound.bindings = [] → expression.evaluate ⟨unbound, subject⟩ = .ok value →
      expression.evaluate ⟨first, subject⟩ = .ok value
  /-- The value of an output value text is that of its expression, brought to the type of its
  column. -/
  outputValues : ∀ (options : CompilerOptions) (decisionId columnId : String)
    (typeRef : Option String) (text : String) (value : Value),
    Compile.constant options decisionId columnId typeRef text = .ok value →
      ∃ expression raw, CompiledExpression.compile text = .ok expression ∧
        expression.evaluate first = .ok raw ∧ raw.coerce options.strict typeRef = .ok value
  /-- A table has the same result in both or, up to the snapshot, the same error, if they agree on
  the variables that its cells mention, unless a cell fails in one of them and the variables of the
  other are too long to be written in the snapshot. -/
  tables : ∀ table : CompiledTable, first.AgreeOn second table.variables →
    ((table.evaluate first).SameUpToSnapshot (table.evaluate second) ↔
      (∀ error, table.evaluate first = .error (.expression error) →
        ¬Value.Unwritable (.map second.bindings)) ∧
      ∀ error, table.evaluate second = .error (.expression error) →
        ¬Value.Unwritable (.map first.bindings))

/-- The variables that are mentioned decide on evaluation. -/
theorem decidedByMentions (first second : Context) : DecidedByMentions first second := by
  constructor
  case expressions =>
    intro expression subject agree
    exact Expression.evaluate_congr agree
  case entries =>
    intro entry subject agree
    exact UnaryTests.accepts_congr agree
  case mandatory =>
    intro expression subject name mentioned unbound value evaluates
    exact absurd unbound (Expression.bound_of_evaluate evaluates mentioned)
  case constants =>
    intro expression subject value unbound empty evaluates
    exact Expression.evaluate_of_unbound empty evaluates
  case outputValues =>
    intro options decisionId columnId typeRef text value compiled
    exact Compile.evaluate_of_constant compiled first
  case tables =>
    intro table agree
    exact (CompiledTable.alike_evaluate agree).sameUpToSnapshot_iff

namespace CompiledTable

def undefinedQuotient : CompiledExpression :=
  ⟨"1/0", .arithmetic .div (.literal (.integer 1)) (.literal (.integer 0))⟩

theorem undefinedQuotient_compile :
    CompiledExpression.compile "1/0" = .ok undefinedQuotient := by
  cbv

/-- A variable that is too long to be written. -/
def unwritten : Context :=
  .ofBindings [("unwritten", .integer (10 ^ Numeral.maxDigits : Nat))]

theorem unwritable_unwritten : Value.Unwritable (.map unwritten.bindings) := by
  have written (value : Int) (long : 10 ^ Numeral.maxDigits ≤ value.natAbs) :
      Value.Unwritable (.map [("unwritten", .integer value)]) :=
    .member List.mem_cons_self (.integer long)
  exact written _ (Int.natAbs_natCast _).ge

/-- A variable that no cell mentions decides whether the failure of a cell is told. -/
theorem undefinedQuotient_not_sameUpToSnapshot :
    (answering "quotient" "1/0").compile ⟨"UNIQUE", false⟩ =
        .ok (answeringTable "quotient" undefinedQuotient) ∧
      (answeringTable "quotient" undefinedQuotient).variables = [] ∧
      ¬((answeringTable "quotient" undefinedQuotient).evaluate (.ofBindings [])).SameUpToSnapshot
        ((answeringTable "quotient" undefinedQuotient).evaluate unwritten) := by
  refine ⟨answering_compile "quotient" undefinedQuotient_compile, rfl, fun same => ?_⟩
  have agree : Context.AgreeOn (.ofBindings []) unwritten
      (answeringTable "quotient" undefinedQuotient).variables := nofun
  have tables := (decidedByMentions (.ofBindings []) unwritten).tables
  exact ((tables _ agree).mp same).1 _ rfl unwritable_unwritten

end CompiledTable

end DecisionTables
