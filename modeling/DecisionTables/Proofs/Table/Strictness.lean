import DecisionTables.Engine.Basic
import DecisionTables.Proofs.Table.Mentions

/-!
# What strict typing does

A decision is compiled and evaluated once in strict and once in lenient mode. Both convert a value to
the type of its column where they can; where they cannot, the strict run stops with a report of the
value and the lenient run goes on with it. Up to that point they do the same. The report shows the
value and the variables, and it breaks down if one of them is too long to be written: this is the one
way in which the strict run may end differently without saying that a value is refused.
-/

namespace DecisionTables

/-! ## Following up to a stop -/

/-- How a strict computation follows the lenient one: it has the same outcome, unless it stops with an
error of a given kind. -/
inductive Follows {ε α : Type} (Stops : ε → Prop) : Except ε α → Except ε α → Prop
  | same {outcome : Except ε α} : Follows Stops outcome outcome
  | stopped {error : ε} {lenient : Except ε α} :
      Stops error → Follows Stops (.error error) lenient

namespace Follows

variable {ε ε' α β : Type} {Stops : ε → Prop}

theorem bind {strict lenient : Except ε α} {strictNext lenientNext : α → Except ε β}
    (follows : Follows Stops strict lenient)
    (next : ∀ value, strict = .ok value → Follows Stops (strictNext value) (lenientNext value)) :
    Follows Stops (strict >>= strictNext) (lenient >>= lenientNext) := by
  cases follows with
  | same =>
      cases strict with
      | ok value => exact next value rfl
      | error error => exact .same
  | stopped stops => exact .stopped stops

theorem lenient_eq_ok {value : α} {lenient : Except ε α}
    (follows : Follows Stops (.ok value) lenient) : lenient = .ok value := by
  cases follows
  rfl

theorem eq_or_stopped {strict lenient : Except ε α} (follows : Follows Stops strict lenient) :
    strict = lenient ∨ ∃ error, Stops error ∧ strict = .error error := by
  cases follows with
  | same => exact .inl rfl
  | stopped stops => exact .inr ⟨_, stops, rfl⟩

theorem mono {Stops' : ε → Prop} {strict lenient : Except ε α}
    (follows : Follows Stops strict lenient) (weaker : ∀ error, Stops error → Stops' error) :
    Follows Stops' strict lenient := by
  cases follows with
  | same => exact .same
  | stopped stops => exact .stopped (weaker _ stops)

theorem mapError {Stops' : ε' → Prop} {strict lenient : Except ε α} (image : ε → ε')
    (follows : Follows Stops strict lenient) (stops : ∀ error, Stops error → Stops' (image error)) :
    Follows Stops' (strict.mapError image) (lenient.mapError image) := by
  cases follows with
  | same => exact .same
  | stopped stopped => exact .stopped (stops _ stopped)

theorem coupling {Stops : EvaluationError → Prop} :
    Outcome.Coupling fun _ => Follows Stops :=
  ⟨fun _ => .same, .bind⟩

end Follows

/-! ## Compilation -/

namespace Compile

/-- The report that the value of an output value text is refused. -/
def refusal (decisionId columnId text : String) (typeRef : Option String) (value : Value) :
    CompileError :=
  match value.refuse (typeRef.getD "") with
  | .conversion error => .problem decisionId (.notConstant text columnId error.message)
  | .fault fault => .fault fault

/-- The values of output value texts that the type of their column refuses, with their reports. -/
inductive Refuses (decisionId : String) (clauses : List OutputClause) :
    Value → CompileError → Prop
  | outputValue {index : Nat} {clause : OutputClause} {text : String}
      {expression : CompiledExpression} {value : Value} :
      clauses[index]? = some clause → text ∈ clause.outputValues →
      CompiledExpression.compile text = .ok expression →
      expression.evaluate (.ofBindings []) = .ok value →
      value.convert? (clause.typeRef.bind TypeRef.normalize) = none →
      Refuses decisionId clauses value (refusal decisionId (idOr clause.id "output" index) text
        (clause.typeRef.bind TypeRef.normalize) value)

variable {policy decisionId : String} {Stops : CompileError → Prop}

theorem refusal_fault?_eq_none_iff {columnId text : String} {typeRef : Option String}
    {value : Value} :
    (PreparationError.compilation (refusal decisionId columnId text typeRef value)).fault? = none ↔
      ¬(value.Unwritable ∨ Value.Unwritable (.map [])) := by
  rw [← Value.breaks_quoted_iff, ← Bindings.breaks_snapshot_iff]
  simp only [refusal, Value.refuse]
  cases value.quoted with
  | error fault => simp [PreparationError.fault?]
  | ok quoted => simp [PreparationError.fault?, Bindings.snapshot]

theorem follows_constant {columnId text : String} {typeRef : Option String}
    (stops : ∀ expression value, CompiledExpression.compile text = .ok expression →
      expression.evaluate (.ofBindings []) = .ok value → value.convert? typeRef = none →
        Stops (refusal decisionId columnId text typeRef value)) :
    Follows Stops (constant ⟨policy, true⟩ decisionId columnId typeRef text)
      (constant ⟨policy, false⟩ decisionId columnId typeRef text) := by
  simp only [constant]
  apply Follows.same.bind
  intro expression read
  rw [ofRead_eq_ok_iff] at read
  cases evaluated : expression.evaluate (.ofBindings []) with
  | error error => cases error <;> exact .same
  | ok value =>
      simp only [Value.coerce]
      cases converted : value.convert? typeRef with
      | some converted => exact .same
      | none =>
          have stopped := stops expression value read evaluated converted
          simp only [refusal] at stopped
          simp only [if_true, Bool.false_eq_true, if_false]
          cases refused : value.refuse (typeRef.getD "") with
          | conversion error => exact .stopped (by simpa only [refused] using stopped)
          | fault fault => exact .stopped (by simpa only [refused] using stopped)

theorem follows_constants {columnId : String} {typeRef : Option String} {texts : List String}
    (each : ∀ text ∈ texts,
      Follows Stops (constant ⟨policy, true⟩ decisionId columnId typeRef text)
        (constant ⟨policy, false⟩ decisionId columnId typeRef text)) :
    Follows Stops (constants ⟨policy, true⟩ decisionId columnId typeRef texts)
      (constants ⟨policy, false⟩ decisionId columnId typeRef texts) := by
  induction texts with
  | nil => exact .same
  | cons text rest ih =>
      obtain ⟨onText, onRest⟩ := List.forall_mem_cons.mp each
      apply onText.bind
      intro value _
      apply (ih onRest).bind
      intro values _
      exact .same

theorem follows_outputsFrom {single : Bool} {index : Nat} {seen : List String}
    {clauses : List OutputClause}
    (each : ∀ offset clause, clauses[offset]? = some clause → ∀ text ∈ clause.outputValues,
      Follows Stops
        (constant ⟨policy, true⟩ decisionId (idOr clause.id "output" (index + offset))
          (clause.typeRef.bind TypeRef.normalize) text)
        (constant ⟨policy, false⟩ decisionId (idOr clause.id "output" (index + offset))
          (clause.typeRef.bind TypeRef.normalize) text)) :
    Follows Stops (outputsFrom ⟨policy, true⟩ decisionId single index seen clauses)
      (outputsFrom ⟨policy, false⟩ decisionId single index seen clauses) := by
  induction clauses generalizing index seen with
  | nil => exact .same
  | cons clause rest ih =>
      simp only [outputsFrom]
      apply Follows.same.bind
      intro name _
      split
      · exact .same
      · apply (follows_constants fun text => each 0 clause rfl text).bind
        intro priorities _
        apply (ih fun offset other placed text among => ?_).bind
        · intro others _
          exact .same
        · have later := each (offset + 1) other placed text among
          rwa [Nat.add_comm offset, ← Nat.add_assoc] at later

/-- The output columns are compiled alike in both modes, up to an output value that is refused. -/
theorem follows_outputs {clauses : List OutputClause} :
    Follows (fun error => ∃ value, Refuses decisionId clauses value error)
      (outputs ⟨policy, true⟩ decisionId clauses) (outputs ⟨policy, false⟩ decisionId clauses) := by
  apply follows_outputsFrom
  intro offset clause placed text among
  rw [Nat.zero_add]
  apply follows_constant
  intro expression value read evaluated unconverted
  exact ⟨value, .outputValue placed among read evaluated unconverted⟩

/-- Strict compilation gives the table of lenient compilation in strict mode, unless it refuses an
output value. -/
theorem follows_table {definition : DecisionDefinition} {logic : TableLogic} :
    Follows (fun error => ∃ value, Refuses definition.id logic.outputs value error)
      ((table ⟨policy, true⟩ definition logic).map (·.inMode false))
      (table ⟨policy, false⟩ definition logic) := by
  have recognised : hitPolicy ⟨policy, true⟩ definition.id logic =
      hitPolicy ⟨policy, false⟩ definition.id logic := by
    -- The tokens are not looked into: unfolding them would unfold the tables of letter case.
    unfold hitPolicy
    with_reducible rfl
  have declared : Follows _ (outputs ⟨policy, true⟩ definition.id logic.outputs)
      (outputs ⟨policy, false⟩ definition.id logic.outputs) := follows_outputs
  simp only [table, recognised]
  rcases hitPolicy ⟨policy, false⟩ definition.id logic with error | ⟨named, aggregation⟩
  · exact .same
  rcases forAllFrom (input definition.id) 0 logic.inputs with error | inputs
  · exact .same
  simp only [Except.ok_bind]
  generalize outputs ⟨policy, true⟩ definition.id logic.outputs = strictOutputs at declared
  generalize outputs ⟨policy, false⟩ definition.id logic.outputs = lenientOutputs at declared
  cases declared with
  | stopped refused => exact .stopped refused
  | same =>
      rcases strictOutputs with error | outputs
      · exact .same
      simp only [Except.ok_bind]
      split
      · exact .same
      · rcases forAllFrom (rule definition.id inputs outputs) 0 logic.rules with error | rules
        · exact .same
        · exact .same

end Compile

/-! ## Evaluation -/

namespace CompiledTable

variable {table : CompiledTable} {context : Context}

/-- The report that the value of a cell is refused. -/
def refusal (table : CompiledTable) (text : String) (ruleId : Option String) (columnId : String)
    (typeRef : Option String) (context : Context) (value : Value) : EvaluationError :=
  match value.refuse (typeRef.getD "") with
  | .conversion error =>
      .ofCell (.ofFailure (.notConvertible error) text context (some table.decisionId) ruleId
        (some columnId))
  | .fault fault => .fault fault

/-- The values of input expressions and of output entries that the type of their column refuses, with
their reports. -/
inductive Refuses (table : CompiledTable) (context : Context) : Value → EvaluationError → Prop
  | input {column : CompiledInput} {value : Value} :
      column ∈ table.inputs → column.expression.evaluate context = .ok value →
      value.convert? column.typeRef = none →
      Refuses table context value
        (table.refusal column.expression.text none column.id column.typeRef context value)
  | output {rule : CompiledRule} {column : CompiledOutput} {expression : CompiledExpression}
      {value : Value} :
      rule ∈ table.rules → (column, expression) ∈ table.outputs.zip rule.outputs →
      expression.evaluate context = .ok value → value.convert? column.typeRef = none →
      Refuses table context value
        (table.refusal expression.text (some rule.id) column.id column.typeRef context value)

theorem follows_cellValue (strict : table.strict = true) {Stops : EvaluationError → Prop}
    {expression : CompiledExpression} {ruleId : Option String} {columnId : String}
    {typeRef : Option String}
    (stops : ∀ value, expression.evaluate context = .ok value → value.convert? typeRef = none →
      Stops (table.refusal expression.text ruleId columnId typeRef context value)) :
    Follows Stops (table.cellValue expression ruleId columnId typeRef context)
      ((table.inMode false).cellValue expression ruleId columnId typeRef context) := by
  simp only [cellValue]
  apply Follows.same.bind
  intro value given
  have evaluated := Outcome.ofCell_eq_ok_iff.mp given
  simp only [coerce, Value.coerce, strict, inMode]
  cases converted : value.convert? typeRef with
  | some converted => exact .same
  | none =>
      have stopped := stops value evaluated converted
      simp only [refusal] at stopped
      simp only [if_true, Bool.false_eq_true, if_false]
      cases refused : value.refuse (typeRef.getD "") with
      | conversion error => exact .stopped (by simpa only [refused] using stopped)
      | fault fault => exact .stopped (by simpa only [refused] using stopped)

theorem refusal_fault?_eq_none_iff {text columnId : String} {ruleId typeRef : Option String}
    {value : Value} :
    (table.refusal text ruleId columnId typeRef context value).fault? = none ↔
      ¬(value.Unwritable ∨ Value.Unwritable (.map context.bindings)) := by
  rw [← Value.breaks_quoted_iff, ← Bindings.breaks_snapshot_iff]
  simp only [refusal, Value.refuse]
  cases value.quoted with
  | error fault => simp [EvaluationError.fault?]
  | ok quoted =>
      simp only [CellError.ofFailure]
      cases context.bindings.snapshot with
      | error fault => simp [EvaluationError.ofCell, EvaluationError.fault?]
      | ok snapshot => simp [EvaluationError.ofCell, EvaluationError.fault?]

/-- A strict table has the outcome of the lenient one, unless it stops at a value that the type of
its column refuses. -/
theorem follows_evaluate (strict : table.strict = true) :
    Follows (fun error => ∃ value, table.Refuses context value error) (table.evaluate context)
      ((table.inMode false).evaluate context) := by
  refine coupled_evaluate Follows.coupling ?_ ?_ ?_
  · intro column among
    apply follows_cellValue strict
    intro value evaluated unconverted
    exact ⟨value, .input among evaluated unconverted⟩
  · intro rule _ subjects
    have same : (table.inMode false).matchesRule context subjects rule =
        table.matchesRule context subjects rule :=
      conditionsAccept_congr (samePolicy_inMode table false).decisionId
    rw [same]
    exact .same
  · intro rule among cell paired
    apply follows_cellValue strict
    intro value evaluated unconverted
    exact ⟨value, .output among paired evaluated unconverted⟩

end CompiledTable

/-! ## Whole runs -/

namespace DecisionDefinition

def run (options : CompilerOptions) (definition : DecisionDefinition) (context : Context) :
    Except RunError ResultSet := do
  let table ← (definition.compile options).mapError fun error => .preparation (.compilation error)
  (table.evaluate context).mapError .evaluation

variable {definition : DecisionDefinition} {policy : String} {context : Context}

/-- The values that types refuse in a strict run, each with the variables that its report shows and
with that report. No variable is there to be shown while the decision is compiled. -/
inductive Refuses (definition : DecisionDefinition) (policy : String) (context : Context) :
    Value → Bindings → RunError → Prop
  | compiling {logic : TableLogic} {value : Value} {error : CompileError} :
      definition.logic = some (.decisionTable logic) →
      Compile.Refuses definition.id logic.outputs value error →
      Refuses definition policy context value [] (.preparation (.compilation error))
  | evaluating {table : CompiledTable} {value : Value} {error : EvaluationError} :
      definition.compile ⟨policy, true⟩ = .ok table → table.Refuses context value error →
      Refuses definition policy context value context.bindings (.evaluation error)

theorem follows_compile :
    Follows (fun error => ∃ logic value, definition.logic = some (.decisionTable logic) ∧
        Compile.Refuses definition.id logic.outputs value error)
      ((definition.compile ⟨policy, true⟩).map (·.inMode false))
      (definition.compile ⟨policy, false⟩) := by
  by_cases variant : definition.variant ≠ .decisionTable
  · simp only [compile, if_pos variant, Except.map_error]
    exact .same
  · simp only [compile, if_neg variant]
    split
    · rename_i logic payload
      exact Compile.follows_table.mono fun error stops =>
        ⟨logic, stops.choose, payload, stops.choose_spec⟩
    · exact .same

/-- A strict run has the outcome of the lenient one, unless it stops at a value that the type of its
column refuses. -/
theorem follows_run :
    Follows (fun error => ∃ value shown, definition.Refuses policy context value shown error)
      (definition.run ⟨policy, true⟩ context) (definition.run ⟨policy, false⟩ context) := by
  have compiled : Follows _ ((definition.compile ⟨policy, true⟩).map (·.inMode false))
      (definition.compile ⟨policy, false⟩) := follows_compile
  simp only [run]
  cases strict : definition.compile ⟨policy, true⟩ with
  | error error =>
      rw [strict, Except.map_error] at compiled
      apply (compiled.mapError _ _).bind
      · nofun
      · intro error stops
        obtain ⟨logic, value, payload, refuses⟩ := stops
        exact ⟨value, [], .compiling payload refuses⟩
  | ok table =>
      rw [strict, Except.map_ok] at compiled
      rw [compiled.lenient_eq_ok]
      have mode : table.strict = true := strict_of_compile strict
      apply (CompiledTable.follows_evaluate mode).mapError
      intro error stops
      obtain ⟨value, refuses⟩ := stops
      exact ⟨value, context.bindings, .evaluating strict refuses⟩

/-- The report of a refused value tells so, unless the value or a variable is too long to be
written. -/
theorem Refuses.fault?_eq_none_iff {value : Value} {shown : Bindings} {error : RunError}
    (refuses : definition.Refuses policy context value shown error) :
    error.fault? = none ↔ ¬(value.Unwritable ∨ Value.Unwritable (.map shown)) := by
  cases refuses with
  | compiling _ refuses =>
      cases refuses
      exact Compile.refusal_fault?_eq_none_iff
  | evaluating _ refuses =>
      cases refuses with
      | input | output => exact CompiledTable.refusal_fault?_eq_none_iff

/-- Whether strictness only removes the outcome of a decision: its strict run has the outcome of the
lenient one, or it tells that a value cannot be converted to the type of its column. -/
def StrictnessOnlyRemoves (definition : DecisionDefinition) (policy : String) (context : Context) :
    Prop :=
  definition.run ⟨policy, true⟩ context = definition.run ⟨policy, false⟩ context ∨
    ∃ value shown error, definition.Refuses policy context value shown error ∧
      error.fault? = none ∧ definition.run ⟨policy, true⟩ context = .error error

/-- Strictness only removes the outcome of a decision exactly if it does not stop at a refused value
that cannot be reported, because the value or one of the variables that its report shows is too long
to be written, where the lenient run ends differently. -/
theorem strictnessOnlyRemoves_iff (definition : DecisionDefinition) (policy : String)
    (context : Context) :
    definition.StrictnessOnlyRemoves policy context ↔
      ∀ value shown error, definition.Refuses policy context value shown error →
        definition.run ⟨policy, true⟩ context = .error error →
        value.Unwritable ∨ Value.Unwritable (.map shown) →
          definition.run ⟨policy, true⟩ context = definition.run ⟨policy, false⟩ context := by
  constructor
  · intro removes value shown error refuses stopped unwritable
    rcases removes with same | ⟨_, _, told, _, plain, ended⟩
    · exact same
    · obtain rfl : told = error := Except.error.inj (ended.symm.trans stopped)
      exact absurd unwritable (refuses.fault?_eq_none_iff.mp plain)
  · intro reported
    have follows : Follows _ (definition.run ⟨policy, true⟩ context)
      (definition.run ⟨policy, false⟩ context) := follows_run
    rcases follows.eq_or_stopped with same | ⟨error, ⟨value, shown, refuses⟩, stopped⟩
    · exact .inl same
    · by_cases unwritable : value.Unwritable ∨ Value.Unwritable (.map shown)
      · exact .inl (reported value shown error refuses stopped unwritable)
      · exact .inr ⟨value, shown, error, refuses,
          refuses.fault?_eq_none_iff.mpr unwritable, stopped⟩

def mistyped : DecisionDefinition :=
  ⟨"mistyped", none, .decisionTable,
    some (.decisionTable ⟨none, some "FIRST", none, [], [⟨none, none, none, some "integer", []⟩],
      [⟨none, none, [], ["\"abc\""]⟩]⟩), []⟩

/-- The compiled form of the decision that gives a text for an integer. -/
def mistypedTable (strict : Bool) : CompiledTable where
  decisionId := "mistyped"
  decisionName := none
  hitPolicy := .first
  aggregation := none
  inputs := []
  outputs := [⟨"output0", "mistyped", none, some "integer", []⟩]
  rules := [⟨"rule0", 0, none, [], [⟨"\"abc\"", .literal (.text "abc")⟩]⟩]
  strict := strict

theorem mistyped_compile (strict : Bool) :
    mistyped.compile ⟨"UNIQUE", strict⟩ = .ok (mistypedTable strict) := by
  have recognised : HitPolicy.parse (some "FIRST") none "UNIQUE" = .ok (.first, none) :=
    HitPolicy.parse_plain "FIRST" (by decide +kernel) rfl rfl
  have integer : TypeRef.normalize "integer" = some "integer" := by decide +kernel
  refine compile_eq_ok rfl rfl ?_ rfl ?_ (fun uses => nomatch uses) ?_
  · exact Compile.hitPolicy_eq_ok recognised fun aggregated => nomatch aggregated
  · simp only [mistyped, Compile.outputs, Compile.outputsFrom, Option.bind_some, integer]
    rfl
  · cbv

/-- The strict run stops at the text. -/
theorem mistyped_stops (context : Context) :
    ∃ report, mistyped.Refuses "UNIQUE" context (.text "abc") context.bindings report ∧
      mistyped.run ⟨"UNIQUE", true⟩ context = .error report := by
  have member : (⟨"rule0", 0, none, [], [⟨"\"abc\"", .literal (.text "abc")⟩]⟩ : CompiledRule) ∈
      (mistypedTable true).rules := List.mem_cons_self
  refine ⟨_, .evaluating (mistyped_compile true) (.output member List.mem_cons_self rfl rfl), ?_⟩
  rw [run, mistyped_compile]
  rfl

/-- The lenient run keeps the text. -/
theorem mistyped_lenient (context : Context) : mistyped.run ⟨"UNIQUE", false⟩ context =
    .ok ⟨[⟨[⟨"mistyped", .text "abc", some "integer"⟩]⟩]⟩ := by
  rw [run, mistyped_compile]
  rfl

/-- A variable that is too long to be written hides that a value is refused, which the lenient run
keeps. -/
theorem mistyped_not_strictnessOnlyRemoves :
    ¬mistyped.StrictnessOnlyRemoves "UNIQUE" CompiledTable.unwritten := by
  intro removes
  obtain ⟨report, refuses, stopped⟩ := mistyped_stops CompiledTable.unwritten
  have same := (strictnessOnlyRemoves_iff mistyped "UNIQUE" CompiledTable.unwritten).mp removes
    _ _ report refuses stopped (.inr CompiledTable.unwritable_unwritten)
  rw [stopped, mistyped_lenient] at same
  cases same

end DecisionDefinition

end DecisionTables
