import DecisionTables.Proofs.Expression.Numerals
import DecisionTables.Proofs.Table.Breakdown

/-!
# Where compilation breaks down

A decision that does not compile is reported with its id. There is one way around the report: what
compilation asks for may be without a result, which no error of the language tells. The texts of all
cells are read, and allowed values are evaluated and brought to the type of their column. This module
names what compilation comes to ask for, in its order and up to the first problem.
-/

namespace DecisionTables

/-- What compilation asks for that may be without a result. -/
inductive Demand where
  | reading (text : String)
  | evaluating (operation : Operation)

/-- Whether what is asked for has no result. -/
def Demand.Undefined : Demand → Prop
  | .reading text => Text.HasOverlongNumeral text
  | .evaluating operation => operation.Undefined

namespace Compile

variable {options : CompilerOptions} {decisionId columnId : String}

/-! ## Readings -/

theorem breaks_ofRead_iff {α : Type} {ruleId : Option String} {outcome : Except ReadError α} :
    Breaks (ofRead decisionId ruleId columnId outcome) ↔ Breaks outcome := by
  rcases outcome with (error | fault) | value
  · refine iff_of_false ?_ not_breaks_invalid
    rintro ⟨_, ⟨⟩⟩
  · exact iff_of_true ⟨fault, rfl⟩ breaks_readFault
  · simp [ofRead]

theorem breaks_input_iff {index : Nat} {clause : InputClause} :
    Breaks (input decisionId index clause) ↔ Text.HasOverlongNumeral clause.expression := by
  simp only [input, breaks_bind, breaks_ofRead_iff, breaks_expression_iff, Except.pure_eq_ok,
    not_breaks_ok, and_false, exists_false, or_false]

/-! ## Allowed values -/

/-- What the allowed value of a text asks for. In strict mode a value that its column refuses is
written in the report. -/
inductive DemandsConstant (strict : Bool) (typeRef : Option String) (text : String) : Demand → Prop
  | reading : DemandsConstant strict typeRef text (.reading text)
  | evaluation {expression : CompiledExpression} {attempted : Operation} :
      CompiledExpression.compile text = .ok expression →
      expression.body.Attempts ⟨.ofBindings [], .null⟩ attempted →
      DemandsConstant strict typeRef text (.evaluating attempted)
  | refusal {expression : CompiledExpression} {value : Value} :
      CompiledExpression.compile text = .ok expression →
      expression.evaluate (.ofBindings []) = .ok value →
      strict = true → value.convert? typeRef = none →
      DemandsConstant strict typeRef text (.evaluating (.writing value))

/-- Without variables there is nothing to be written when an expression fails. -/
theorem not_unwritable_nil : ¬Value.Unwritable (.map (Context.ofBindings []).bindings) :=
  Bindings.breaks_snapshot_iff.not.mp not_breaks_ok

theorem breaks_evaluate_nil_iff {expression : CompiledExpression} :
    Breaks (expression.evaluate (.ofBindings [])) ↔
      ∃ attempted, expression.body.Attempts ⟨.ofBindings [], .null⟩ attempted ∧
        attempted.Undefined := by
  rw [CompiledExpression.evaluate, breaks_ofCell_iff, Expression.breaks_evaluate_iff]
  simp only [not_unwritable_nil, and_false, or_false]

@[simp] theorem not_breaks_problem {α : Type} {problem : TableProblem} :
    ¬Breaks (.error (.problem decisionId problem) : Compiled α) := by
  intro impossible
  rcases impossible with ⟨_, ⟨⟩⟩

theorem breaks_constant_iff {typeRef : Option String} {text : String} :
    Breaks (constant options decisionId columnId typeRef text) ↔
      ∃ demand, DemandsConstant options.strict typeRef text demand ∧ demand.Undefined := by
  simp only [constant, breaks_bind, breaks_ofRead_iff, breaks_expression_iff, ofRead_eq_ok_iff]
  constructor
  · intro broken
    rcases broken with overlong | ⟨expression, read, broken⟩
    · exact ⟨_, .reading, overlong⟩
    · rcases evaluated : expression.evaluate (.ofBindings []) with (error | fault) | value
      · simp [evaluated] at broken
      · obtain ⟨attempted, attempts, undefined⟩ := breaks_evaluate_nil_iff.mp ⟨fault, evaluated⟩
        exact ⟨_, .evaluation read attempts, undefined⟩
      -- What breaks down after the value is there is the report that its column refuses it.
      · have refused : Breaks (value.coerce options.strict typeRef) := by
          rcases coerced : value.coerce options.strict typeRef with (error | fault) | converted
          · simp [evaluated, coerced] at broken
          · exact ⟨fault, rfl⟩
          · simp [evaluated, coerced] at broken
        obtain ⟨strict, unconverted, unwritable⟩ := Value.breaks_coerce_iff.mp refused
        exact ⟨_, .refusal read evaluated strict unconverted, unwritable⟩
  · intro found
    obtain ⟨demand, demands, undefined⟩ := found
    cases demands with
    | reading => exact .inl undefined
    | evaluation read attempts =>
        obtain ⟨fault, broken⟩ := breaks_evaluate_nil_iff.mpr ⟨_, attempts, undefined⟩
        refine .inr ⟨_, read, fault, ?_⟩
        rw [broken]
        rfl
    | refusal read evaluated strict unconverted =>
        obtain ⟨fault, broken⟩ := Value.breaks_coerce_iff.mpr ⟨strict, unconverted, undefined⟩
        refine .inr ⟨_, read, fault, ?_⟩
        rw [evaluated]
        simp only [broken]
        rfl

theorem breaks_constants_iff {typeRef : Option String} {texts : List String} :
    Breaks (constants options decisionId columnId typeRef texts) ↔
      ∃ text, Reaches (constant options decisionId columnId typeRef) texts text ∧
        Breaks (constant options decisionId columnId typeRef text) := by
  induction texts with
  | nil => exact iff_of_false not_breaks_ok not_reaches_nil
  | cons text rest ih =>
      simp only [constants, breaks_bind, Except.pure_eq_ok, not_breaks_ok, and_false, exists_false,
        or_false, ih, reaches_cons_iff]

/-! ## Rules -/

theorem breaks_condition_iff {ruleId text : String} :
    Breaks (condition decisionId ruleId columnId text) ↔
      isWildcardEntry text = false ∧ Text.HasOverlongNumeral text := by
  rw [condition]
  cases isWildcardEntry text with
  | true => simp
  | false => simp [breaks_ofRead_iff, breaks_tests_iff]

theorem breaks_outputEntry_iff {ruleId text : String} :
    Breaks (outputEntry decisionId ruleId columnId text) ↔ Text.HasOverlongNumeral text := by
  rw [outputEntry, breaks_ofRead_iff, breaks_expression_iff]

/-- What a rule asks for in a table with given columns. The entries are read from left to right, once
they are as many as the columns. -/
inductive DemandsRule (decisionId : String) (inputs : List CompiledInput)
    (outputs : List CompiledOutput) (index : Nat) (definition : RuleDefinition) : Demand → Prop
  | condition {cell : String × String} :
      definition.inputEntries.length = inputs.length →
      definition.outputEntries.length = outputs.length →
      Reaches (fun cell => Compile.condition decisionId (idOr definition.id "rule" index) cell.1
        cell.2) ((inputs.map CompiledInput.id).zip definition.inputEntries) cell →
      isWildcardEntry cell.2 = false →
      DemandsRule decisionId inputs outputs index definition (.reading cell.2)
  | output {conditions : List (Option CompiledTests)} {cell : String × String} :
      definition.inputEntries.length = inputs.length →
      definition.outputEntries.length = outputs.length →
      forCells (Compile.condition decisionId (idOr definition.id "rule" index))
        (inputs.map CompiledInput.id) definition.inputEntries = .ok conditions →
      Reaches (fun cell => outputEntry decisionId (idOr definition.id "rule" index) cell.1 cell.2)
        ((outputs.map CompiledOutput.id).zip definition.outputEntries) cell →
      DemandsRule decisionId inputs outputs index definition (.reading cell.2)

theorem breaks_rule_iff {inputs : List CompiledInput} {outputs : List CompiledOutput} {index : Nat}
    {definition : RuleDefinition} :
    Breaks (rule decisionId inputs outputs index definition) ↔
      ∃ demand, DemandsRule decisionId inputs outputs index definition demand ∧
        demand.Undefined := by
  constructor
  · intro broken
    simp only [rule] at broken
    split at broken
    · exact absurd broken not_breaks_problem
    · rename_i inputCount
      split at broken
      · exact absurd broken not_breaks_problem
      · rename_i outputCount
        have inputCount := Decidable.not_not.mp inputCount
        have outputCount := Decidable.not_not.mp outputCount
        simp only [breaks_bind, breaks_forCells_iff, breaks_condition_iff, breaks_outputEntry_iff,
          Except.pure_eq_ok, not_breaks_ok, and_false, exists_false, or_false] at broken
        rcases broken with ⟨cell, reached, ordinary, overlong⟩ | ⟨conditions, tested, cell, reached,
          overlong⟩
        · exact ⟨_, .condition inputCount outputCount reached ordinary, overlong⟩
        · exact ⟨_, .output inputCount outputCount tested reached, overlong⟩
  · intro found
    obtain ⟨demand, demands, undefined⟩ := found
    cases demands with
    | condition inputCount outputCount reached ordinary =>
        simp only [rule, inputCount, outputCount, ne_eq, not_true_eq_false, if_false, breaks_bind,
          breaks_forCells_iff, breaks_condition_iff]
        exact .inl ⟨_, reached, ordinary, undefined⟩
    | output inputCount outputCount tested reached =>
        simp only [rule, inputCount, outputCount, ne_eq, not_true_eq_false, if_false, breaks_bind,
          breaks_forCells_iff, breaks_outputEntry_iff]
        exact .inr ⟨_, tested, .inl ⟨_, reached, undefined⟩⟩

/-! ## Output columns -/

/-- What output columns ask for, given the names of the columns before them. A column asks for its
allowed values once it has a name of its own. -/
inductive DemandsOutputs (options : CompilerOptions) (decisionId : String) (single : Bool) :
    Nat → List String → List OutputClause → Demand → Prop
  | value {index : Nat} {seen : List String} {clause : OutputClause} {rest : List OutputClause}
      {name text : String} {demand : Demand} :
      outputName decisionId single index clause = .ok name → seen.contains name = false →
      Reaches (constant options decisionId (idOr clause.id "output" index)
        (clause.typeRef.bind TypeRef.normalize)) clause.outputValues text →
      DemandsConstant options.strict (clause.typeRef.bind TypeRef.normalize) text demand →
      DemandsOutputs options decisionId single index seen (clause :: rest) demand
  | later {index : Nat} {seen : List String} {clause : OutputClause} {rest : List OutputClause}
      {name : String} {priorities : List Value} {demand : Demand} :
      outputName decisionId single index clause = .ok name → seen.contains name = false →
      constants options decisionId (idOr clause.id "output" index)
        (clause.typeRef.bind TypeRef.normalize) clause.outputValues = .ok priorities →
      DemandsOutputs options decisionId single (index + 1) (name :: seen) rest demand →
      DemandsOutputs options decisionId single index seen (clause :: rest) demand

theorem not_breaks_outputName {single : Bool} {index : Nat} {clause : OutputClause} :
    ¬Breaks (outputName decisionId single index clause) := by
  rw [outputName]
  split
  · exact not_breaks_ok
  · split
    · exact not_breaks_ok
    · exact not_breaks_problem

theorem breaks_outputsFrom_iff {single : Bool} {index : Nat} {seen : List String}
    {clauses : List OutputClause} :
    Breaks (outputsFrom options decisionId single index seen clauses) ↔
      ∃ demand, DemandsOutputs options decisionId single index seen clauses demand ∧
        demand.Undefined := by
  induction clauses generalizing index seen with
  | nil =>
      refine iff_of_false not_breaks_ok ?_
      rintro ⟨_, ⟨⟩, _⟩
  | cons clause rest ih =>
      simp only [outputsFrom, breaks_bind, not_breaks_outputName, false_or]
      constructor
      · intro broken
        obtain ⟨name, named, broken⟩ := broken
        split at broken
        · exact absurd broken not_breaks_problem
        · rename_i fresh
          rw [Bool.not_eq_true] at fresh
          simp only [breaks_bind, breaks_constants_iff, breaks_constant_iff, ih, Except.pure_eq_ok,
            not_breaks_ok, and_false, exists_false, or_false] at broken
          rcases broken with ⟨text, reached, demand, demands, undefined⟩ | ⟨priorities, allowed,
            demand, demands, undefined⟩
          · exact ⟨demand, .value named fresh reached demands, undefined⟩
          · exact ⟨demand, .later named fresh allowed demands, undefined⟩
      · intro found
        obtain ⟨demand, demands, undefined⟩ := found
        cases demands with
        | value named fresh reached demands =>
            refine ⟨_, named, ?_⟩
            simp only [fresh, Bool.false_eq_true, if_false, breaks_bind, breaks_constants_iff,
              breaks_constant_iff]
            exact .inl ⟨_, reached, _, demands, undefined⟩
        | later named fresh allowed demands =>
            refine ⟨_, named, ?_⟩
            simp only [fresh, Bool.false_eq_true, if_false, breaks_bind, ih]
            exact .inr ⟨_, allowed, .inl ⟨_, demands, undefined⟩⟩

/-! ## Tables -/

/-- What a decision table asks for: its parts one after the other, up to the first with a problem. -/
inductive Demands (options : CompilerOptions) (definition : DecisionDefinition)
    (logic : TableLogic) : Demand → Prop
  | input {named : HitPolicy × Option Aggregation} {item : InputClause × Nat} :
      hitPolicy options definition.id logic = .ok named →
      Reaches (fun item => Compile.input definition.id item.2 item.1) logic.inputs.zipIdx item →
      Demands options definition logic (.reading item.1.expression)
  | output {named : HitPolicy × Option Aggregation} {inputs : List CompiledInput}
      {demand : Demand} :
      hitPolicy options definition.id logic = .ok named →
      forAllFrom (Compile.input definition.id) 0 logic.inputs = .ok inputs →
      DemandsOutputs options definition.id (decide (logic.outputs.length ≤ 1)) 0 [] logic.outputs
        demand →
      Demands options definition logic demand
  | rule {named : HitPolicy × Option Aggregation} {inputs : List CompiledInput}
      {outputs : List CompiledOutput} {item : RuleDefinition × Nat} {demand : Demand} :
      hitPolicy options definition.id logic = .ok named →
      forAllFrom (Compile.input definition.id) 0 logic.inputs = .ok inputs →
      Compile.outputs options definition.id logic.outputs = .ok outputs →
      (named.1.usesPriorities && outputs.all fun output => output.priorities.isEmpty) = false →
      Reaches (fun item => Compile.rule definition.id inputs outputs item.2 item.1)
        logic.rules.zipIdx item →
      DemandsRule definition.id inputs outputs item.2 item.1 demand →
      Demands options definition logic demand

theorem not_breaks_hitPolicy {logic : TableLogic} :
    ¬Breaks (hitPolicy options decisionId logic) := by
  unfold hitPolicy
  -- The tokens are not looked into: unfolding them would unfold the tables of letter case.
  generalize HitPolicy.parse logic.hitPolicy logic.aggregation options.defaultHitPolicy = named
  split
  · exact not_breaks_problem
  · exact not_breaks_ok
  · split
    · exact not_breaks_ok
    · exact not_breaks_problem

theorem breaks_table_iff {definition : DecisionDefinition} {logic : TableLogic} :
    Breaks (table options definition logic) ↔
      ∃ demand, Demands options definition logic demand ∧ demand.Undefined := by
  simp only [table, breaks_bind, not_breaks_hitPolicy, false_or, breaks_forAllFrom_iff,
    breaks_input_iff]
  constructor
  · intro broken
    obtain ⟨named, recognised, ⟨item, reached, overlong⟩ | ⟨inputs, asked, broken⟩⟩ := broken
    · exact ⟨_, .input recognised reached, overlong⟩
    · rcases broken with broken | ⟨outputs, declared, broken⟩
      · obtain ⟨demand, demands, undefined⟩ := breaks_outputsFrom_iff.mp broken
        exact ⟨demand, .output recognised asked demands, undefined⟩
      · split at broken
        · exact absurd broken not_breaks_problem
        · rename_i ranked
          rw [Bool.not_eq_true] at ranked
          simp only [breaks_bind, breaks_forAllFrom_iff, breaks_rule_iff, Except.pure_eq_ok,
            not_breaks_ok, and_false, exists_false, or_false] at broken
          obtain ⟨item, reached, demand, demands, undefined⟩ := broken
          exact ⟨demand, .rule recognised asked declared ranked reached demands, undefined⟩
  · intro found
    obtain ⟨demand, demands, undefined⟩ := found
    cases demands with
    | input recognised reached => exact ⟨_, recognised, .inl ⟨_, reached, undefined⟩⟩
    | output recognised asked demands =>
        exact ⟨_, recognised, .inr ⟨_, asked,
          .inl (breaks_outputsFrom_iff.mpr ⟨demand, demands, undefined⟩)⟩⟩
    | rule recognised asked declared ranked reached demands =>
        refine ⟨_, recognised, .inr ⟨_, asked, .inr ⟨_, declared, ?_⟩⟩⟩
        simp only [ranked, Bool.false_eq_true, if_false, breaks_bind, breaks_forAllFrom_iff,
          breaks_rule_iff]
        exact .inl ⟨_, reached, demand, demands, undefined⟩

end Compile

/-! ## Decisions -/

namespace DecisionDefinition

variable {options : CompilerOptions} {definition : DecisionDefinition}

/-- What a decision asks for: nothing, if its logic is not that of a table. -/
def Demands (options : CompilerOptions) (definition : DecisionDefinition) (demand : Demand) : Prop :=
  ∃ logic, definition.variant = .decisionTable ∧
    definition.logic = some (.decisionTable logic) ∧ Compile.Demands options definition logic demand

theorem breaks_compile_iff :
    Breaks (definition.compile options) ↔
      ∃ demand, definition.Demands options demand ∧ demand.Undefined := by
  constructor
  · intro broken
    rw [compile] at broken
    split at broken
    · obtain ⟨_, ⟨⟩⟩ := broken
    · rename_i variant
      split at broken
      · rename_i logic payload
        obtain ⟨demand, demands, undefined⟩ := Compile.breaks_table_iff.mp broken
        exact ⟨demand, ⟨logic, Decidable.not_not.mp variant, payload, demands⟩, undefined⟩
      · exact absurd broken Compile.not_breaks_problem
  · intro found
    obtain ⟨demand, ⟨logic, variant, payload, demands⟩, undefined⟩ := found
    simp only [compile, variant, payload, ne_eq, not_true_eq_false, if_false]
    exact Compile.breaks_table_iff.mpr ⟨demand, demands, undefined⟩

end DecisionDefinition

end DecisionTables
