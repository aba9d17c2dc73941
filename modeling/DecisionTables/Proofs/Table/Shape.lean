import DecisionTables.Proofs.Outcome

/-!
# The shape of compiled tables

What compilation guarantees about a table that it accepts, whatever its cells say: every column has
an id, every rule has one condition for each input column and one expression for each output column,
and only a collecting table with a single output column is aggregated. Evaluation relies on these
facts and never checks them again.
-/

namespace DecisionTables

namespace Compile

variable {options : CompilerOptions} {decisionId ruleId : String}

theorem idOr_ne_empty (id : Option String) (kind : String) (index : Nat) (named : kind ≠ "") :
    idOr id kind index ≠ "" := by
  have generated : kind ++ toString index ≠ "" := by
    intro equal
    exact named (String.append_eq_empty_iff.mp equal).1
  cases id with
  | none => exact generated
  | some text =>
      simp only [idOr]
      split
      · exact generated
      · rename_i nonempty
        intro equal
        exact nonempty (by simp [equal])

/-- A compiled rule has one condition and one expression for each column. -/
theorem rule_lengths {inputs : List CompiledInput} {outputs : List CompiledOutput} {index : Nat}
    {definition : RuleDefinition} {compiled : CompiledRule}
    (succeeded : rule decisionId inputs outputs index definition = .ok compiled) :
    compiled.conditions.length = inputs.length ∧ compiled.outputs.length = outputs.length := by
  simp only [rule] at succeeded
  split at succeeded
  · cases succeeded
  · rename_i inputCount
    split at succeeded
    · cases succeeded
    · rename_i outputCount
      simp only [Except.bind_eq_ok_iff, Except.pure_eq_ok, Except.ok.injEq] at succeeded
      rcases succeeded with ⟨conditions, tested, expressions, given, rfl⟩
      rw [← List.length_map CompiledInput.id, ← List.length_map CompiledOutput.id]
      exact ⟨forCells_length tested (by simpa using inputCount),
        forCells_length given (by simpa using outputCount)⟩

end Compile

namespace CompiledTable

/-- What every compiled table is like. -/
structure WellShaped (table : CompiledTable) : Prop where
  input_id : ∀ column ∈ table.inputs, column.id ≠ ""
  output_id : ∀ column ∈ table.outputs, column.id ≠ ""
  conditions : ∀ rule ∈ table.rules, rule.conditions.length = table.inputs.length
  outputs : ∀ rule ∈ table.rules, rule.outputs.length = table.outputs.length
  aggregation : table.aggregation.isSome → table.outputs.length = 1

end CompiledTable

namespace HitPolicy

variable {policy : Option String} {default : String} {recognised : HitPolicy}

/-- The policy of a word that names no aggregation. -/
theorem parse_plain (word : String) (named : token policy default = word)
    (plain : Aggregation.ofShorthand? word = none) (known : ofToken? word = some recognised) :
    parse policy none default = .ok (recognised, none) := by
  have absent : (Text.upper (Text.trim ((none : Option String).getD ""))).isEmpty = true := by
    decide +kernel
  unfold parse
  simp only [named, plain, known, absent, if_true]

/-- The collecting policy together with the aggregation that a sign names. -/
theorem parse_collect {text : String} {aggregation : Aggregation} (word sign : String)
    (named : token policy default = word) (plain : Aggregation.ofShorthand? word = none)
    (known : ofToken? word = some .collect) (signed : Text.upper (Text.trim text) = sign)
    (nonempty : sign.isEmpty = false) (found : Aggregation.ofToken? sign = some aggregation) :
    parse policy (some text) default = .ok (.collect, some aggregation) := by
  unfold parse
  simp only [named, plain, known, Option.getD_some, signed, nonempty, found,
    Bool.false_eq_true, if_false, if_true]

end HitPolicy

namespace Compile

variable {options : CompilerOptions} {decisionId : String}

theorem input_id {index : Nat} {clause : InputClause} {column : CompiledInput}
    (compiled : input decisionId index clause = .ok column) : column.id ≠ "" := by
  simp only [input, Except.bind_eq_ok_iff, Except.pure_eq_ok, Except.ok.injEq] at compiled
  rcases compiled with ⟨expression, _, rfl⟩
  exact idOr_ne_empty clause.id "input" index (by decide)

theorem outputsFrom_id {single : Bool} {index : Nat} {seen : List String}
    {clauses : List OutputClause} {columns : List CompiledOutput}
    (compiled : outputsFrom options decisionId single index seen clauses = .ok columns) :
    ∀ column ∈ columns, column.id ≠ "" := by
  induction clauses generalizing index seen columns with
  | nil =>
      cases compiled
      simp
  | cons clause rest ih =>
      simp only [outputsFrom, Except.bind_eq_ok_iff] at compiled
      rcases compiled with ⟨name, _, compiled⟩
      split at compiled
      · cases compiled
      · simp only [Except.bind_eq_ok_iff, Except.pure_eq_ok, Except.ok.injEq] at compiled
        rcases compiled with ⟨priorities, _, others, remaining, rfl⟩
        intro column member
        cases member with
        | head => exact idOr_ne_empty clause.id "output" index (by decide)
        | tail _ member => exact ih remaining column member

theorem outputsFrom_length {single : Bool} {index : Nat} {seen : List String}
    {clauses : List OutputClause} {columns : List CompiledOutput}
    (compiled : outputsFrom options decisionId single index seen clauses = .ok columns) :
    columns.length = clauses.length := by
  induction clauses generalizing index seen columns with
  | nil =>
      cases compiled
      rfl
  | cons clause rest ih =>
      simp only [outputsFrom, Except.bind_eq_ok_iff] at compiled
      rcases compiled with ⟨name, _, compiled⟩
      split at compiled
      · cases compiled
      · simp only [Except.bind_eq_ok_iff, Except.pure_eq_ok, Except.ok.injEq] at compiled
        rcases compiled with ⟨priorities, _, others, remaining, rfl⟩
        simpa using ih remaining

/-- A hit policy is only recognised together with an aggregation if there is one output column. -/
theorem hitPolicy_outputs {logic : TableLogic} {policy : HitPolicy}
    {aggregation : Option Aggregation}
    (recognised : hitPolicy options decisionId logic = .ok (policy, aggregation))
    (aggregated : aggregation.isSome) : logic.outputs.length = 1 := by
  unfold hitPolicy at recognised
  -- The tokens are not looked into: unfolding them would unfold the tables of letter case.
  generalize HitPolicy.parse logic.hitPolicy logic.aggregation options.defaultHitPolicy = named
    at recognised
  split at recognised
  · cases recognised
  · cases recognised
    cases aggregated
  · split at recognised
    · assumption
    · cases recognised

/-- Attributes that name a hit policy give it, with an aggregation only for one output column. -/
theorem hitPolicy_eq_ok {logic : TableLogic} {policy : HitPolicy} {aggregation : Option Aggregation}
    (recognised : HitPolicy.parse logic.hitPolicy logic.aggregation options.defaultHitPolicy =
      .ok (policy, aggregation))
    (single : aggregation.isSome → logic.outputs.length = 1) :
    hitPolicy options decisionId logic = .ok (policy, aggregation) := by
  unfold hitPolicy
  rw [recognised]
  cases aggregation with
  | none => rfl
  | some aggregation => exact if_pos (single rfl)

/-- What a compiled table is made of: the parts of the logic of a decision, compiled one by one. -/
structure Makes (options : CompilerOptions) (definition : DecisionDefinition) (logic : TableLogic)
    (table : CompiledTable) : Prop where
  payload : definition.logic = some (.decisionTable logic)
  recognised : hitPolicy options definition.id logic = .ok (table.hitPolicy, table.aggregation)
  asked : forAllFrom (input definition.id) 0 logic.inputs = .ok table.inputs
  declared : outputs options definition.id logic.outputs = .ok table.outputs
  given : forAllFrom (rule definition.id table.inputs table.outputs) 0 logic.rules = .ok table.rules
  strict : table.strict = options.strict

/-- A table that is made of compiled parts is well shaped. -/
theorem Makes.wellShaped {definition : DecisionDefinition} {logic : TableLogic}
    {table : CompiledTable} (makes : Makes options definition logic table) : table.WellShaped := by
  have lengths : ∀ rule ∈ table.rules,
      rule.conditions.length = table.inputs.length ∧
        rule.outputs.length = table.outputs.length := by
    intro rule member
    obtain ⟨index, definition, _, compiled⟩ := forAllFrom_mem makes.given member
    exact rule_lengths compiled
  refine ⟨?_, outputsFrom_id makes.declared, fun rule member => (lengths rule member).1,
    fun rule member => (lengths rule member).2, ?_⟩
  · intro column member
    obtain ⟨index, clause, _, compiled⟩ := forAllFrom_mem makes.asked member
    exact input_id compiled
  · intro aggregated
    have single := hitPolicy_outputs makes.recognised aggregated
    have counted := outputsFrom_length makes.declared
    exact counted.trans single

end Compile

/-- A decision whose parts compile gives the table of these parts. -/
theorem DecisionDefinition.compile_eq_ok {options : CompilerOptions}
    {definition : DecisionDefinition} {logic : TableLogic} {policy : HitPolicy}
    {aggregation : Option Aggregation} {inputs : List CompiledInput}
    {outputs : List CompiledOutput} {rules : List CompiledRule}
    (variant : definition.variant = .decisionTable)
    (payload : definition.logic = some (.decisionTable logic))
    (recognised : Compile.hitPolicy options definition.id logic = .ok (policy, aggregation))
    (asked : Compile.forAllFrom (Compile.input definition.id) 0 logic.inputs = .ok inputs)
    (declared : Compile.outputs options definition.id logic.outputs = .ok outputs)
    (ranked : policy.usesPriorities = true →
      ∃ output ∈ outputs, output.priorities.isEmpty = false)
    (given : Compile.forAllFrom (Compile.rule definition.id inputs outputs) 0 logic.rules =
      .ok rules) :
    definition.compile options = .ok ⟨definition.id, definition.name, policy, aggregation, inputs,
      outputs, rules, options.strict⟩ := by
  have needed : (policy.usesPriorities &&
      outputs.all fun output => output.priorities.isEmpty) = false := by
    cases uses : policy.usesPriorities with
    | false => rfl
    | true =>
        obtain ⟨output, member, nonempty⟩ := ranked uses
        rw [Bool.true_and, List.all_eq_false]
        exact ⟨output, member, by simp [nonempty]⟩
  simp only [DecisionDefinition.compile, variant, payload, ne_eq, not_true_eq_false, if_false,
    Compile.table, recognised, asked, declared, needed, given, Except.ok_bind,
    Bool.false_eq_true, Except.pure_eq_ok]

/-- Compilation makes a table of the compiled parts of the decision. -/
theorem DecisionDefinition.makes_of_compile {options : CompilerOptions}
    {definition : DecisionDefinition} {table : CompiledTable}
    (compiled : definition.compile options = .ok table) :
    ∃ logic, Compile.Makes options definition logic table := by
  simp only [DecisionDefinition.compile] at compiled
  split at compiled
  · cases compiled
  · split at compiled
    · rename_i logic payload
      simp only [Compile.table, Except.bind_eq_ok_iff] at compiled
      obtain ⟨⟨policy, aggregation⟩, recognised, inputs, asked, outputs, declared, compiled⟩ :=
        compiled
      split at compiled
      · cases compiled
      · simp only [Except.bind_eq_ok_iff, Except.pure_eq_ok, Except.ok.injEq] at compiled
        obtain ⟨rules, given, rfl⟩ := compiled
        exact ⟨logic, payload, recognised, asked, declared, given, rfl⟩
    · cases compiled

/-- Compilation gives well-shaped tables only. -/
theorem DecisionDefinition.compile_wellShaped {options : CompilerOptions}
    {definition : DecisionDefinition} {table : CompiledTable}
    (compiled : definition.compile options = .ok table) : table.WellShaped := by
  obtain ⟨_, makes⟩ := makes_of_compile compiled
  exact makes.wellShaped

/-- A table is as strict as its compilation. -/
theorem DecisionDefinition.strict_of_compile {options : CompilerOptions}
    {definition : DecisionDefinition} {table : CompiledTable}
    (compiled : definition.compile options = .ok table) : table.strict = options.strict := by
  obtain ⟨_, makes⟩ := makes_of_compile compiled
  exact makes.strict

end DecisionTables
