import Mathlib.Data.List.Nodup
import DecisionTables.Proofs.Table.Reflection

/-!
# Which decisions compile

The checks of compilation are spread over the parts of a decision table and are made in the order of
these parts. Here they are stated at once, as conditions on the declaration: a decision compiles
exactly if it is well formed, and the table is then in every part what the declaration says.
-/

namespace DecisionTables

/-! ## Results for all items of a list -/

section Lists

variable {α β γ : Type}

/-- There are related results for a list exactly if there is one for every item. -/
theorem exists_forall₂_iff {Related : α → β → Prop} {items : List α} :
    (∃ results, List.Forall₂ Related items results) ↔
      ∀ item ∈ items, ∃ result, Related item result := by
  induction items with
  | nil => simp
  | cons item rest ih =>
      rw [List.forall_mem_cons, ← ih]
      constructor
      · intro shown
        rcases shown with ⟨_, _ | ⟨first, others⟩⟩
        exact ⟨⟨_, first⟩, _, others⟩
      · intro shown
        obtain ⟨⟨_, first⟩, _, others⟩ := shown
        exact ⟨_, .cons first others⟩

/-- There are related results for a numbered list exactly if there can be one for every item, where
the number has no say in that. -/
theorem exists_forall₂_zipIdx_iff {Related : α → Nat → β → Prop} {Possible : α → Prop}
    {items : List α}
    (each : ∀ item index, (∃ result, Related item index result) ↔ Possible item) :
    (∃ results, List.Forall₂ (fun item result => Related item.1 item.2 result) items.zipIdx
      results) ↔ ∀ item ∈ items, Possible item := by
  rw [← List.zipIdx_map_fst 0 items, List.forall_mem_map, List.zipIdx_map_fst]
  simp only [exists_forall₂_iff, each]

theorem length_of_forall₂_zipIdx {Related : α × Nat → β → Prop} {items : List α} {results : List β}
    (related : List.Forall₂ Related items.zipIdx results) : results.length = items.length := by
  rw [← related.length_eq, List.length_zipIdx]

/-- Numbered items whose images are those of their results have these images in the same order. -/
theorem map_eq_map_of_forall₂_zipIdx {image : α → γ} {other : β → γ} {items : List α}
    {results : List β}
    (same : List.Forall₂ (fun item result => other result = image item.1) items.zipIdx results) :
    results.map other = items.map image := by
  rw [← List.zipIdx_map_fst 0 items, List.map_map, ← List.forall₂_eq_eq_eq,
    List.forall₂_map_left_iff, List.forall₂_map_right_iff]
  exact same.flip

end Lists

/-! ## Well-formed declarations -/

/-- Whether a text has a constant value that, in strict mode, its column allows. -/
def IsAllowed (strict : Bool) (typeRef : Option String) (text : String) : Prop :=
  ∃ expression value, CompiledExpression.compile text = .ok expression ∧
    expression.evaluate (.ofBindings []) = .ok value ∧ (strict = true → (value.convert? typeRef).isSome)

/-- Whether a decision is well formed, where its attributes say how its rules combine. -/
structure DecisionDefinition.WellFormed (options : CompilerOptions) (definition : DecisionDefinition)
    (logic : TableLogic) (policy : HitPolicy) (abbreviated declared : Option Aggregation) :
    Prop where
  variant : definition.variant = .decisionTable
  payload : definition.logic = some (.decisionTable logic)
  attributes : logic.Says options.defaultHitPolicy policy abbreviated declared
  /-- An aggregation, however it is named, has one output column. -/
  aggregated : abbreviated.isSome ∨ declared.isSome → logic.outputs.length = 1
  named : 2 ≤ logic.outputs.length →
    ∀ clause ∈ logic.outputs, ∃ name, name ≠ "" ∧ clause.name = some name
  distinct : 2 ≤ logic.outputs.length → (logic.outputs.map OutputClause.name).Nodup
  /-- Priorities are needed where they decide. -/
  ranked : policy = .priority ∨ policy = .outputOrder →
    ∃ clause ∈ logic.outputs, clause.outputValues ≠ []
  allowed : ∀ clause ∈ logic.outputs, ∀ text ∈ clause.outputValues,
    IsAllowed options.strict (clause.typeRef.bind TypeRef.normalize) text
  counted : ∀ rule ∈ logic.rules, rule.inputEntries.length = logic.inputs.length ∧
    rule.outputEntries.length = logic.outputs.length
  asked : ∀ clause ∈ logic.inputs,
    ∃ expression, CompiledExpression.compile clause.expression = .ok expression
  tested : ∀ rule ∈ logic.rules, ∀ text ∈ rule.inputEntries, isWildcardEntry text = false →
    ∃ tests, CompiledTests.compile text = .ok tests
  given : ∀ rule ∈ logic.rules, ∀ text ∈ rule.outputEntries,
    ∃ expression, CompiledExpression.compile text = .ok expression

/-- What the logic of a decision becomes. -/
structure DecisionDefinition.Becomes (options : CompilerOptions) (definition : DecisionDefinition)
    (logic : TableLogic) (table : CompiledTable) : Prop where
  decisionId : table.decisionId = definition.id
  decisionName : table.decisionName = definition.name
  /-- The aggregation is the one that is named, in one way or the other. -/
  combining : ∃ abbreviated declared,
    logic.Says options.defaultHitPolicy table.hitPolicy abbreviated declared ∧
      (abbreviated = none ∨ declared = none) ∧ table.aggregation = abbreviated.or declared
  inputs : List.Forall₂ (fun item column => item.1.Becomes item.2 column) logic.inputs.zipIdx
    table.inputs
  outputs : List.Forall₂ (fun item column =>
      item.1.Becomes options.strict definition.id (logic.outputs.length ≤ 1) item.2 column)
    logic.outputs.zipIdx table.outputs
  rules : List.Forall₂ (fun item rule =>
      item.1.Becomes logic.inputs.length logic.outputs.length item.2 rule)
    logic.rules.zipIdx table.rules
  strict : table.strict = options.strict

/-! ## What the parts become -/

section Parts

variable {strict : Bool} {decisionId : String} {single : Prop} {index : Nat}

theorem exists_identified (kind : String) (index : Nat) (declared : Option String) :
    ∃ id, Identified kind index declared id :=
  ⟨_, identified_iff.mpr rfl⟩

theorem InputClause.exists_becomes_iff (clause : InputClause) (index : Nat) :
    (∃ column, clause.Becomes index column) ↔
      ∃ expression, CompiledExpression.compile clause.expression = .ok expression := by
  constructor
  · intro shown
    obtain ⟨column, becomes⟩ := shown
    exact ⟨_, becomes.expression⟩
  · intro shown
    obtain ⟨expression, read⟩ := shown
    obtain ⟨id, identified⟩ := exists_identified "input" index clause.id
    exact ⟨⟨id, clause.label, expression, _⟩, identified, rfl, read, rfl⟩

theorem exists_allowedValue_iff {typeRef : Option String} {text : String} :
    (∃ value, AllowedValue strict typeRef text value) ↔ IsAllowed strict typeRef text := by
  constructor
  · intro shown
    obtain ⟨value, allowed⟩ := shown
    cases allowed with
    | converted read evaluated converted =>
        exact ⟨_, _, read, evaluated, fun _ => by rw [converted]; rfl⟩
    | unconverted read evaluated _ lenient =>
        exact ⟨_, _, read, evaluated, fun strict => nomatch lenient.symm.trans strict⟩
  · intro shown
    obtain ⟨expression, value, read, evaluated, convertible⟩ := shown
    cases converted : value.convert? typeRef with
    | some result => exact ⟨result, .converted read evaluated converted⟩
    | none =>
        have lenient : strict = false := by
          cases strict with
          | false => rfl
          | true => exact nomatch converted ▸ convertible rfl
        exact ⟨value, .unconverted read evaluated converted lenient⟩

theorem exists_outputNamed_iff {declared : Option String} :
    (∃ name, OutputNamed decisionId single declared name) ↔
      single ∨ ∃ name, name ≠ "" ∧ declared = some name := by
  constructor
  · intro shown
    obtain ⟨name, named⟩ := shown
    cases named with
    | own nonempty => exact .inr ⟨name, nonempty, rfl⟩
    | empty alone => exact .inl alone
    | missing alone => exact .inl alone
  · intro shown
    rcases shown with alone | ⟨name, nonempty, rfl⟩
    · rcases declared with _ | text
      · exact ⟨_, .missing alone⟩
      · by_cases empty : text = ""
        · subst empty
          exact ⟨_, .empty alone⟩
        · exact ⟨_, .own empty⟩
    · exact ⟨name, .own nonempty⟩

theorem OutputClause.exists_becomes_iff (clause : OutputClause) (index : Nat) :
    (∃ column, clause.Becomes strict decisionId single index column) ↔
      (single ∨ ∃ name, name ≠ "" ∧ clause.name = some name) ∧
        ∀ text ∈ clause.outputValues,
          IsAllowed strict (clause.typeRef.bind TypeRef.normalize) text := by
  rw [← @exists_outputNamed_iff decisionId]
  simp only [← exists_allowedValue_iff, ← exists_forall₂_iff]
  constructor
  · intro shown
    obtain ⟨column, becomes⟩ := shown
    exact ⟨⟨_, becomes.name⟩, _, becomes.priorities⟩
  · intro shown
    obtain ⟨⟨name, named⟩, priorities, allowed⟩ := shown
    obtain ⟨id, identified⟩ := exists_identified "output" index clause.id
    exact ⟨⟨id, name, clause.label, _, priorities⟩, identified, named, rfl, rfl, allowed⟩

theorem exists_condition_iff {text : String} :
    (∃ condition, Condition text condition) ↔
      (isWildcardEntry text = false → ∃ tests, CompiledTests.compile text = .ok tests) := by
  constructor
  · intro shown ordinary
    obtain ⟨condition, becomes⟩ := shown
    cases becomes with
    | wildcard wildcard => exact nomatch wildcard.symm.trans ordinary
    | tests _ read => exact ⟨_, read⟩
  · intro readable
    cases wildcard : isWildcardEntry text with
    | true => exact ⟨none, .wildcard wildcard⟩
    | false =>
        obtain ⟨tests, read⟩ := readable wildcard
        exact ⟨some tests, .tests wildcard read⟩

theorem RuleDefinition.exists_becomes_iff {inputs outputs : Nat} (definition : RuleDefinition)
    (index : Nat) :
    (∃ rule, definition.Becomes inputs outputs index rule) ↔
      (definition.inputEntries.length = inputs ∧ definition.outputEntries.length = outputs) ∧
        (∀ text ∈ definition.inputEntries, isWildcardEntry text = false →
          ∃ tests, CompiledTests.compile text = .ok tests) ∧
        ∀ text ∈ definition.outputEntries,
          ∃ expression, CompiledExpression.compile text = .ok expression := by
  simp only [← exists_condition_iff, ← exists_forall₂_iff]
  constructor
  · intro shown
    obtain ⟨rule, becomes⟩ := shown
    exact ⟨⟨becomes.inputCount, becomes.outputCount⟩, ⟨_, becomes.conditions⟩, _, becomes.outputs⟩
  · intro shown
    obtain ⟨⟨inputCount, outputCount⟩, ⟨conditions, tested⟩, expressions, given⟩ := shown
    obtain ⟨id, identified⟩ := exists_identified "rule" index definition.id
    exact ⟨⟨id, index, definition.description, conditions, expressions⟩, identified, rfl, rfl,
      inputCount, outputCount, tested, given⟩

end Parts

/-! ## What a decision becomes -/

namespace Compile

variable {options : CompilerOptions} {decisionId : String}

theorem hitPolicy_eq_ok_iff {logic : TableLogic} {policy : HitPolicy}
    {aggregation : Option Aggregation} :
    hitPolicy options decisionId logic = .ok (policy, aggregation) ↔
      (∃ abbreviated declared,
        logic.Says options.defaultHitPolicy policy abbreviated declared ∧
          (abbreviated = none ∨ declared = none) ∧ aggregation = abbreviated.or declared) ∧
        (aggregation.isSome → logic.outputs.length = 1) := by
  simp only [TableLogic.Says, ← HitPolicy.parse_eq_ok_iff]
  constructor
  · intro recognised
    refine ⟨?_, hitPolicy_outputs recognised⟩
    unfold hitPolicy at recognised
    -- The tokens are not looked into: unfolding them would unfold the tables of letter case.
    generalize HitPolicy.parse logic.hitPolicy logic.aggregation options.defaultHitPolicy = named
      at recognised ⊢
    split at recognised
    · cases recognised
    · cases recognised
      rfl
    · split at recognised
      · cases recognised
        rfl
      · cases recognised
  · intro shown
    exact hitPolicy_eq_ok shown.1 shown.2

theorem outputs_eq_ok_iff {clauses : List OutputClause} {columns : List CompiledOutput} :
    outputs options decisionId clauses = .ok columns ↔
      List.Forall₂ (fun item column =>
          item.1.Becomes options.strict decisionId (clauses.length ≤ 1) item.2 column)
        clauses.zipIdx columns ∧ (columns.map CompiledOutput.name).Nodup := by
  constructor
  · intro compiled
    have become := becomes_of_outputsFrom compiled
    simp only [decide_eq_true_eq] at become
    exact ⟨become, (outputsFrom_names compiled).1⟩
  · intro shown
    obtain ⟨become, distinct⟩ := shown
    apply outputsFrom_of_becomes _ distinct
    · simp
    · simpa only [decide_eq_true_eq] using become

end Compile

/-- An output column has priorities if values are declared for it. -/
theorem all_priorities_isEmpty {strict : Bool} {decisionId : String} {single : Prop}
    {clauses : List OutputClause} {columns : List CompiledOutput}
    (become : List.Forall₂ (fun item column =>
      item.1.Becomes strict decisionId single item.2 column) clauses.zipIdx columns) :
    (columns.all fun column => column.priorities.isEmpty) =
      clauses.all fun clause => clause.outputValues.isEmpty := by
  have same : columns.map (fun column => column.priorities.isEmpty) =
      clauses.map fun clause => clause.outputValues.isEmpty := by
    apply map_eq_map_of_forall₂_zipIdx
    refine become.imp fun item column becomes => ?_
    rw [Bool.eq_iff_iff, List.isEmpty_iff_length_eq_zero, List.isEmpty_iff_length_eq_zero,
      becomes.priorities.length_eq]
  calc (columns.all fun column => column.priorities.isEmpty)
    _ = (columns.map fun column => column.priorities.isEmpty).all id := by rw [List.all_map]; rfl
    _ = (clauses.map fun clause => clause.outputValues.isEmpty).all id := by rw [same]
    _ = clauses.all fun clause => clause.outputValues.isEmpty := by rw [List.all_map]; rfl

/-- One of several output columns has the name that is declared for it. -/
theorem names_of_becomes {strict : Bool} {decisionId : String} {single : Prop}
    {clauses : List OutputClause} {columns : List CompiledOutput} (several : ¬single)
    (become : List.Forall₂ (fun item column =>
      item.1.Becomes strict decisionId single item.2 column) clauses.zipIdx columns) :
    (columns.map CompiledOutput.name).map some = clauses.map OutputClause.name := by
  rw [List.map_map]
  apply map_eq_map_of_forall₂_zipIdx
  refine become.imp fun item column becomes => ?_
  have named := becomes.name
  generalize item.1.name = declared at named
  cases named with
  | own => rfl
  | empty alone => exact absurd alone several
  | missing alone => exact absurd alone several

namespace DecisionDefinition

variable {options : CompilerOptions} {definition : DecisionDefinition} {logic : TableLogic}
  {table : CompiledTable}

/-- What the logic of a decision becomes, with the conditions that concern the table as a whole. -/
structure CompilesTo (options : CompilerOptions) (definition : DecisionDefinition)
    (logic : TableLogic) (table : CompiledTable) : Prop
    extends definition.Becomes options logic table where
  variant : definition.variant = .decisionTable
  payload : definition.logic = some (.decisionTable logic)
  aggregated : table.aggregation.isSome → logic.outputs.length = 1
  distinct : (table.outputs.map CompiledOutput.name).Nodup
  ranked : (table.hitPolicy.usesPriorities &&
    logic.outputs.all fun clause => clause.outputValues.isEmpty) = false

theorem compilesTo_of_compile (compiled : definition.compile options = .ok table) :
    ∃ logic, definition.CompilesTo options logic table := by
  simp only [compile] at compiled
  split at compiled
  · cases compiled
  · rename_i variant
    split at compiled
    · rename_i logic payload
      simp only [Compile.table, Except.bind_eq_ok_iff, forAllFrom_eq_ok_iff,
        Compile.input_eq_ok_iff, Compile.outputs_eq_ok_iff] at compiled
      obtain ⟨⟨policy, aggregation⟩, recognised, inputs, asked, outputs, ⟨declared, distinct⟩,
        compiled⟩ := compiled
      obtain ⟨combining, aggregated⟩ := Compile.hitPolicy_eq_ok_iff.mp recognised
      split at compiled
      · cases compiled
      · rename_i ranked
        simp only [Except.bind_eq_ok_iff, forAllFrom_eq_ok_iff, Compile.rule_eq_ok_iff,
          Except.pure_eq_ok, Except.ok.injEq] at compiled
        obtain ⟨rules, given, rfl⟩ := compiled
        rw [length_of_forall₂_zipIdx asked, length_of_forall₂_zipIdx declared] at given
        rw [all_priorities_isEmpty declared, Bool.not_eq_true] at ranked
        exact ⟨logic, ⟨rfl, rfl, combining, asked, declared, given, rfl⟩,
          Decidable.not_not.mp variant, payload, aggregated, distinct, ranked⟩
    · cases compiled

theorem elementary_priorities (compiled : definition.compile options = .ok table) :
    ∀ column ∈ table.outputs, ∀ allowed ∈ column.priorities, allowed.Elementary := by
  obtain ⟨logic, compiles⟩ := compilesTo_of_compile compiled
  intro column declared allowed among
  obtain ⟨item, _, becomes⟩ := exists_of_mem_right compiles.outputs declared
  obtain ⟨text, _, isAllowed⟩ := exists_of_mem_right becomes.priorities among
  exact isAllowed.elementary

theorem CompilesTo.compile_eq_ok (compiles : definition.CompilesTo options logic table) :
    definition.compile options = .ok table := by
  obtain ⟨decisionId, decisionName, policy, aggregation, inputs, outputs, rules, strict⟩ := table
  obtain ⟨⟨rfl, rfl, combining, asked, declared, given, rfl⟩, variant, payload, aggregated, distinct,
    ranked⟩ := compiles
  rw [← length_of_forall₂_zipIdx asked, ← length_of_forall₂_zipIdx declared] at given
  rw [← all_priorities_isEmpty declared] at ranked
  refine DecisionDefinition.compile_eq_ok variant payload
    (Compile.hitPolicy_eq_ok_iff.mpr ⟨combining, aggregated⟩) ?_
    (Compile.outputs_eq_ok_iff.mpr ⟨declared, distinct⟩) ?_ ?_
  · simpa only [forAllFrom_eq_ok_iff, Compile.input_eq_ok_iff] using asked
  · intro uses
    simpa [uses] using ranked
  · simpa only [forAllFrom_eq_ok_iff, Compile.rule_eq_ok_iff] using given

/-! ## Acceptance -/

/-- The policies that sort by priorities need some. -/
theorem ranked_iff {policy : HitPolicy} {clauses : List OutputClause} :
    (policy.usesPriorities && clauses.all fun clause => clause.outputValues.isEmpty) = false ↔
      (policy = .priority ∨ policy = .outputOrder →
        ∃ clause ∈ clauses, clause.outputValues ≠ []) := by
  have uses : policy.usesPriorities = true ↔ policy = .priority ∨ policy = .outputOrder := by
    cases policy <;> simp [HitPolicy.usesPriorities]
  rw [← uses, Bool.and_eq_false_imp, List.all_eq_false]
  simp only [List.isEmpty_iff, ne_eq]

/-- What compiles is well formed. -/
theorem CompilesTo.wellFormed (compiles : definition.CompilesTo options logic table) :
    ∃ policy abbreviated declared,
      definition.WellFormed options logic policy abbreviated declared ∧
        (abbreviated = none ∨ declared = none) := by
  obtain ⟨abbreviated, declared, attributes, once, aggregation⟩ := compiles.combining
  have inputs := (exists_forall₂_zipIdx_iff InputClause.exists_becomes_iff).mp ⟨_, compiles.inputs⟩
  have outputs := (exists_forall₂_zipIdx_iff OutputClause.exists_becomes_iff).mp
    ⟨_, compiles.outputs⟩
  have rules := (exists_forall₂_zipIdx_iff RuleDefinition.exists_becomes_iff).mp
    ⟨_, compiles.rules⟩
  have single (aggregated : abbreviated.isSome ∨ declared.isSome) :
      logic.outputs.length = 1 := by
    apply compiles.aggregated
    rw [aggregation]
    rcases once with rfl | rfl
    · simpa using aggregated
    · simpa using aggregated
  have distinct (several : 2 ≤ logic.outputs.length) :
      (logic.outputs.map OutputClause.name).Nodup := by
    rw [← names_of_becomes (by omega) compiles.outputs]
    exact compiles.distinct.map fun _ _ => Option.some.inj
  exact ⟨table.hitPolicy, abbreviated, declared,
    { variant := compiles.variant
      payload := compiles.payload
      attributes := attributes
      aggregated := single
      named := fun several clause member => (outputs clause member).1.resolve_left (by omega)
      distinct := distinct
      ranked := ranked_iff.mp compiles.ranked
      allowed := fun clause member => (outputs clause member).2
      counted := fun rule member => (rules rule member).1
      asked := inputs
      tested := fun rule member => (rules rule member).2.1
      given := fun rule member => (rules rule member).2.2 }, once⟩

/-- What is well formed compiles, unless it names an aggregation twice. -/
theorem WellFormed.exists_compilesTo {policy : HitPolicy} {abbreviated declared : Option Aggregation}
    (formed : definition.WellFormed options logic policy abbreviated declared)
    (once : abbreviated = none ∨ declared = none) :
    ∃ table, definition.CompilesTo options logic table := by
  obtain ⟨inputs, asked⟩ := (exists_forall₂_zipIdx_iff InputClause.exists_becomes_iff).mpr
    formed.asked
  obtain ⟨outputs, made⟩ := (exists_forall₂_zipIdx_iff (@OutputClause.exists_becomes_iff
    options.strict definition.id (logic.outputs.length ≤ 1))).mpr fun clause member =>
      ⟨(Nat.lt_or_ge 1 logic.outputs.length).symm.imp_right fun several =>
        formed.named several clause member, formed.allowed clause member⟩
  obtain ⟨rules, given⟩ := (exists_forall₂_zipIdx_iff RuleDefinition.exists_becomes_iff).mpr
    fun rule member =>
      ⟨formed.counted rule member, formed.tested rule member, formed.given rule member⟩
  have distinct : (outputs.map CompiledOutput.name).Nodup := by
    by_cases several : logic.outputs.length ≤ 1
    · have count := length_of_forall₂_zipIdx made
      rcases outputs with _ | ⟨column, _ | ⟨second, others⟩⟩
      · exact List.nodup_nil
      · exact List.nodup_singleton _
      · rw [List.length_cons, List.length_cons] at count
        omega
    · have distinct := formed.distinct (by omega)
      rw [← names_of_becomes several made] at distinct
      exact distinct.of_map some
  exact ⟨⟨definition.id, definition.name, policy, abbreviated.or declared, inputs, outputs, rules,
      options.strict⟩,
    { decisionId := rfl
      decisionName := rfl
      combining := ⟨_, _, formed.attributes, once, rfl⟩
      inputs := asked
      outputs := made
      rules := given
      strict := rfl
      variant := formed.variant
      payload := formed.payload
      aggregated := fun aggregated => formed.aggregated (by simpa using aggregated)
      distinct := distinct
      ranked := ranked_iff.mpr formed.ranked }⟩

/-- A decision compiles exactly if it is well formed and its attributes do not both name an
aggregation. Every part of the table is then what the declaration becomes. -/
theorem compiles_iff_wellFormed (options : CompilerOptions) (definition : DecisionDefinition) :
    ((∃ table, definition.compile options = .ok table) ↔
      ∃ logic policy abbreviated declared,
        definition.WellFormed options logic policy abbreviated declared ∧
          (abbreviated = none ∨ declared = none)) ∧
    ∀ table, definition.compile options = .ok table →
      ∃ logic, definition.logic = some (.decisionTable logic) ∧
        definition.Becomes options logic table := by
  refine ⟨⟨?_, ?_⟩, ?_⟩
  · intro accepted
    obtain ⟨table, compiled⟩ := accepted
    obtain ⟨logic, compiles⟩ := compilesTo_of_compile compiled
    exact ⟨logic, compiles.wellFormed⟩
  · intro accepted
    obtain ⟨logic, policy, abbreviated, declared, formed, once⟩ := accepted
    obtain ⟨table, compiles⟩ := formed.exists_compilesTo once
    exact ⟨table, compiles.compile_eq_ok⟩
  · intro table compiled
    obtain ⟨logic, compiles⟩ := compilesTo_of_compile compiled
    exact ⟨logic, compiles.payload, compiles.toBecomes⟩

theorem rates_becomes :
    CompiledTable.rates.compile ⟨"UNIQUE", false⟩ = .ok CompiledTable.ratesTable ∧
      ∃ logic, CompiledTable.rates.logic = some (.decisionTable logic) ∧
        CompiledTable.rates.Becomes ⟨"UNIQUE", false⟩ logic CompiledTable.ratesTable :=
  ⟨CompiledTable.rates_compile,
    (compiles_iff_wellFormed _ _).2 _ CompiledTable.rates_compile⟩

/-- The logic of a table whose attributes both name an aggregation. -/
def twiceAggregatedLogic : TableLogic :=
  ⟨none, some "C+", some "SUM", [], [⟨none, none, none, none, []⟩], [⟨none, none, [], ["1"]⟩]⟩

def twiceAggregated : DecisionDefinition :=
  ⟨"total", none, .decisionTable, some (.decisionTable twiceAggregatedLogic), []⟩

theorem twiceAggregated_words :
    HitPolicy.token twiceAggregatedLogic.hitPolicy "UNIQUE" = "C+" ∧
      Text.upper (Text.trim (twiceAggregatedLogic.aggregation.getD "")) = "SUM" := by
  decide +kernel

theorem twiceAggregated_wellFormed :
    twiceAggregated.WellFormed ⟨"UNIQUE", false⟩ twiceAggregatedLogic .collect (some .sum)
      (some .sum) where
  variant := rfl
  payload := rfl
  attributes := by
    obtain ⟨word, sign⟩ := twiceAggregated_words
    rw [TableLogic.Says, word, sign]
    exact ⟨.abbreviated rfl, .aggregation rfl, fun _ => rfl⟩
  aggregated _ := rfl
  named several := absurd several (by decide)
  distinct several := absurd several (by decide)
  ranked uses := by rcases uses with uses | uses <;> cases uses
  allowed := by simp [twiceAggregatedLogic]
  counted := by simp [twiceAggregatedLogic]
  asked := by simp [twiceAggregatedLogic]
  tested := by simp [twiceAggregatedLogic]
  given rule among text member := by
    obtain rfl := List.mem_singleton.mp among
    obtain rfl := List.mem_singleton.mp member
    exact ⟨⟨"1", .literal (.integer 1)⟩, by cbv⟩

/-- An aggregation that is named twice is refused, although both attributes are recognised. -/
theorem twiceAggregated_refused :
    ¬((∃ table, twiceAggregated.compile ⟨"UNIQUE", false⟩ = .ok table) ↔
      ∃ logic policy abbreviated declared,
        twiceAggregated.WellFormed ⟨"UNIQUE", false⟩ logic policy abbreviated declared) := by
  intro accepted
  obtain ⟨table, compiled⟩ := accepted.mpr ⟨_, _, _, _, twiceAggregated_wellFormed⟩
  obtain ⟨logic, compiles⟩ := compilesTo_of_compile compiled
  cases compiles.payload
  obtain ⟨abbreviated, declared, attributes, once, _⟩ := compiles.combining
  obtain ⟨word, sign⟩ := twiceAggregated_words
  rw [TableLogic.Says, word, sign] at attributes
  obtain ⟨named, aggregated, _⟩ := attributes
  rcases once with rfl | rfl
  · generalize table.hitPolicy = policy at named
    cases named with
    | policy named => cases named
  · generalize given : "SUM" = word at aggregated
    cases aggregated
    exact absurd given (by decide)

end DecisionDefinition

end DecisionTables
