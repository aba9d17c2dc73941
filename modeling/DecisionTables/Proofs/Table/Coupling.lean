import DecisionTables.Proofs.Table.Places

/-!
# Two runs of a table

Evaluation in two contexts, or in strict and in lenient mode, differs in the outcomes of cells alone.
What the cells have in common in two runs, the runs have in common as a whole, as long as the relation
between outcomes goes along with sequences. The same holds of the hit policies of two tables that
have their policy and their output columns in common. This module says so once for all relations.
-/

namespace DecisionTables

namespace CompiledTable

/-- The table in strict or in lenient mode. -/
def inMode (table : CompiledTable) (strict : Bool) : CompiledTable :=
  { table with strict := strict }

/-- What two tables have in common whose hit policies do the same with matching rules. -/
structure SamePolicy (left right : CompiledTable) : Prop where
  decisionId : right.decisionId = left.decisionId
  hitPolicy : right.hitPolicy = left.hitPolicy
  aggregation : right.aggregation = left.aggregation
  outputs : right.outputs = left.outputs

namespace SamePolicy

variable {left right : CompiledTable} (same : SamePolicy left right)

include same

theorem conflict {rules others : List CompiledRule}
    (ids : rules.map CompiledRule.id = others.map CompiledRule.id) :
    right.conflict others = left.conflict rules := by
  simp only [CompiledTable.conflict, same.decisionId, same.hitPolicy, ids]

theorem aggregatedEntry : right.aggregatedEntry = left.aggregatedEntry := by
  funext aggregation entries
  simp only [CompiledTable.aggregatedEntry, same.outputs, same.decisionId]

theorem byPriority : right.byPriority = left.byPriority := by
  have withRanks : right.withRanks = left.withRanks := by
    funext entry
    simp only [CompiledTable.withRanks, same.outputs]
  funext entries
  simp only [CompiledTable.byPriority, withRanks]

theorem conclude {rules others : List CompiledRule}
    (ids : rules.map CompiledRule.id = others.map CompiledRule.id) :
    right.conclude others = left.conclude rules := by
  have length : others.length = rules.length := by
    simpa using congrArg List.length ids.symm
  have empty : others.isEmpty = rules.isEmpty := by
    rw [Bool.eq_iff_iff, List.isEmpty_iff_length_eq_zero, List.isEmpty_iff_length_eq_zero, length]
  funext entries
  simp only [CompiledTable.conclude, same.hitPolicy, same.aggregation, same.aggregatedEntry,
    same.byPriority, same.conflict ids, length, empty]

theorem contributing {Related : CompiledRule → CompiledRule → Prop}
    {rules others : List CompiledRule} (each : List.Forall₂ Related rules others) :
    List.Forall₂ Related (left.contributing rules) (right.contributing others) := by
  cases each with
  | nil => exact .nil
  | cons related further =>
      simp only [CompiledTable.contributing, same.hitPolicy]
      cases left.hitPolicy with
      | first => exact .cons related .nil
      | unique =>
          cases further with
          | nil => exact .cons related .nil
          | cons => exact .nil
      | any | priority | collect | ruleOrder | outputOrder => exact .cons related further

end SamePolicy

theorem samePolicy_inMode (table : CompiledTable) (strict : Bool) :
    SamePolicy table (table.inMode strict) :=
  ⟨rfl, rfl, rfl, rfl⟩

end CompiledTable

namespace Outcome

/-- A relation between the outcomes of two runs that goes along with sequences of stages. It relates
every outcome to itself that does not tell the failure of a cell. -/
structure Coupling (Related : (α : Type) → Outcome α → Outcome α → Prop) : Prop where
  plain : ∀ {α : Type} {outcome : Outcome α},
    (∀ error, outcome ≠ .error (.expression error)) → Related α outcome outcome
  bind : ∀ {α β : Type} {left right : Outcome α} {leftNext rightNext : α → Outcome β},
    Related α left right →
    (∀ value, left = .ok value → Related β (leftNext value) (rightNext value)) →
    Related β (left >>= leftNext) (right >>= rightNext)

namespace Coupling

variable {Related : (α : Type) → Outcome α → Outcome α → Prop} (coupling : Coupling Related)
  {α β : Type}

include coupling

theorem ok (value : α) : Related α (.ok value) (.ok value) := by
  apply coupling.plain
  simp

theorem map {left right : Outcome α} (image : α → β) (related : Related α left right) :
    Related β (left.map image) (right.map image) := by
  have mapped (outcome : Outcome α) :
      outcome.map image = outcome >>= fun value => .ok (image value) := by
    cases outcome <;> rfl
  rw [mapped, mapped]
  exact coupling.bind related fun value _ => coupling.ok (image value)

theorem forAll {ι κ : Type} {leftAction : ι → Outcome β} {rightAction : κ → Outcome β}
    {lefts : List ι} {rights : List κ}
    (each : List.Forall₂ (fun left right => Related β (leftAction left) (rightAction right))
      lefts rights) :
    Related (List β) (DecisionTables.forAll leftAction lefts)
      (DecisionTables.forAll rightAction rights) := by
  induction each with
  | nil => exact coupling.ok []
  | cons related _ ih =>
      rw [forAll_cons, forAll_cons]
      apply coupling.bind related
      intro result _
      apply coupling.bind ih
      intro results _
      exact coupling.ok (result :: results)

end Coupling

theorem coupling_eq : Coupling fun _ left right => left = right where
  plain _ := rfl
  bind {_ _ left _ _ _} same next := by
    subst same
    cases left with
    | error error => rfl
    | ok value => exact next value rfl

end Outcome

namespace CompiledTable

open Outcome

section Policy

variable {Related : (α : Type) → Outcome α → Outcome α → Prop} (coupling : Coupling Related)
  {left right : CompiledTable} (same : SamePolicy left right) {first second : Context}

include coupling same

theorem coupled_combine {rule rule' : CompiledRule} {others others' : List CompiledRule}
    (ids : (rule :: others).map CompiledRule.id = (rule' :: others').map CompiledRule.id)
    (each : List.Forall₂ (fun rule rule' =>
        Related OutputEntry (left.entryOf first rule) (right.entryOf second rule'))
      (rule :: others) (rule' :: others')) :
    Related (List OutputEntry) (left.combine first rule others)
      (right.combine second rule' others') := by
  rw [combine_eq, combine_eq, same.conclude ids]
  apply coupling.bind (coupling.forAll (same.contributing each))
  intro entries _
  exact coupling.plain fun _ => conclude_ne_expression

/-- What a hit policy makes of matching rules is related if their entries are. -/
theorem coupled_applyHitPolicy {rules others : List CompiledRule}
    (ids : rules.map CompiledRule.id = others.map CompiledRule.id)
    (each : List.Forall₂ (fun rule other =>
        Related OutputEntry (left.entryOf first rule) (right.entryOf second other))
      rules others) :
    Related (List OutputEntry) (left.applyHitPolicy first rules)
      (right.applyHitPolicy second others) := by
  cases each with
  | nil =>
      by_cases counts : left.aggregation = some .count
      · have alsoCounts : right.aggregation = some .count := same.aggregation.trans counts
        simp only [applyHitPolicy, counts, alsoCounts, if_true, same.aggregatedEntry]
        apply coupling.bind (coupling.plain fun _ => aggregatedEntry_ne_expression)
        intro entry _
        exact coupling.ok [entry]
      · have countsNeither : right.aggregation ≠ some .count := same.aggregation ▸ counts
        simp only [applyHitPolicy, counts, countsNeither, if_false]
        exact coupling.ok []
  | cons related further => exact coupled_combine coupling same ids (.cons related further)

end Policy

/-- Tables of the same mode whose hit policies do the same make the same of every rule. -/
theorem SamePolicy.entryOf {left right : CompiledTable} (same : SamePolicy left right)
    (mode : right.strict = left.strict) (context : Context) :
    right.entryOf context = left.entryOf context := by
  funext rule
  simp only [CompiledTable.entryOf, same.outputs, outputValues_congr same.decisionId mode]

variable {Related : (α : Type) → Outcome α → Outcome α → Prop} (coupling : Coupling Related)
  {table : CompiledTable} {strict : Bool} {first second : Context}

include coupling

theorem coupled_matchingRules {subjects : List Value} {rules : List CompiledRule}
    (each : ∀ rule ∈ rules, Related Bool (table.matchesRule first subjects rule)
      ((table.inMode strict).matchesRule second subjects rule)) :
    Related (List CompiledRule) (table.matchingRules first subjects rules)
      ((table.inMode strict).matchingRules second subjects rules) := by
  induction rules with
  | nil => exact coupling.ok []
  | cons rule rest ih =>
      obtain ⟨onRule, onRest⟩ := List.forall_mem_cons.mp each
      apply coupling.bind onRule
      intro accepted _
      apply coupling.bind (ih onRest)
      intro others _
      exact coupling.ok _

theorem coupled_outputValues {ruleId : String} {columns : List CompiledOutput}
    {expressions : List CompiledExpression}
    (each : ∀ cell ∈ columns.zip expressions, Related Value
      (table.cellValue cell.2 (some ruleId) cell.1.id cell.1.typeRef first)
      ((table.inMode strict).cellValue cell.2 (some ruleId) cell.1.id cell.1.typeRef second)) :
    Related (List OutputValue) (table.outputValues ruleId first columns expressions)
      ((table.inMode strict).outputValues ruleId second columns expressions) := by
  rw [outputValues_eq, outputValues_eq]
  exact coupling.forAll (List.forall₂_same.mpr fun cell among => coupling.map _ (each cell among))

/-- Two runs of a table are related if its cells are. -/
theorem coupled_evaluate
    (onInput : ∀ column ∈ table.inputs, Related Value (table.subject first column)
      ((table.inMode strict).subject second column))
    (onRule : ∀ rule ∈ table.rules, ∀ subjects, Related Bool
      (table.matchesRule first subjects rule)
      ((table.inMode strict).matchesRule second subjects rule))
    (onOutput : ∀ rule ∈ table.rules, ∀ cell ∈ table.outputs.zip rule.outputs, Related Value
      (table.cellValue cell.2 (some rule.id) cell.1.id cell.1.typeRef first)
      ((table.inMode strict).cellValue cell.2 (some rule.id) cell.1.id cell.1.typeRef second)) :
    Related ResultSet (table.evaluate first) ((table.inMode strict).evaluate second) := by
  have matched : Related (List CompiledRule) (table.matching first)
      ((table.inMode strict).matching second) := by
    rw [matching, matching]
    apply coupling.bind (coupling.forAll (List.forall₂_same.mpr onInput))
    intro subjects _
    exact coupled_matchingRules coupling fun rule among => onRule rule among subjects
  rw [evaluate_eq, evaluate_eq]
  apply coupling.bind matched
  intro rules found
  obtain ⟨subjects, _, rfl⟩ := matching_eq_filter found
  apply coupling.map
  apply coupled_applyHitPolicy coupling (samePolicy_inMode table strict) rfl
  refine List.forall₂_same.mpr fun rule among => ?_
  apply coupling.map
  exact coupled_outputValues coupling (onOutput rule (List.mem_filter.mp among).1)

end CompiledTable

end DecisionTables
