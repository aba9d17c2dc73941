import Mathlib.Data.List.Forall2
import DecisionTables.Proofs.Table.Columns
import DecisionTables.Proofs.Table.Scan

/-!
# Cells that a scan does not visit

Tables that differ at most in what stands in their cells are evaluated alike if they agree on the cells
that a scan of one of them visits. The scan of the other then visits the same cells, stage by stage:
the same subjects are found, rules of the same rows match, and they give the same entries.
-/

namespace DecisionTables

/-! ## Tables of the same frame -/

/-- What stands in a cell. A condition without tests accepts any subject. -/
inductive Cell where
  | expression (expression : CompiledExpression)
  | condition (tests : Option CompiledTests)

namespace CompiledTable

/-- What stands at a place of a table, if the table has the place. -/
def cellAt? (table : CompiledTable) : Place → Option Cell
  | .input column => table.inputs[column]?.map fun input => .expression input.expression
  | .condition row column =>
      table.rules[row]?.bind fun rule => rule.conditions[column]?.map .condition
  | .output row column =>
      table.rules[row]?.bind fun rule => rule.outputs[column]?.map .expression

/-- Whether two tables differ at most in what stands in their cells. -/
structure SameFrame (table other : CompiledTable) : Prop where
  policy : SamePolicy table other
  strict : other.strict = table.strict
  inputs : List.Forall₂
    (fun column another => another.id = column.id ∧ another.typeRef = column.typeRef)
    table.inputs other.inputs
  rules : List.Forall₂
    (fun rule another => another.id = rule.id ∧
      another.conditions.length = rule.conditions.length ∧
      another.outputs.length = rule.outputs.length)
    table.rules other.rules

section SameFrame

variable {table other : CompiledTable} {context : Context} (frame : SameFrame table other)

include frame

theorem SameFrame.input_of_mem {column : CompiledInput} (among : column ∈ other.inputs) :
    ∃ declared ∈ table.inputs, column.id = declared.id := by
  obtain ⟨position, placed⟩ := List.getElem?_of_mem among
  obtain ⟨declared, found, same, _⟩ := related_at frame.inputs.flip placed
  exact ⟨declared, List.mem_of_getElem? found, same⟩

theorem SameFrame.rule_of_mem {rule : CompiledRule} (among : rule ∈ other.rules) :
    ∃ declared ∈ table.rules, rule.id = declared.id ∧
      rule.conditions.length = declared.conditions.length ∧
      rule.outputs.length = declared.outputs.length := by
  obtain ⟨position, placed⟩ := List.getElem?_of_mem among
  obtain ⟨declared, found, same⟩ := related_at frame.rules.flip placed
  exact ⟨declared, List.mem_of_getElem? found, same⟩

theorem SameFrame.named (named : table.Named) : other.Named := by
  constructor
  · rw [frame.policy.decisionId]
    exact named.decision
  · intro column among
    obtain ⟨declared, found, same⟩ := frame.input_of_mem among
    exact same ▸ named.input declared found
  · intro rule among
    obtain ⟨declared, found, same, _⟩ := frame.rule_of_mem among
    exact same ▸ named.rule declared found
  · rw [frame.policy.outputs]
    exact named.output

theorem SameFrame.regular (regular : table.Regular) : other.Regular := by
  have inputs := frame.inputs.length_eq
  have outputs := congrArg List.length frame.policy.outputs
  refine ⟨⟨?_, ?_, ?_, ?_, ?_⟩, ?_, ?_⟩
  · intro column among
    obtain ⟨declared, found, same⟩ := frame.input_of_mem among
    exact same ▸ regular.input_id declared found
  · rw [frame.policy.outputs]
    exact regular.output_id
  · intro rule among
    obtain ⟨declared, found, _, same, _⟩ := frame.rule_of_mem among
    rw [same, regular.conditions declared found, inputs]
  · intro rule among
    obtain ⟨declared, found, _, _, same⟩ := frame.rule_of_mem among
    rw [same, regular.outputs declared found, outputs]
  · rw [frame.policy.aggregation, outputs]
    exact regular.aggregation
  · rw [frame.policy.aggregation, frame.policy.hitPolicy]
    exact regular.collects
  · rw [frame.policy.outputs]
    exact regular.names

theorem SameFrame.typedValue (expression : CompiledExpression) (typeRef : Option String) :
    other.typedValue context expression typeRef = table.typedValue context expression typeRef := by
  simp only [CompiledTable.typedValue, frame.strict]

end SameFrame

/-- Items of lists of the same length are related if those at the same position are. -/
theorem forall₂_zipIdx {α β : Type} {Related : α × Nat → β × Nat → Prop} {lefts : List α}
    {rights : List β} (same : lefts.length = rights.length)
    (each : ∀ position left right, lefts[position]? = some left →
      rights[position]? = some right → Related (left, position) (right, position)) :
    List.Forall₂ Related lefts.zipIdx rights.zipIdx := by
  rw [List.forall₂_iff_get]
  refine ⟨by simpa using same, ?_⟩
  intro position inLefts inRights
  simp only [List.get_eq_getElem, List.getElem_zipIdx, Nat.zero_add]
  exact each position _ _ (List.getElem?_eq_getElem _) (List.getElem?_eq_getElem _)

/-- Whether what a scan visits at a place is what stands there in another table as well. -/
def Kept (table other : CompiledTable) (visit : Visit) : Prop :=
  other.cellAt? visit.place = table.cellAt? visit.place

/-- Rules of two tables in the same row. -/
structure SameRow (table other : CompiledTable) (row another : CompiledRule × Nat) : Prop where
  index : another.2 = row.2
  placed : table.rules[row.2]? = some row.1
  placedToo : other.rules[row.2]? = some another.1

section Congruence

variable {table other : CompiledTable} {context : Context} (frame : SameFrame table other)

include frame

theorem related_inputVisits :
    List.Forall₂ (fun visit another => Kept table other visit → another = visit)
      (table.inputVisits context) (other.inputVisits context) := by
  rw [inputVisits, inputVisits, List.forall₂_map_left_iff, List.forall₂_map_right_iff]
  apply forall₂_zipIdx frame.inputs.length_eq
  intro position column another placed placedToo kept
  obtain ⟨_, again, id, typeRef⟩ := related_at frame.inputs placed
  cases again.symm.trans placedToo
  simp only [Kept, visitInput, cellAt?, placed, placedToo, Option.map_some, Option.some.injEq,
    Cell.expression.injEq] at kept
  simp only [visitInput, id, typeRef, kept, frame.typedValue]

theorem sameRow_zipIdx :
    List.Forall₂ (SameRow table other) table.rules.zipIdx other.rules.zipIdx :=
  forall₂_zipIdx frame.rules.length_eq fun _ _ _ placed placedToo => ⟨rfl, placed, placedToo⟩

variable {row another : CompiledRule × Nat} (same : SameRow table other row another)

include same

theorem SameRow.rule : another.1.id = row.1.id ∧
    another.1.conditions.length = row.1.conditions.length ∧
      another.1.outputs.length = row.1.outputs.length := by
  obtain ⟨_, again, alike⟩ := related_at frame.rules same.placed
  cases again.symm.trans same.placedToo
  exact alike

theorem related_conditions (subjects : List Value) :
    List.Forall₂ (fun visit another => Kept table other visit → another = visit)
      ((table.inputs.zip (row.1.conditions.zip subjects)).zipIdx.map
        (visitCondition context row))
      ((other.inputs.zip (another.1.conditions.zip subjects)).zipIdx.map
        (visitCondition context another)) := by
  obtain ⟨ruleId, conditions, _⟩ := same.rule frame
  rw [List.forall₂_map_left_iff, List.forall₂_map_right_iff]
  apply forall₂_zipIdx
  · simp only [List.length_zip, frame.inputs.length_eq, conditions]
  · intro position cell cell' placed placedToo kept
    rw [List.getElem?_zip_eq_some, List.getElem?_zip_eq_some] at placed placedToo
    obtain ⟨_, again, id, _⟩ := related_at frame.inputs placed.1
    cases again.symm.trans placedToo.1
    have subject := placed.2.2.symm.trans placedToo.2.2
    simp only [Kept, visitCondition, cellAt?, same.placed, same.placedToo, Option.bind_some,
      placed.2.1, placedToo.2.1, Option.map_some, Option.some.injEq, Cell.condition.injEq] at kept
    simp only [visitCondition, same.index, ruleId, id, kept, Option.some.inj subject]

theorem related_outputVisits :
    List.Forall₂ (fun visit another => Kept table other visit → another = visit)
      (table.outputVisits context row) (other.outputVisits context another) := by
  obtain ⟨ruleId, _, outputs⟩ := same.rule frame
  rw [outputVisits, outputVisits, List.forall₂_map_left_iff, List.forall₂_map_right_iff]
  apply forall₂_zipIdx
  · simp only [List.length_zip, frame.policy.outputs, outputs]
  · intro position cell cell' placed placedToo kept
    rw [List.getElem?_zip_eq_some] at placed placedToo
    have column := placed.1.symm.trans (frame.policy.outputs ▸ placedToo.1)
    simp only [Kept, visitOutput, cellAt?, same.placed, same.placedToo, Option.bind_some,
      placed.2, placedToo.2, Option.map_some, Option.some.injEq, Cell.expression.injEq] at kept
    simp only [visitOutput, same.index, ruleId, kept, Option.some.inj column, frame.typedValue]

end Congruence

section Stages

variable {table other : CompiledTable} {context : Context} (frame : SameFrame table other)

include frame

/-- Where the subjects are the same and the visited conditions are kept, the same conditions are
visited, and rules of the same rows match. -/
theorem rules_congr (subjects : other.scannedSubjects context = table.scannedSubjects context)
    (kept : ∀ visit ∈ upThrough Visit.stops
      (table.rules.zipIdx.flatMap (table.conditionVisits context)), Kept table other visit) :
    upThrough Visit.stops (other.rules.zipIdx.flatMap (other.conditionVisits context)) =
        upThrough Visit.stops (table.rules.zipIdx.flatMap (table.conditionVisits context)) ∧
      ((∀ visit ∈ table.rules.zipIdx.flatMap (table.conditionVisits context),
          visit.stops = false) →
        List.Forall₂ (SameRow table other) (table.matchedRows context)
          (other.matchedRows context)) := by
  have alike (row another : CompiledRule × Nat) (same : SameRow table other row another)
      (keptHere : ∀ visit ∈ upThrough Visit.stops (table.conditionVisits context row),
        Kept table other visit) :
      upThrough Visit.stops (other.conditionVisits context another) =
        upThrough Visit.stops (table.conditionVisits context row) := by
    -- Only the last condition that is visited can be without a value.
    rw [conditionVisits, upThrough_upThrough Visit.stops_not_passes] at keptHere
    rw [conditionVisits, conditionVisits, subjects,
      upThrough_congr (related_conditions frame same _) keptHere]
  obtain ⟨visited, goes⟩ := upThrough_flatMap_congr (sameRow_zipIdx frame) alike kept
  refine ⟨visited, fun every => ?_⟩
  have filtered : List.Forall₂ _ (table.matchedRows context) (other.matchedRows context) :=
    List.rel_filter (fun row another alike => by simp only [alike.2]) (goes every)
  exact filtered.imp fun _ _ => And.left

/-- Where visited outputs are kept, the same outputs are visited and give the same entries. -/
theorem outputs_congr {rows others : List (CompiledRule × Nat)}
    (same : List.Forall₂ (SameRow table other) rows others)
    (kept : ∀ visit ∈ upThrough Visit.stops (rows.flatMap (table.outputVisits context)),
      Kept table other visit) :
    upThrough Visit.stops (others.flatMap (other.outputVisits context)) =
        upThrough Visit.stops (rows.flatMap (table.outputVisits context)) ∧
      ((∀ visit ∈ rows.flatMap (table.outputVisits context), visit.stops = false) →
        others.map (other.scannedEntry context) = rows.map (table.scannedEntry context)) := by
  obtain ⟨visited, goes⟩ := upThrough_flatMap_congr same
    (fun _ _ same => upThrough_congr (related_outputVisits frame same)) kept
  refine ⟨visited, fun every => ?_⟩
  have made : other.entryOfVisits = table.entryOfVisits := by
    funext visits
    simp only [entryOfVisits, frame.policy.outputs]
  rw [eq_comm, ← List.forall₂_eq_eq_eq, List.forall₂_map_left_iff, List.forall₂_map_right_iff]
  apply (goes every).imp
  intro row another alike
  rw [scannedEntry_eq, scannedEntry_eq, alike.2, made]

theorem askedRows_congr {rows others : List (CompiledRule × Nat)}
    (same : List.Forall₂ (SameRow table other) rows others) :
    List.Forall₂ (SameRow table other) (table.askedRows rows) (other.askedRows others) := by
  rw [askedRows, askedRows, frame.policy.hitPolicy]
  cases table.hitPolicy with
  | first => exact List.forall₂_take 1 same
  | unique =>
      simp only [same.length_eq]
      split
      · exact same
      · exact .nil
  | any | priority | collect | ruleOrder | outputOrder => exact same

/-- Tables that differ at most in cells that a scan does not come to are evaluated alike. -/
theorem evaluate_congr (named : table.Named) (regular : table.Regular)
    (kept : ∀ visit ∈ table.scan context, Kept table other visit) :
    other.evaluate context = table.evaluate context := by
  have inputs : upThrough Visit.stops (other.inputVisits context) =
      upThrough Visit.stops (table.inputVisits context) :=
    upThrough_congr (related_inputVisits frame) fun visit among =>
      kept visit (mem_upThrough_append_left (mem_upThrough_append_left among))
  have subjects (goes : ∀ visit ∈ table.inputVisits context, visit.stops = false) :
      other.scannedSubjects context = table.scannedSubjects context := by
    rw [scannedSubjects, eq_of_upThrough_eq inputs goes, scannedSubjects]
  have rules (goes : ∀ visit ∈ table.inputVisits context, visit.stops = false) :=
    rules_congr frame (subjects goes) fun visit among =>
      kept visit (mem_upThrough_append_left (mem_upThrough_append goes among))
  have outputs (goes : ∀ visit ∈ table.inputVisits context ++
      table.rules.zipIdx.flatMap (table.conditionVisits context), visit.stops = false) :=
    outputs_congr frame (askedRows_congr frame ((rules (List.forall_mem_append.mp goes).1).2
      (List.forall_mem_append.mp goes).2)) fun visit among =>
        kept visit (mem_upThrough_append goes among)
  have visited : upThrough Visit.stops (other.visits context) =
      upThrough Visit.stops (table.visits context) :=
    upThrough_append_congr (upThrough_append_congr inputs fun goes => (rules goes).1)
      fun goes => (outputs goes).1
  rw [evaluate_eq_halt (frame.named named) (frame.regular regular), frame.policy.decisionId,
    ← halt_upThrough, visited, halt_upThrough, evaluate_eq_halt named regular]
  cases halted : halt table.decisionId context (table.visits context) with
  | error error => rfl
  | ok _ =>
      obtain ⟨goes, outputsGo⟩ := List.forall_mem_append.mp (halt_eq_ok_iff.mp halted)
      obtain ⟨inputsGo, rulesGo⟩ := List.forall_mem_append.mp goes
      have matched := (rules inputsGo).2 rulesGo
      have ids : ((table.matchedRows context).map Prod.fst).map CompiledRule.id =
          ((other.matchedRows context).map Prod.fst).map CompiledRule.id := by
        rw [← List.forall₂_eq_eq_eq]
        simp only [List.forall₂_map_left_iff, List.forall₂_map_right_iff]
        exact matched.imp fun row another same => (same.rule frame).1.symm
      rw [Except.ok_bind, Except.ok_bind, (outputs goes).2 outputsGo, frame.policy.conclude ids]

end Stages

end CompiledTable

end DecisionTables
