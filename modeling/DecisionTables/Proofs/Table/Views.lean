import DecisionTables.Proofs.Table.Comparisons
import DecisionTables.Proofs.Table.Policies

/-!
# Hit policies as views of one list of matches

A hit policy only arranges the rules that match. Tables that differ in their hit policy alone
therefore have results that determine one another: collecting and keeping the order of the rules are
the same, each single-result policy shows the front of a multiple-result policy, and an aggregation
is a function of the values that the rule order lists. The branches evaluate different output cells,
so these relations also say which of them can fail where another does not. One branch can end in
neither a result nor a conflict although no cell fails: that which compares the entries.
-/

namespace DecisionTables

/-- The values of all entries, in order. -/
def ResultSet.values (result : ResultSet) : List Value :=
  result.entries.flatMap fun entry => entry.values.map OutputValue.value

/-- The first entry of a result as a result of its own; an empty result stays empty. -/
def ResultSet.front (result : ResultSet) : ResultSet :=
  ⟨result.entries.take 1⟩

def ResultSet.single (name : String) (value : Value) (typeRef : Option String) : ResultSet :=
  ⟨[⟨[⟨name, value, typeRef⟩]⟩]⟩

namespace CompiledTable

/-- How the results of a table under the different hit policies are related in a context. -/
structure ViewsAgree (table : CompiledTable) (context : Context) : Prop where
  /-- Collecting without an aggregation keeps the order of the rules. -/
  collect : (table.under .collect none).evaluate context =
    (table.under .ruleOrder none).evaluate context
  /-- Where a unique match is asked for, several matches are a conflict that names all of them in
  the order of the table. -/
  unique_several : ∀ subjects, table.subjects context = .ok subjects →
    (∀ rule ∈ table.rules, ∃ answer, table.matchesRule context subjects rule = .ok answer) →
    let rules := table.rules.filter fun rule =>
      accepted (table.matchesRule context subjects rule)
    2 ≤ rules.length →
      (table.under .unique none).evaluate context =
        .error (.conflict ⟨table.decisionId, .unique, rules.map CompiledRule.id⟩)
  /-- Where several rules do not match, a unique match is the first one. -/
  unique_otherwise : (∀ rules, table.matching context = .ok rules → rules.length < 2) →
    (table.under .unique none).evaluate context = (table.under .first none).evaluate context
  /-- The first match is the front of the rule order, where that has a result. -/
  first : ∀ result, (table.under .ruleOrder none).evaluate context = .ok result →
    (table.under .first none).evaluate context = .ok result.front
  /-- Where the rule order has a result, any match is the first one or a conflict of all matching
  rules, exactly if every comparison of an entry with the first one has an answer. -/
  any : ∀ result, (table.under .ruleOrder none).evaluate context = .ok result →
    (((table.under .any none).evaluate context = (table.under .first none).evaluate context ∨
      ∃ rules, table.matching context = .ok rules ∧
        (table.under .any none).evaluate context =
          .error (.conflict ⟨table.decisionId, .any, rules.map CompiledRule.id⟩)) ↔
      ∀ operation, AttemptsAllAgree result.entries operation → ¬operation.Undefined)
  /-- The match of the highest priority is the front of the output order, and one fails where the
  other does. -/
  priority : (table.under .priority none).evaluate context =
    ((table.under .outputOrder none).evaluate context).map ResultSet.front
  /-- The rule order has one entry for each matching rule. -/
  entries : ∀ result, (table.under .ruleOrder none).evaluate context = .ok result →
    ∃ rules, table.matching context = .ok rules ∧ result.entries.length = rules.length
  /-- A count tells how many values of the rule order are not null, also if there is none. -/
  count : ∀ column, table.outputs = [column] →
    (table.under .collect (some .count)).evaluate context =
      ((table.under .ruleOrder none).evaluate context).map fun result =>
        .single column.name (.integer (result.values.countP fun value => !value.isNull))
          (some "integer")
  /-- Every other aggregation reduces the values of the rule order, and gives no entry if no rule
  matches. -/
  aggregate : ∀ column aggregation, table.outputs = [column] → aggregation ≠ .count →
    (table.under .collect (some aggregation)).evaluate context =
      (table.under .ruleOrder none).evaluate context >>= fun result =>
        if result.entries = [] then .ok ⟨[]⟩
        else
          match aggregation.apply result.values table.decisionId with
          | .ok value => .ok (.single column.name value column.typeRef)
          | .error failure => .error (.ofAggregate failure)

variable {table : CompiledTable} {context : Context}

/-! ## The policies on a list of matching rules -/

section Combine

variable (table) (context) (first : CompiledRule) (others : List CompiledRule)

theorem apply_ruleOrder (rules : List CompiledRule) :
    (table.under .ruleOrder none).applyHitPolicy context rules = table.entriesOf context rules := by
  cases rules with
  | nil => rfl
  | cons first others => simp [applyHitPolicy, combine, entriesOf]

theorem apply_collect (rules : List CompiledRule) :
    (table.under .collect none).applyHitPolicy context rules = table.entriesOf context rules := by
  cases rules with
  | nil => rfl
  | cons first others =>
      simp only [applyHitPolicy, combine, under_hitPolicy, under_entryOf, under_aggregation,
        Except.pure_eq_ok, entriesOf]
      cases forAll (table.entryOf context) (first :: others) <;> rfl

theorem apply_first :
    (table.under .first none).applyHitPolicy context (first :: others) =
      (table.entryOf context first).map fun entry => [entry] := by
  simp only [applyHitPolicy, combine, under_hitPolicy, under_entryOf]
  cases table.entryOf context first <;> rfl

theorem apply_unique :
    (table.under .unique none).applyHitPolicy context (first :: others) =
      if others = [] then (table.entryOf context first).map fun entry => [entry]
      else
        .error (.conflict ⟨table.decisionId, .unique, (first :: others).map CompiledRule.id⟩) := by
  cases others with
  | nil =>
      simp only [applyHitPolicy, combine, under_hitPolicy, under_entryOf]
      cases table.entryOf context first <;> rfl
  | cons second others => rfl

theorem apply_any :
    (table.under .any none).applyHitPolicy context (first :: others) =
      table.entriesOf context (first :: others) >>= fun entries =>
        Outcome.ofFault (allAgree entries) >>= fun agreed =>
          if agreed then .ok (entries.take 1)
          else
            .error (.conflict ⟨table.decisionId, .any, (first :: others).map CompiledRule.id⟩) := by
  simp only [applyHitPolicy, combine, under_hitPolicy, under_entryOf, entriesOf,
    Except.pure_eq_ok]
  rfl

theorem apply_priority (rules : List CompiledRule) :
    (table.under .priority none).applyHitPolicy context rules =
      ((table.under .outputOrder none).applyHitPolicy context rules).map (List.take 1) := by
  cases rules with
  | nil => rfl
  | cons first others =>
      simp only [applyHitPolicy, combine, under_hitPolicy, under_entryOf]
      cases forAll (table.entryOf context) (first :: others) with
      | error error => rfl
      | ok entries =>
          -- Ranks do not depend on the policy.
          change table.byPriority entries >>= _ = (table.byPriority entries).map _
          cases table.byPriority entries <;> rfl

end Combine

/-! ## Aggregated entries -/

/-- A rule with an expression for each column gives a value for each column. -/
theorem outputValues_length {ruleId : String} {columns : List CompiledOutput}
    {expressions : List CompiledExpression} {values : List OutputValue}
    (evaluated : table.outputValues ruleId context columns expressions = .ok values)
    (same : expressions.length = columns.length) : values.length = columns.length := by
  rw [outputValues_eq] at evaluated
  rw [forAll_length evaluated, List.length_zip, same, Nat.min_self]

theorem entryOf_length (shaped : table.WellShaped) {rule : CompiledRule} {entry : OutputEntry}
    (member : rule ∈ table.rules) (given : table.entryOf context rule = .ok entry) :
    entry.values.length = table.outputs.length := by
  simp only [entryOf, Except.map_eq_ok_iff] at given
  rcases given with ⟨values, evaluated, rfl⟩
  exact outputValues_length evaluated (shaped.outputs rule member)

/-- Where every entry has one value, the values of the first column are all values. -/
theorem firstValues_eq_values {entries : List OutputEntry}
    (single : ∀ entry ∈ entries, entry.values.length = 1) :
    firstValues entries = (ResultSet.mk entries).values := by
  induction entries with
  | nil => rfl
  | cons entry rest ih =>
      obtain ⟨output, only⟩ := List.length_eq_one_iff.mp (single entry List.mem_cons_self)
      have others := ih fun other member => single other (List.mem_cons_of_mem _ member)
      simp only [firstValues, ResultSet.values] at others
      simp [firstValues, ResultSet.values, only, others]

theorem entriesOf_single (shaped : table.WellShaped) {column : CompiledOutput}
    (outputs : table.outputs = [column]) {rules : List CompiledRule}
    (matched : table.matching context = .ok rules) {entries : List OutputEntry}
    (given : table.entriesOf context rules = .ok entries) :
    ∀ entry ∈ entries, entry.values.length = 1 := by
  obtain ⟨subjects, _, rfl⟩ := matching_eq_filter matched
  intro entry member
  obtain ⟨rule, among, made⟩ := forAll_mem given member
  have declared : rule ∈ table.rules := (List.mem_filter.mp among).1
  simpa [outputs] using entryOf_length shaped declared made

section Aggregated

variable (shaped : table.WellShaped) {column : CompiledOutput} (outputs : table.outputs = [column])
  {rules : List CompiledRule} (matched : table.matching context = .ok rules)

include outputs

theorem aggregatedEntry_eq (policy : HitPolicy) (aggregation : Aggregation)
    (entries : List OutputEntry) :
    (table.under policy (some aggregation)).aggregatedEntry aggregation entries =
      match aggregation.apply (firstValues entries) table.decisionId with
      | .ok value =>
          .ok ⟨[⟨column.name, value,
            if aggregation = .count then some "integer" else column.typeRef⟩]⟩
      | .error failure => .error (.ofAggregate failure) := by
  simp only [aggregatedEntry, under_outputs, outputs, under_decisionId]
  cases aggregation.apply (firstValues entries) table.decisionId <;> rfl

include shaped matched

/-- A count of matching rules, of which there may be none. -/
theorem apply_count :
    (table.under .collect (some .count)).applyHitPolicy context rules =
      (table.entriesOf context rules).map fun entries =>
        (ResultSet.single column.name
          (.integer ((ResultSet.mk entries).values.countP fun value => !value.isNull))
          (some "integer")).entries := by
  cases rules with
  | nil =>
      simp only [applyHitPolicy, under_aggregation, if_true, Except.pure_eq_ok,
        aggregatedEntry_eq outputs]
      rfl
  | cons first others =>
      simp only [applyHitPolicy, combine, under_hitPolicy, under_entryOf, under_aggregation,
        aggregatedEntry_eq outputs, Except.pure_eq_ok]
      cases given : table.entriesOf context (first :: others) with
      | error error =>
          simp only [entriesOf] at given
          simp only [given, Except.error_bind, Except.map_error]
      | ok entries =>
          have values := firstValues_eq_values (entriesOf_single shaped outputs matched given)
          simp only [entriesOf] at given
          simp only [given, Except.ok_bind, Except.map_ok, values, Aggregation.apply,
            List.countP_eq_length_filter]
          rfl

/-- Another aggregation of matching rules, of which there may be none. -/
theorem apply_aggregation {aggregation : Aggregation} (other : aggregation ≠ .count) :
    (table.under .collect (some aggregation)).applyHitPolicy context rules =
      table.entriesOf context rules >>= fun entries =>
        if entries = [] then .ok []
        else
          match aggregation.apply (ResultSet.mk entries).values table.decisionId with
          | .ok value => .ok (ResultSet.single column.name value column.typeRef).entries
          | .error failure => .error (.ofAggregate failure) := by
  cases rules with
  | nil =>
      simp only [applyHitPolicy, under_aggregation, Option.some.injEq, other, if_false]
      rfl
  | cons first others =>
      simp only [applyHitPolicy, combine, under_hitPolicy, under_entryOf, under_aggregation,
        aggregatedEntry_eq outputs, Except.pure_eq_ok, other, if_false]
      cases given : table.entriesOf context (first :: others) with
      | error error =>
          simp only [entriesOf] at given
          simp only [given, Except.error_bind]
      | ok entries =>
          have values := firstValues_eq_values (entriesOf_single shaped outputs matched given)
          simp only [entriesOf] at given
          have nonempty : entries ≠ [] := by
            intro empty
            have counted := forAll_length given
            simp [empty] at counted
          simp only [given, Except.ok_bind, values, nonempty, if_false]
          cases aggregation.apply (ResultSet.mk entries).values table.decisionId <;> rfl

end Aggregated

/-! ## The views of a compiled table -/

theorem evaluate_of_matching {table : CompiledTable} {rules : List CompiledRule}
    (matched : table.matching context = .ok rules) :
    table.evaluate context = (table.applyHitPolicy context rules).map ResultSet.mk := by
  rw [evaluate_eq, matched, Except.ok_bind]

/-- The rule order has a result if the matching rules and their entries do. -/
theorem ruleOrder_eq_ok_iff {result : ResultSet} :
    (table.under .ruleOrder none).evaluate context = .ok result ↔
      ∃ rules, table.matching context = .ok rules ∧
        table.entriesOf context rules = .ok result.entries := by
  simp only [evaluate_eq, under_matching, apply_ruleOrder, Except.bind_eq_ok_iff,
    Except.map_eq_ok_iff]
  constructor
  · intro shown
    rcases shown with ⟨rules, matched, entries, given, rfl⟩
    exact ⟨rules, matched, given⟩
  · intro shown
    rcases shown with ⟨rules, matched, given⟩
    exact ⟨rules, matched, _, given, rfl⟩

theorem evaluate_collect : (table.under .collect none).evaluate context =
    (table.under .ruleOrder none).evaluate context := by
  simp only [evaluate_eq, under_matching, apply_collect, apply_ruleOrder]

theorem evaluate_unique_several {rules : List CompiledRule}
    (matched : table.matching context = .ok rules) (several : 2 ≤ rules.length) :
    (table.under .unique none).evaluate context =
      .error (.conflict ⟨table.decisionId, .unique, rules.map CompiledRule.id⟩) := by
  rw [evaluate_of_matching ((under_matching ..).trans matched)]
  match rules, several with
  | first :: second :: others, _ => rw [apply_unique, if_neg (by simp), Except.map_error]

theorem evaluate_unique_few
    (few : ∀ rules, table.matching context = .ok rules → rules.length < 2) :
    (table.under .unique none).evaluate context = (table.under .first none).evaluate context := by
  simp only [evaluate_eq, under_matching]
  cases matched : table.matching context with
  | error error => rfl
  | ok rules =>
      have short := few rules matched
      match rules, short with
      | [], _ => rfl
      | [only], _ => simp only [Except.ok_bind, apply_unique, apply_first, if_true]
      | first :: second :: others, short => exact absurd short (by simp)

theorem evaluate_first {result : ResultSet}
    (succeeded : (table.under .ruleOrder none).evaluate context = .ok result) :
    (table.under .first none).evaluate context = .ok result.front := by
  obtain ⟨rules, matched, given⟩ := ruleOrder_eq_ok_iff.mp succeeded
  rw [evaluate_of_matching ((under_matching ..).trans matched)]
  cases rules with
  | nil =>
      have empty : [] = result.entries := Except.ok.inj given
      rw [ResultSet.front, ← empty]
      rfl
  | cons first others =>
      simp only [entriesOf, forAll_cons, Except.bind_eq_ok_iff, Except.ok.injEq] at given
      obtain ⟨entry, made, entries, _, all⟩ := given
      simp only [apply_first, made, Except.map_ok, ResultSet.front, ← all, List.take_succ_cons,
        List.take_zero]

/-- Where the rule order has a result, the comparison of its entries decides on any match. -/
theorem evaluate_any {rules : List CompiledRule} {result : ResultSet}
    (matched : table.matching context = .ok rules)
    (given : table.entriesOf context rules = .ok result.entries) :
    (table.under .any none).evaluate context =
      Outcome.ofFault (allAgree result.entries) >>= fun agreed =>
        if agreed then .ok result.front
        else .error (.conflict ⟨table.decisionId, .any, rules.map CompiledRule.id⟩) := by
  rw [evaluate_of_matching ((under_matching ..).trans matched)]
  cases rules with
  | nil =>
      have empty : [] = result.entries := Except.ok.inj given
      rw [ResultSet.front, ← empty]
      rfl
  | cons first others =>
      rw [apply_any, given, Except.ok_bind]
      rcases allAgree result.entries with fault | _ | _
      all_goals rfl

theorem evaluate_priority : (table.under .priority none).evaluate context =
    ((table.under .outputOrder none).evaluate context).map ResultSet.front := by
  simp only [evaluate_eq, under_matching, apply_priority]
  cases table.matching context with
  | error error => rfl
  | ok rules =>
      simp only [Except.ok_bind]
      cases (table.under .outputOrder none).applyHitPolicy context rules <;> rfl

theorem evaluate_count (shaped : table.WellShaped) {column : CompiledOutput}
    (outputs : table.outputs = [column]) :
    (table.under .collect (some .count)).evaluate context =
      ((table.under .ruleOrder none).evaluate context).map fun result =>
        .single column.name (.integer (result.values.countP fun value => !value.isNull))
          (some "integer") := by
  simp only [evaluate_eq, under_matching, apply_ruleOrder]
  cases matched : table.matching context with
  | error error => rfl
  | ok rules =>
      simp only [Except.ok_bind, apply_count shaped outputs matched]
      cases table.entriesOf context rules <;> rfl

theorem evaluate_aggregation (shaped : table.WellShaped) {column : CompiledOutput}
    {aggregation : Aggregation} (outputs : table.outputs = [column])
    (other : aggregation ≠ .count) :
    (table.under .collect (some aggregation)).evaluate context =
      (table.under .ruleOrder none).evaluate context >>= fun result =>
        if result.entries = [] then .ok ⟨[]⟩
        else
          match aggregation.apply result.values table.decisionId with
          | .ok value => .ok (.single column.name value column.typeRef)
          | .error failure => .error (.ofAggregate failure) := by
  simp only [evaluate_eq, under_matching, apply_ruleOrder]
  cases matched : table.matching context with
  | error error => rfl
  | ok rules =>
      simp only [Except.ok_bind, apply_aggregation shaped outputs matched other]
      cases table.entriesOf context rules with
      | error error => rfl
      | ok entries =>
          simp only [Except.ok_bind, Except.map_ok]
          split
          · rfl
          · cases aggregation.apply (ResultSet.mk entries).values table.decisionId <;> rfl

/-- The results of a compiled table under its possible hit policies determine one another. -/
theorem views_agree {options : CompilerOptions} {definition : DecisionDefinition}
    (compiled : definition.compile options = .ok table) (context : Context) :
    table.ViewsAgree context := by
  have shaped := DecisionDefinition.compile_wellShaped compiled
  constructor
  case collect => exact evaluate_collect
  case unique_several =>
    intro subjects evaluated decided rules several
    have matched : table.matching context = .ok rules := by
      simp only [matching, evaluated, Except.ok_bind]
      exact matchingRules_eq_ok_iff.mpr ⟨decided, rfl⟩
    exact evaluate_unique_several matched several
  case unique_otherwise => exact evaluate_unique_few
  case first =>
    intro result succeeded
    exact evaluate_first succeeded
  case any =>
    intro result succeeded
    obtain ⟨rules, matched, given⟩ := ruleOrder_eq_ok_iff.mp succeeded
    rw [evaluate_first succeeded, evaluate_any matched given]
    have told : (∀ operation, AttemptsAllAgree result.entries operation → ¬operation.Undefined) ↔
        ¬Breaks (allAgree result.entries) := by
      simp only [breaks_allAgree_iff, not_exists, not_and]
    rw [told]
    cases allAgree result.entries with
    | error fault =>
        refine iff_of_false ?_ (not_not_intro breaks_fault)
        rintro (⟨⟨⟩⟩ | ⟨_, _, ⟨⟩⟩)
    | ok agreed =>
        refine iff_of_true ?_ not_breaks_ok
        cases agreed with
        | true => exact .inl rfl
        | false => exact .inr ⟨rules, matched, rfl⟩
  case priority => exact evaluate_priority
  case entries =>
    intro result succeeded
    obtain ⟨rules, matched, given⟩ := ruleOrder_eq_ok_iff.mp succeeded
    exact ⟨rules, matched, forAll_length given⟩
  case count =>
    intro column outputs
    exact evaluate_count shaped outputs
  case aggregate =>
    intro column aggregation outputs other
    exact evaluate_aggregation shaped outputs other

/-- A table of two rules that both match, where any of them may answer. One gives what is bound to `x`
and the other one. -/
def unison : DecisionDefinition :=
  ⟨"unison", none, .decisionTable,
    some (.decisionTable ⟨none, some "ANY", none, [], [⟨none, none, none, none, []⟩],
      [⟨none, none, [], ["x"]⟩, ⟨none, none, [], ["1"]⟩]⟩), []⟩

def unisonTable : CompiledTable where
  decisionId := "unison"
  decisionName := none
  hitPolicy := .any
  aggregation := none
  inputs := []
  outputs := [⟨"output0", "unison", none, none, []⟩]
  rules := [
    ⟨"rule0", 0, none, [], [⟨"x", .name ⟨"x", []⟩⟩]⟩,
    ⟨"rule1", 1, none, [], [⟨"1", .literal (.integer 1)⟩]⟩]
  strict := false

theorem unison_compile : unison.compile ⟨"UNIQUE", false⟩ = .ok unisonTable := by
  have recognised : HitPolicy.parse (some "ANY") none "UNIQUE" = .ok (.any, none) :=
    HitPolicy.parse_plain "ANY" (by decide +kernel) rfl rfl
  refine DecisionDefinition.compile_eq_ok rfl rfl ?_ rfl rfl (fun uses => nomatch uses) ?_
  · exact Compile.hitPolicy_eq_ok recognised fun aggregated => nomatch aggregated
  · cbv

/-- A context in which `x` is a signaling not-a-number. -/
def signalingX : Context :=
  .ofBindings [("x", .number (.decimal (.signaling false 0 none)))]

def unisonEntries : List OutputEntry :=
  [⟨[⟨"unison", .number (.decimal (.signaling false 0 none)), none⟩]⟩,
    ⟨[⟨"unison", .integer 1, none⟩]⟩]

/-- The rule order gives both entries there, but any match is neither the first one nor a conflict. -/
theorem unison_views : unison.compile ⟨"UNIQUE", false⟩ = .ok unisonTable ∧
    (unisonTable.under .ruleOrder none).evaluate signalingX = .ok ⟨unisonEntries⟩ ∧
    ¬((unisonTable.under .any none).evaluate signalingX =
        (unisonTable.under .first none).evaluate signalingX ∨
      ∃ rules, unisonTable.matching signalingX = .ok rules ∧
        (unisonTable.under .any none).evaluate signalingX =
          .error (.conflict ⟨"unison", .any, rules.map CompiledRule.id⟩)) := by
  refine ⟨unison_compile, rfl, fun answered => ?_⟩
  have told := ((views_agree unison_compile signalingX).any ⟨unisonEntries⟩ rfl).mp answered
  exact told _ (.values .first rfl) ⟨rfl, .number rfl rfl (.inr rfl)⟩

end CompiledTable

end DecisionTables
