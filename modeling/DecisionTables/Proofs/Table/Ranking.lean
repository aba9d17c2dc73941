import DecisionTables.Proofs.Table.Acceptance
import DecisionTables.Proofs.Table.Cells
import DecisionTables.Proofs.Table.Columns
import DecisionTables.Proofs.Table.Mentions
import DecisionTables.Proofs.Table.Priority

/-!
# Results in the order of priorities

Where priorities decide, the entries of the matching rules are compared by where their values stand
among the allowed values of their columns, column by column. The result is sorted by that, entries
that stand alike keep the order of their rules, and the entry of the highest priority is that of the
first rule among those that stand first. There is no result exactly if the comparison of an output with
an allowed value has no answer. An output entry that is written like an allowed value has the same value
as that, and so stands no later.
-/

namespace DecisionTables

/-- Whether a list of standings comes before another, compared from the first column on. -/
def StandsBefore (left right : List Nat) : Prop :=
  List.Lex (· < ·) left right

namespace CompiledTable

variable {table : CompiledTable} {context : Context} {entries : List OutputEntry}

/-! ## Standings -/

/-- Ranks precede others if they come before them or are the same. -/
theorem precedes_iff {left right : List Nat} :
    precedes left right = true ↔ StandsBefore left right ∨ left = right := by
  induction left generalizing right with
  | nil =>
      cases right with
      | nil => exact iff_of_true rfl (.inr rfl)
      | cons second rights => exact iff_of_true rfl (.inl .nil)
  | cons first lefts ih =>
      cases right with
      | nil => simp [precedes, StandsBefore]
      | cons second rights =>
          simp only [precedes, Bool.or_eq_true, Bool.and_eq_true, decide_eq_true_eq, beq_iff_eq,
            ih, StandsBefore, List.cons_lex_cons_iff, List.cons.injEq, and_or_left, or_assoc]

/-- An entry with a value for every column has a standing for every column with allowed values. -/
theorem length_standings {entry : OutputEntry}
    (complete : entry.values.length = table.outputs.length) :
    (table.standings entry).length =
      table.outputs.countP fun column => !column.priorities.isEmpty := by
  have columns : (table.outputs.zip entry.values).map Prod.fst = table.outputs :=
    List.map_fst_zip (Nat.le_of_eq complete.symm)
  calc (table.standings entry).length
    _ = (table.outputs.zip entry.values).countP fun cell => !cell.1.priorities.isEmpty := by
        rw [standings, List.length_map, List.countP_eq_length_filter]
    _ = ((table.outputs.zip entry.values).map Prod.fst).countP fun column =>
          !column.priorities.isEmpty := by
        rw [List.countP_map]
        rfl
    _ = table.outputs.countP fun column => !column.priorities.isEmpty := by rw [columns]

/-! ## Sorted entries -/

theorem byStanding_sorted (table : CompiledTable) (entries : List OutputEntry) :
    (table.byStanding entries).Pairwise fun left right =>
      StandsBefore (table.standings left) (table.standings right) ∨
        table.standings left = table.standings right := by
  apply (byStanding_ascending table entries).imp
  intro left right ascending
  exact precedes_iff.mp ascending

/-- Entries that stand alike keep their order. -/
theorem byStanding_stable (table : CompiledTable) (entries : List OutputEntry)
    (standings : List Nat) :
    (table.byStanding entries).filter (fun entry => table.standings entry = standings) =
      entries.filter fun entry => table.standings entry = standings := by
  have alike : (entries.filter fun entry => table.standings entry = standings).Pairwise
      fun left right => precedes (table.standings left) (table.standings right) = true := by
    apply List.pairwise_of_forall_mem_list
    intro left inLeft right inRight
    have atLeft := of_decide_eq_true (List.mem_filter.mp inLeft).2
    have atRight := of_decide_eq_true (List.mem_filter.mp inRight).2
    rw [precedes_iff, atLeft, atRight]
    exact .inr rfl
  have kept : (entries.filter fun entry => table.standings entry = standings).Sublist
      (table.byStanding entries) := by
    apply List.sublist_mergeSort _ _ alike List.filter_sublist
    · intro first second third
      exact precedes_trans
    · intro left right
      rw [Bool.or_eq_true]
      exact precedes_total _ _
  -- What is kept are entries of these standings, so they are found among those of the sorted list,
  -- and there are as many of them.
  have found := kept.filter fun entry => decide (table.standings entry = standings)
  simp only [List.filter_filter, Bool.and_self] at found
  exact (found.eq_of_length ((byStanding_perm table entries).filter _).length_eq.symm).symm

/-- The first of the sorted entries is the first of those that stand first. -/
theorem byStanding_head {best : OutputEntry} {rest : List OutputEntry}
    (sorted : table.byStanding entries = best :: rest) :
    ∃ before after, entries = before ++ best :: after ∧
      (∀ other ∈ before, StandsBefore (table.standings best) (table.standings other)) ∧
      ∀ other ∈ after, StandsBefore (table.standings best) (table.standings other) ∨
        table.standings best = table.standings other := by
  have stable := byStanding_stable table entries (table.standings best)
  have front : (best :: rest).filter (fun entry => table.standings entry = table.standings best) =
      best :: rest.filter fun entry => table.standings entry = table.standings best :=
    List.filter_cons_of_pos (decide_eq_true rfl)
  rw [sorted, front, eq_comm, List.filter_eq_cons_iff] at stable
  obtain ⟨before, after, split, differ, -, -⟩ := stable
  have ascending := byStanding_sorted table entries
  rw [sorted] at ascending
  have least (other : OutputEntry) (among : other ∈ entries) :
      StandsBefore (table.standings best) (table.standings other) ∨
        table.standings best = table.standings other := by
    rw [← (byStanding_perm table entries).mem_iff, sorted] at among
    rcases List.mem_cons.mp among with rfl | among
    · exact .inr rfl
    · exact List.rel_of_pairwise_cons ascending among
  refine ⟨before, after, split, ?_, ?_⟩
  · intro other among
    apply (least other (split ▸ List.mem_append_left _ among)).resolve_right
    intro same
    exact differ other among (decide_eq_true same.symm)
  · intro other among
    exact least other (split ▸ List.mem_append_right _ (List.mem_cons_of_mem _ among))

/-! ## Results -/

theorem evaluate_of_priorities (regular : table.Regular) {rules : List CompiledRule}
    (uses : table.hitPolicy.usesPriorities = true) (matched : table.matching context = .ok rules)
    (given : table.entriesOf context rules = .ok entries) :
    table.evaluate context = (table.conclude rules entries).map ResultSet.mk := by
  have all : table.contributing rules = rules := by
    rw [contributing_eq (by rintro first; simp [first, HitPolicy.usesPriorities] at uses),
      if_neg (by rintro ⟨unique, _⟩; simp [unique, HitPolicy.usesPriorities] at uses)]
  rw [evaluate_of_matching matched, applyHitPolicy_eq regular, all, given, Except.ok_bind]

/-- What it means that priorities decide on the result, where these are the entries of the matching
rules in the order of the table. -/
structure DecidedByPriority (table : CompiledTable) (context : Context)
    (entries : List OutputEntry) : Prop where
  /-- All entries are compared by the same columns, those that have allowed values. -/
  compared : ∀ entry ∈ entries, (table.standings entry).length =
    table.outputs.countP fun column => !column.priorities.isEmpty
  /-- The entries are given in the order of their standings, those that stand alike in the order of
  their rules. -/
  outputOrder : table.hitPolicy = .outputOrder →
    ∃ sorted, table.evaluate context = .ok ⟨sorted⟩ ∧ sorted.Perm entries ∧
      sorted.Pairwise (fun left right =>
        StandsBefore (table.standings left) (table.standings right) ∨
          table.standings left = table.standings right) ∧
      ∀ standings, sorted.filter (fun entry => table.standings entry = standings) =
        entries.filter fun entry => table.standings entry = standings
  /-- Without a matching rule there is no entry. -/
  none : table.hitPolicy = .priority → entries = [] → table.evaluate context = .ok ⟨[]⟩
  /-- Otherwise the entry is that of the first rule among those that stand first. -/
  priority : table.hitPolicy = .priority → entries ≠ [] →
    ∃ before best after, entries = before ++ best :: after ∧
      table.evaluate context = .ok ⟨[best]⟩ ∧
      (∀ other ∈ before, StandsBefore (table.standings best) (table.standings other)) ∧
      ∀ other ∈ after, StandsBefore (table.standings best) (table.standings other) ∨
        table.standings best = table.standings other

/-- Whether every entry can be ranked: no comparison with an allowed value is without an answer. -/
def Rankable (table : CompiledTable) (entries : List OutputEntry) : Prop :=
  ∀ entry ∈ entries, ∀ operation,
    AttemptsRanks table.outputs entry.values operation → ¬operation.Undefined

theorem rankable_iff : table.Rankable entries ↔
    ∀ entry ∈ entries, ¬Breaks (ranks table.outputs entry.values) := by
  simp only [Rankable, breaks_ranks_iff, not_exists, not_and]

theorem byPriority_of_rankable (rankable : table.Rankable entries) :
    table.byPriority entries = .ok (table.byStanding entries) :=
  byPriority_eq_ok_iff.mpr ⟨rankable_iff.mp rankable, rfl⟩

theorem decidedByPriority_of_rankable (regular : table.Regular) {rules : List CompiledRule}
    (matched : table.matching context = .ok rules)
    (given : table.entriesOf context rules = .ok entries)
    (rankable : table.hitPolicy.usesPriorities = true → table.Rankable entries) :
    table.DecidedByPriority context entries := by
  have concluded (uses : table.hitPolicy.usesPriorities = true) :=
    evaluate_of_priorities regular uses matched given
  have sorts (uses : table.hitPolicy.usesPriorities = true) :=
    byPriority_of_rankable (rankable uses)
  constructor
  case compared =>
    intro entry among
    obtain ⟨_, _, rfl⟩ := matching_eq_filter matched
    obtain ⟨rule, member, made⟩ := forAll_mem given among
    exact length_standings
      (entryOf_length regular.toWellShaped (List.mem_filter.mp member).1 made)
  case outputOrder =>
    intro policy
    have uses : table.hitPolicy.usesPriorities = true := by rw [policy]; rfl
    refine ⟨table.byStanding entries, ?_, byStanding_perm table entries,
      byStanding_sorted table entries, byStanding_stable table entries⟩
    rw [concluded uses, conclude, policy]
    simp only [sorts uses, Except.map_ok]
  case none =>
    intro policy empty
    subst empty
    have uses : table.hitPolicy.usesPriorities = true := by rw [policy]; rfl
    rw [concluded uses, conclude, policy]
    simp only [sorts uses, byStanding, List.mergeSort_nil, Except.map_ok, List.take_nil]
  case priority =>
    intro policy nonempty
    have uses : table.hitPolicy.usesPriorities = true := by rw [policy]; rfl
    cases sorted : table.byStanding entries with
    | nil =>
        exact absurd (List.perm_nil.mp (sorted ▸ (byStanding_perm table entries).symm)) nonempty
    | cons best rest =>
        obtain ⟨before, after, split, earlier, later⟩ := byStanding_head sorted
        refine ⟨before, best, after, split, ?_, earlier, later⟩
        rw [concluded uses, conclude, policy]
        simp only [sorts uses, sorted, Except.map_ok, List.take_succ_cons, List.take_zero]

/-- A run in the order of priorities that gives a result has ranked every entry. -/
theorem rankable_of_evaluate (regular : table.Regular) {rules : List CompiledRule}
    (uses : table.hitPolicy.usesPriorities = true) (matched : table.matching context = .ok rules)
    (given : table.entriesOf context rules = .ok entries) {result : ResultSet}
    (ended : table.evaluate context = .ok result) : table.Rankable entries := by
  rw [evaluate_of_priorities regular uses matched given] at ended
  obtain ⟨concluded, shown, _⟩ := Except.map_eq_ok_iff.mp ended
  have sorted : ∃ sorted, table.byPriority entries = .ok sorted := by
    cases policy : table.hitPolicy with
    | outputOrder =>
        simp only [conclude, policy] at shown
        exact ⟨_, shown⟩
    | priority =>
        simp only [conclude, policy] at shown
        obtain ⟨sorted, shown, _⟩ := Except.map_eq_ok_iff.mp shown
        exact ⟨_, shown⟩
    | first | unique | any | collect | ruleOrder => simp [policy, HitPolicy.usesPriorities] at uses
  obtain ⟨_, sorted⟩ := sorted
  exact rankable_iff.mpr (byPriority_eq_ok_iff.mp sorted).1

/-- Priorities decide on the result exactly if the entries can be ranked, where they are to be. -/
theorem decidedByPriority_iff (regular : table.Regular) {rules : List CompiledRule}
    (matched : table.matching context = .ok rules)
    (given : table.entriesOf context rules = .ok entries) :
    table.DecidedByPriority context entries ↔
      (table.hitPolicy.usesPriorities = true → table.Rankable entries) := by
  refine ⟨?_, decidedByPriority_of_rankable regular matched given⟩
  intro decided uses
  have ranks {result : ResultSet} (ended : table.evaluate context = .ok result) :=
    rankable_of_evaluate regular uses matched given ended
  cases policy : table.hitPolicy with
  | outputOrder =>
      obtain ⟨_, ended, _⟩ := decided.outputOrder policy
      exact ranks ended
  | priority =>
      by_cases empty : entries = []
      · exact ranks (decided.none policy empty)
      · obtain ⟨_, _, _, _, ended, _⟩ := decided.priority policy empty
        exact ranks ended
  | first | unique | any | collect | ruleOrder => simp [policy, HitPolicy.usesPriorities] at uses

end CompiledTable

/-! ## Values that are written alike -/

theorem Value.standing_le {allowed : List Value} {value : Value} {position : Nat}
    (placed : allowed[position]? = some value) (named : value.WellNamed)
    (definite : value.Definite) : value.standing allowed ≤ position := by
  obtain ⟨within, rfl⟩ := List.getElem?_eq_some_iff.mp placed
  by_contra later
  have differs := List.not_of_lt_findIdx (Nat.lt_of_not_le later)
  rw [decide_eq_false_iff_not] at differs
  exact differs (equals_iff.mpr ⟨rfl, .refl named definite⟩)

/-- Whether an output entry that is written like an allowed value of its column stands no later than
that, unless its value is or holds a not-a-number. -/
def DecisionDefinition.StandsAsWritten (definition : DecisionDefinition) (table : CompiledTable)
    (context : Context) : Prop :=
  ∀ (logic : TableLogic) (row column position : Nat) (declared : RuleDefinition)
    (clause : OutputClause) (text : String) (rule : CompiledRule) (output : CompiledOutput)
    (entry : OutputEntry),
    definition.logic = some (.decisionTable logic) →
    logic.rules[row]? = some declared → declared.outputEntries[column]? = some text →
    logic.outputs[column]? = some clause → clause.outputValues[position]? = some text →
    table.rules[row]? = some rule → table.outputs[column]? = some output →
    table.entryOf context rule = .ok entry →
      ∃ given, entry.values[column]? = some given ∧
        (given.value.Definite → given.value.standing output.priorities ≤ position)

namespace CompiledTable

variable {options : CompilerOptions} {definition : DecisionDefinition} {table : CompiledTable}
  {context : Context}

theorem standsAsWritten_of_compile (compiled : definition.compile options = .ok table) :
    definition.StandsAsWritten table context := by
  intro logic row column position declared clause text rule output entry payload ruleAt textAt
    clauseAt valueAt compiledRuleAt outputAt made
  obtain ⟨found, compiles⟩ := DecisionDefinition.compilesTo_of_compile compiled
  cases payload.symm.trans compiles.payload
  have clauseNumbered : logic.outputs.zipIdx[column]? = some (clause, column) := by
    simp [List.getElem?_zipIdx, clauseAt]
  have ruleNumbered : logic.rules.zipIdx[row]? = some (declared, row) := by
    simp [List.getElem?_zipIdx, ruleAt]
  obtain ⟨_, again, clauseBecomes⟩ := related_at compiles.outputs clauseNumbered
  cases again.symm.trans outputAt
  obtain ⟨_, again, ruleBecomes⟩ := related_at compiles.rules ruleNumbered
  cases again.symm.trans compiledRuleAt
  obtain ⟨allowed, allowedAt, isAllowed⟩ := related_at clauseBecomes.priorities valueAt
  obtain ⟨expression, expressionAt, read⟩ := related_at ruleBecomes.outputs textAt
  obtain ⟨values, evaluated, rfl⟩ := Except.map_eq_ok_iff.mp made
  rw [outputValues_eq, forAll_eq_ok_iff] at evaluated
  have paired : (table.outputs.zip rule.outputs)[column]? = some (output, expression) :=
    List.getElem?_zip_eq_some.mpr ⟨outputAt, expressionAt⟩
  obtain ⟨given, givenAt, cell⟩ := related_at evaluated paired
  refine ⟨given, givenAt, fun definite => ?_⟩
  -- The same expression is evaluated for the allowed value, without variables, and for the output.
  have constant : Compile.constant options "" "" (clause.typeRef.bind TypeRef.normalize) text =
      .ok allowed :=
    Compile.constant_eq_ok_iff.mpr isAllowed
  have same : given.value = allowed := by
    obtain ⟨_, raw, readToo, evaluates, coerced⟩ := Compile.evaluate_of_constant constant context
    cases readToo.symm.trans read
    obtain ⟨value, found, rfl⟩ := Except.map_eq_ok_iff.mp cell
    obtain ⟨_, evaluatesToo, coercedToo⟩ := cellValue_eq_ok_iff.mp found
    cases (CompiledExpression.evaluate_eq_ok_iff.mp evaluates).symm.trans evaluatesToo
    rw [compiles.strict, clauseBecomes.typeRef, coerced] at coercedToo
    exact (Except.ok.inj coercedToo).symm
  rw [same] at definite ⊢
  exact Value.standing_le allowedAt isAllowed.elementary.wellNamed definite

/-- Priorities decide on the result of a compiled table exactly if the outputs can be ranked, and an
output entry that is written like an allowed value stands no later than that. -/
theorem decidedByPriority_of_compile (compiled : definition.compile options = .ok table)
    (context : Context) :
    (∀ rules entries, table.matching context = .ok rules →
      table.entriesOf context rules = .ok entries →
        (table.DecidedByPriority context entries ↔
          (table.hitPolicy.usesPriorities = true → table.Rankable entries))) ∧
      definition.StandsAsWritten table context := by
  have regular := DecisionDefinition.compile_regular compiled
  refine ⟨?_, standsAsWritten_of_compile compiled⟩
  intro rules entries matched given
  exact decidedByPriority_iff regular matched given

/-- A table in the order of its outputs, of which one is what is bound to `x` and two are the same. -/
def grades : DecisionDefinition :=
  ⟨"grades", none, .decisionTable,
    some (.decisionTable ⟨none, some "OUTPUT ORDER", none, [],
      [⟨none, none, none, none, ["2", "1"]⟩],
      [⟨none, none, [], ["x"]⟩, ⟨none, none, [], ["1"]⟩, ⟨none, none, [], ["2"]⟩,
        ⟨none, none, [], ["2-1"]⟩]⟩), []⟩

def gradesTable : CompiledTable where
  decisionId := "grades"
  decisionName := none
  hitPolicy := .outputOrder
  aggregation := none
  inputs := []
  outputs := [⟨"output0", "grades", none, none, [.integer 2, .integer 1]⟩]
  rules := [
    ⟨"rule0", 0, none, [], [⟨"x", .name ⟨"x", []⟩⟩]⟩,
    ⟨"rule1", 1, none, [], [⟨"1", .literal (.integer 1)⟩]⟩,
    ⟨"rule2", 2, none, [], [⟨"2", .literal (.integer 2)⟩]⟩,
    ⟨"rule3", 3, none, [],
      [⟨"2-1", .arithmetic .sub (.literal (.integer 2)) (.literal (.integer 1))⟩]⟩]
  strict := false

theorem grades_compile : grades.compile ⟨"UNIQUE", false⟩ = .ok gradesTable := by
  have recognised : HitPolicy.parse (some "OUTPUT ORDER") none "UNIQUE" =
      .ok (.outputOrder, none) :=
    HitPolicy.parse_plain "OUTPUT ORDER" (by decide +kernel) rfl rfl
  refine DecisionDefinition.compile_eq_ok rfl rfl ?_ rfl ?_
    (fun _ => ⟨_, List.mem_cons_self, rfl⟩) ?_
  · exact Compile.hitPolicy_eq_ok recognised fun aggregated => nomatch aggregated
  · cbv
  · cbv

/-- The entries of that table where `x` is a given value. -/
def gradesEntries (x : Value) : List OutputEntry :=
  [x, .integer 1, .integer 2, .integer 1].map fun value => ⟨[⟨"grades", value, none⟩]⟩

/-- Priorities decide where `x` is true, which is no allowed value, but not where it is a signaling
not-a-number. -/
theorem grades_decidedByPriority : grades.compile ⟨"UNIQUE", false⟩ = .ok gradesTable ∧
    gradesTable.DecidedByPriority (.ofBindings [("x", .boolean true)])
      (gradesEntries (.boolean true)) ∧
    gradesTable.matching signalingX = .ok gradesTable.rules ∧
    gradesTable.entriesOf signalingX gradesTable.rules =
      .ok (gradesEntries (.number (.decimal (.signaling false 0 none)))) ∧
    ¬gradesTable.DecidedByPriority signalingX
      (gradesEntries (.number (.decimal (.signaling false 0 none)))) ∧
    grades.StandsAsWritten gradesTable signalingX := by
  have answered : gradesTable.DecidedByPriority (.ofBindings [("x", .boolean true)])
      (gradesEntries (.boolean true)) := by
    refine ((decidedByPriority_of_compile grades_compile _).1 _ _ rfl rfl).mpr fun _ => ?_
    have sorts : gradesTable.byPriority (gradesEntries (.boolean true)) = .ok _ := rfl
    exact rankable_iff.mpr (byPriority_eq_ok_iff.mp sorts).1
  obtain ⟨decided, written⟩ := decidedByPriority_of_compile grades_compile signalingX
  refine ⟨grades_compile, answered, rfl, rfl, fun decides => ?_, written⟩
  have rankable := (decided _ _ rfl rfl).mp decides rfl
  exact rankable _ List.mem_cons_self _ (.here .here) ⟨rfl, .number rfl rfl (.inr rfl)⟩

end CompiledTable

end DecisionTables
