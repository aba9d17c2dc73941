import DecisionTables.Proofs.Table.Acceptance
import DecisionTables.Proofs.Table.Agreement
import DecisionTables.Proofs.Table.Cells
import DecisionTables.Proofs.Table.Columns
import DecisionTables.Proofs.Table.Priority

/-!
# What depends on the order of rules and columns

Where no cell fails, the rules that match are found one by one and so are the entries that they give,
whatever the order of the columns and of the rules. Their order is seen by the hit policy alone, and
of what it makes of them a policy promises only what it is there for: a unique match is the same match
in every order, any match is an equal one, and a match of the highest priority has the same rank.
Entries that are collected follow the rules, and their number does not change. A policy that compares
outputs needs an answer to every comparison that it comes to: a signaling not-a-number in a list or a map
can leave it without one, and whether it comes to that comparison depends on the order of the rules.
-/

namespace DecisionTables

namespace Outcome

/-- Whether two outcomes are results that stand in a relation. -/
def BothGive (related : ResultSet → ResultSet → Prop) (left right : Outcome ResultSet) : Prop :=
  ∃ result other, left = .ok result ∧ right = .ok other ∧ related result other

/-- Whether two outcomes are conflicts that name the same rules, in whatever order. -/
def SameConflict (left right : Outcome ResultSet) : Prop :=
  ∃ conflict : RuleConflict, ∃ ids : List String, ids.Perm conflict.ruleIds ∧
    left = .error (.conflict conflict) ∧ right = .error (.conflict { conflict with ruleIds := ids })

end Outcome

namespace CompiledTable

open Outcome

/-- The table with its rules in another order. -/
def withRules (table : CompiledTable) (rules : List CompiledRule) : CompiledTable :=
  { table with rules := rules }

/-- Whether every output of the matching rules is of a kind. -/
def OutputsAre (table : CompiledTable) (context : Context) (kind : Value → Prop) : Prop :=
  ∀ rules entries, table.matching context = .ok rules → table.entriesOf context rules = .ok entries →
    ∀ entry ∈ entries, ∀ output ∈ entry.values, kind output.value

/-- Whether the entries of the matching rules can be compared with the first of them. -/
def MatchesComparable (table : CompiledTable) (context : Context) : Prop :=
  ∀ rules entries, table.matching context = .ok rules → table.entriesOf context rules = .ok entries →
    ∀ operation, AttemptsAllAgree entries operation → ¬operation.Undefined

/-- What the outcome of a table keeps when its rules are put into another order. The policy of the
first match and the sums and extremes of collected values promise nothing. -/
structure Reordered (table : CompiledTable) (others : List CompiledRule) (context : Context) :
    Prop where
  /-- A unique match is the same match, and several are a conflict of the same rules. -/
  unique : table.hitPolicy = .unique →
    BothGive (fun result other => other = result) (table.evaluate context)
        ((table.withRules others).evaluate context) ∨
      SameConflict (table.evaluate context) ((table.withRules others).evaluate context)
  /-- Any match is the same match or an equal one, or the rules are in conflict, exactly if the matches
  can be compared in both orders. -/
  any : table.hitPolicy = .any →
    (BothGive (fun result other => other = result ∨ other.agrees result = .ok true)
        (table.evaluate context) ((table.withRules others).evaluate context) ∨
      SameConflict (table.evaluate context) ((table.withRules others).evaluate context) ↔
        table.MatchesComparable context ∧ (table.withRules others).MatchesComparable context)
  /-- They can be compared in every order if no output is or holds a signaling not-a-number. -/
  comparable : table.hitPolicy = .any → table.OutputsAre context Value.Silent →
    table.MatchesComparable context ∧ (table.withRules others).MatchesComparable context
  /-- The entries of rules that are collected or kept in order follow their rules. -/
  collected : table.hitPolicy = .ruleOrder ∨
      table.hitPolicy = .collect ∧ table.aggregation = none →
    ∃ (selects : CompiledRule → Bool) (entry : CompiledRule → OutputEntry),
      table.evaluate context = .ok ⟨(table.rules.filter selects).map entry⟩ ∧
        (table.withRules others).evaluate context = .ok ⟨(others.filter selects).map entry⟩
  /-- A count is the same. -/
  counted : table.aggregation = some .count →
    BothGive (fun result other => other = result) (table.evaluate context)
      ((table.withRules others).evaluate context)
  /-- The match of the highest priority, if there is one, has the same ranks. -/
  priority : table.hitPolicy = .priority →
    table.OutputsAre context (fun value => ¬value.IsSignaling) →
    BothGive (fun result other => result.entries.length ≤ 1 ∧
        other.entries.map table.standings = result.entries.map table.standings)
      (table.evaluate context) ((table.withRules others).evaluate context)
  /-- The entries by priority are the same ones and have the same ranks one after the other. -/
  outputOrder : table.hitPolicy = .outputOrder →
    table.OutputsAre context (fun value => ¬value.IsSignaling) →
    BothGive (fun result other => other.entries.Perm result.entries ∧
        other.entries.map table.standings = result.entries.map table.standings)
      (table.evaluate context) ((table.withRules others).evaluate context)

/-- What does not depend on the order of the input columns and of the rules. -/
structure OrderIndependent (table : CompiledTable) (context : Context) : Prop where
  /-- The outcome is the same in every order of the input columns in which no cell fails. -/
  columns : ∀ order : List Nat, order.Perm (List.range table.inputs.length) →
    (table.rearranged order).CellsSucceed context →
      (table.rearranged order).evaluate context = table.evaluate context
  /-- Every order of the rules keeps what the hit policy promises. -/
  rules : ∀ others : List CompiledRule, others.Perm table.rules → table.Reordered others context

variable {table : CompiledTable} {context : Context} {rules others : List CompiledRule}

/-! ## The stages of a run -/

theorem samePolicy_withRules (table : CompiledTable) (others : List CompiledRule) :
    SamePolicy table (table.withRules others) :=
  ⟨rfl, rfl, rfl, rfl⟩

/-- The rules that match in another order are those that match, in that order. -/
theorem matching_withRules (perm : others.Perm table.rules)
    (found : table.matching context = .ok rules) :
    ∃ selects : CompiledRule → Bool, rules = table.rules.filter selects ∧
      (table.withRules others).matching context = .ok (others.filter selects) := by
  simp only [matching, Except.bind_eq_ok_iff] at found
  obtain ⟨subjects, evaluated, found⟩ := found
  obtain ⟨decided, rfl⟩ := matchingRules_eq_ok_iff.mp found
  have same : (table.withRules others).matchesRule context subjects =
      table.matchesRule context subjects := by
    funext rule
    exact conditionsAccept_congr (samePolicy_withRules table others).decisionId
  refine ⟨_, rfl, ?_⟩
  rw [matching, Except.bind_eq_ok_iff]
  refine ⟨subjects, evaluated, ?_⟩
  rw [matchingRules_eq_ok_iff, same]
  exact ⟨fun rule among => decided rule (perm.mem_iff.mp among), rfl⟩

theorem withRules_applyHitPolicy (rules : List CompiledRule) :
    (table.withRules others).applyHitPolicy context rules = table.applyHitPolicy context rules := by
  have same := samePolicy_withRules table others
  refine (coupled_applyHitPolicy coupling_eq same rfl ?_).symm
  rw [same.entryOf rfl]
  exact List.forall₂_same.mpr fun rule _ => rfl

/-- The entry of a rule, if its cells have values. -/
def entryAt (table : CompiledTable) (context : Context) (rule : CompiledRule) : OutputEntry :=
  match table.entryOf context rule with
  | .ok entry => entry
  | .error _ => ⟨[]⟩

theorem entriesOf_eq_map (each : ∀ rule ∈ rules, ∃ entry, table.entryOf context rule = .ok entry) :
    table.entriesOf context rules = .ok (rules.map (table.entryAt context)) := by
  rw [entriesOf, forAll_eq_ok_iff, List.forall₂_map_right_iff]
  refine List.forall₂_same.mpr fun rule among => ?_
  obtain ⟨entry, given⟩ := each rule among
  simp [entryAt, given]

theorem wellNamed_entryAt {options : CompilerOptions} {definition : DecisionDefinition}
    (compiled : definition.compile options = .ok table) (named : context.WellNamed)
    {rule : CompiledRule} (declared : rule ∈ table.rules) :
    (table.entryAt context rule).WellNamed := by
  unfold entryAt
  split
  · rename_i given
    exact wellNamed_of_entryOf compiled named declared given
  · intro output among
    cases among

theorem contributing_perm (notFirst : table.hitPolicy ≠ .first) (perm : others.Perm rules) :
    (table.contributing others).Perm (table.contributing rules) := by
  rw [contributing_eq notFirst, contributing_eq notFirst, perm.length_eq]
  split
  · exact .refl []
  · exact perm

theorem contributing_all (notFirst : table.hitPolicy ≠ .first)
    (notUnique : table.hitPolicy ≠ .unique) (rules : List CompiledRule) :
    table.contributing rules = rules := by
  rw [contributing_eq notFirst, if_neg fun both => notUnique both.1]

/-- The outcome of a run in which the given rules match and no cell fails. -/
def settled (table : CompiledTable) (context : Context) (rules : List CompiledRule) :
    Outcome ResultSet :=
  (table.conclude rules ((table.contributing rules).map (table.entryAt context))).map ResultSet.mk

/-- Whether the given rules match in a run with the rules of the table in some order, and the entries
that the policy asks for have values. -/
structure MatchedIn (table : CompiledTable) (context : Context) (ordered rules : List CompiledRule) :
    Prop where
  matched : (table.withRules ordered).matching context = .ok rules
  given : table.entriesOf context (table.contributing rules) =
    .ok ((table.contributing rules).map (table.entryAt context))

theorem MatchedIn.evaluate (regular : table.Regular) {ordered : List CompiledRule}
    (found : table.MatchedIn context ordered rules) :
    (table.withRules ordered).evaluate context = table.settled context rules := by
  rw [evaluate_of_matching found.matched, withRules_applyHitPolicy, applyHitPolicy_eq regular,
    found.given, Except.ok_bind]
  rfl

/-- Where no cell fails, a run and one with the rules in another order settle the same rules, each in
its order. -/
theorem matchedIn_of_cellsSucceed (notFirst : table.hitPolicy ≠ .first)
    (succeed : table.CellsSucceed context) (perm : others.Perm table.rules) :
    ∃ selects : CompiledRule → Bool,
      table.MatchedIn context table.rules (table.rules.filter selects) ∧
        table.MatchedIn context others (others.filter selects) := by
  obtain ⟨rules, entries, matched, given⟩ := succeed
  obtain ⟨selects, rfl, matchedToo⟩ := matching_withRules perm matched
  -- The same entries are asked for in every order, so one run that gives them is enough.
  have asked {found : List CompiledRule} (perm : found.Perm (table.rules.filter selects)) :
      table.entriesOf context (table.contributing found) =
        .ok ((table.contributing found).map (table.entryAt context)) := by
    apply entriesOf_eq_map
    intro rule among
    exact forAll_item given ((contributing_perm notFirst perm).mem_iff.mp among)
  exact ⟨selects, ⟨matched, asked (.refl _)⟩, ⟨matchedToo, asked (perm.filter selects)⟩⟩

section AllAsked

variable {ordered : List CompiledRule} (all : table.contributing rules = rules)
  (found : table.MatchedIn context ordered rules)

include all found

theorem MatchedIn.entriesOf : (table.withRules ordered).entriesOf context rules =
    .ok (rules.map (table.entryAt context)) := by
  have given := found.given
  rwa [all, CompiledTable.entriesOf,
    ← (samePolicy_withRules table ordered).entryOf rfl context] at given

theorem MatchedIn.matchesComparable_iff : (table.withRules ordered).MatchesComparable context ↔
    ¬Breaks (allAgree (rules.map (table.entryAt context))) := by
  simp only [breaks_allAgree_iff, not_exists, not_and]
  constructor
  · intro comparable
    exact comparable rules _ found.matched (found.entriesOf all)
  · intro told others entries matched given
    cases matched.symm.trans found.matched
    cases given.symm.trans (found.entriesOf all)
    exact told

end AllAsked

/-- A policy that asks for the entries of all matching rules concludes from these. -/
theorem settled_of_all (notFirst : table.hitPolicy ≠ .first) (notUnique : table.hitPolicy ≠ .unique)
    (rules : List CompiledRule) :
    table.settled context rules =
      (table.conclude rules (rules.map (table.entryAt context))).map ResultSet.mk := by
  rw [settled, contributing_all notFirst notUnique]

/-! ## The policies -/

theorem settled_collected (policy : table.hitPolicy = .ruleOrder ∨
      table.hitPolicy = .collect ∧ table.aggregation = none) (rules : List CompiledRule) :
    table.settled context rules = .ok ⟨rules.map (table.entryAt context)⟩ := by
  rcases policy with policy | ⟨policy, unaggregated⟩
  · rw [settled_of_all (by simp [policy]) (by simp [policy])]
    simp only [conclude, policy, Except.map_ok]
  · rw [settled_of_all (by simp [policy]) (by simp [policy])]
    simp only [conclude, policy, unaggregated, Except.map_ok]

/-- A count does not depend on the order of the entries. -/
theorem aggregatedEntry_count (table : CompiledTable) {entries found : List OutputEntry}
    (perm : found.Perm entries) :
    ∃ entry, table.aggregatedEntry .count entries = .ok entry ∧
      table.aggregatedEntry .count found = .ok entry := by
  unfold aggregatedEntry
  cases table.outputs with
  | nil => exact ⟨_, rfl, rfl⟩
  | cons column columns =>
      have values : (firstValues found).Perm (firstValues entries) := perm.filterMap _
      have counted := (values.filter fun value => !value.isNull).length_eq
      simp only [Aggregation.apply, counted]
      exact ⟨_, rfl, rfl⟩

/-- The entries of rules in the order of their standings, where they can be ranked. -/
theorem byPriority_entryAt (found : List CompiledRule) (same : found.Perm rules)
    (ranked : ∀ rule ∈ rules, ¬Breaks (ranks table.outputs (table.entryAt context rule).values)) :
    table.byPriority (found.map (table.entryAt context)) =
      .ok (table.byStanding (found.map (table.entryAt context))) := by
  refine byPriority_eq_ok_iff.mpr ⟨List.forall_mem_map.mpr ?_, rfl⟩
  exact fun rule among => ranked rule (same.mem_iff.mp among)

section Policies

variable (perm : others.Perm rules)

include perm

theorem settled_unique (policy : table.hitPolicy = .unique) :
    BothGive (fun result other => other = result) (table.settled context rules)
        (table.settled context others) ∨
      SameConflict (table.settled context rules) (table.settled context others) := by
  by_cases few : rules.length ≤ 1
  · have same : others = rules := by
      match rules, few with
      | [], _ => exact perm.eq_nil
      | [rule], _ => exact List.perm_singleton.mp perm
    have concluded : table.settled context rules =
        .ok ⟨(table.contributing rules).map (table.entryAt context)⟩ := by
      simp only [settled, conclude, policy, few, if_true, Except.map_ok]
    exact .inl ⟨_, _, concluded, same ▸ concluded, rfl⟩
  · have conflicts {found : List CompiledRule} (several : ¬found.length ≤ 1) :
        table.settled context found =
          .error (.conflict ⟨table.decisionId, .unique, found.map CompiledRule.id⟩) := by
      simp only [settled, conclude, policy, several, if_false, Except.map_error, conflict]
    have fewToo : ¬others.length ≤ 1 := perm.length_eq ▸ few
    exact .inr ⟨_, others.map CompiledRule.id, perm.map _, conflicts few, conflicts fewToo⟩

/-- Where any match may answer, both orders are settled alike exactly if both comparisons have an
answer, which is then the same. -/
theorem settled_any_iff (policy : table.hitPolicy = .any)
    (named : ∀ rule ∈ rules, (table.entryAt context rule).WellNamed) :
    BothGive (fun result other => other = result ∨ other.agrees result = .ok true)
        (table.settled context rules) (table.settled context others) ∨
      SameConflict (table.settled context rules) (table.settled context others) ↔
        ¬Breaks (allAgree (rules.map (table.entryAt context))) ∧
          ¬Breaks (allAgree (others.map (table.entryAt context))) := by
  have entries := perm.map (table.entryAt context)
  have namedEntries : ∀ entry ∈ rules.map (table.entryAt context), entry.WellNamed :=
    List.forall_mem_map.mpr named
  have concluded (found : List CompiledRule) : table.settled context found =
      Outcome.ofFault (allAgree (found.map (table.entryAt context))) >>= fun agreed =>
        if agreed then .ok ⟨(found.map (table.entryAt context)).take 1⟩
        else .error (.conflict ⟨table.decisionId, .any, found.map CompiledRule.id⟩) := by
    rw [settled_of_all (by simp [policy]) (by simp [policy])]
    simp only [conclude, policy, conflict]
    rcases allAgree (found.map (table.entryAt context)) with fault | _ | _
    all_goals rfl
  have alike := allAgree_of_perm namedEntries entries
  rw [concluded rules, concluded others]
  cases told : allAgree (rules.map (table.entryAt context)) with
  | error fault =>
      refine iff_of_false ?_ fun shown => shown.1 breaks_fault
      rintro (⟨_, _, ⟨⟩, _⟩ | ⟨_, _, _, ⟨⟩, _⟩)
  | ok agreed =>
      cases toldToo : allAgree (others.map (table.entryAt context)) with
      | error fault =>
          refine iff_of_false ?_ fun shown => shown.2 breaks_fault
          rintro (⟨_, _, _, ⟨⟩, _⟩ | ⟨_, _, _, _, ⟨⟩⟩)
      | ok agreedToo =>
          rw [told, toldToo, Except.ok.injEq, Except.ok.injEq, ← Bool.eq_iff_iff] at alike
          subst alike
          refine iff_of_true ?_ ⟨not_breaks_ok, not_breaks_ok⟩
          cases agreedToo with
          | true =>
              have same := front_agrees namedEntries told entries
              exact .inl ⟨_, _, rfl, rfl, same.imp_left (congrArg ResultSet.mk)⟩
          | false => exact .inr ⟨_, others.map CompiledRule.id, perm.map _, rfl, rfl⟩

theorem settled_counted (policy : table.hitPolicy = .collect)
    (counts : table.aggregation = some .count) :
    BothGive (fun result other => other = result) (table.settled context rules)
      (table.settled context others) := by
  have concluded (found : List CompiledRule) : table.settled context found =
      (table.aggregatedEntry .count (found.map (table.entryAt context))).map
        fun entry => ⟨[entry]⟩ := by
    rw [settled_of_all (by simp [policy]) (by simp [policy])]
    simp only [conclude, policy, counts, ne_eq, not_true_eq_false, and_false, if_false]
    cases table.aggregatedEntry .count (found.map (table.entryAt context)) <;> rfl
  obtain ⟨entry, counted, countedToo⟩ :=
    aggregatedEntry_count table (perm.map (table.entryAt context))
  refine ⟨⟨[entry]⟩, _, ?_, ?_, rfl⟩
  · rw [concluded, counted, Except.map_ok]
  · rw [concluded, countedToo, Except.map_ok]

theorem settled_priority (policy : table.hitPolicy = .priority)
    (ranked : ∀ rule ∈ rules, ¬Breaks (ranks table.outputs (table.entryAt context rule).values)) :
    BothGive (fun result other => result.entries.length ≤ 1 ∧
        other.entries.map table.standings = result.entries.map table.standings)
      (table.settled context rules) (table.settled context others) := by
  have concluded (found : List CompiledRule) (same : found.Perm rules) :
      table.settled context found =
        .ok ⟨(table.byStanding (found.map (table.entryAt context))).take 1⟩ := by
    rw [settled_of_all (by simp [policy]) (by simp [policy])]
    simp only [conclude, policy, byPriority_entryAt found same ranked, Except.map_ok]
  refine ⟨_, _, concluded rules (.refl _), concluded others perm, List.length_take_le .., ?_⟩
  simp only [List.map_take, byStanding_standings_of_perm (perm.map (table.entryAt context))]

theorem settled_outputOrder (policy : table.hitPolicy = .outputOrder)
    (ranked : ∀ rule ∈ rules, ¬Breaks (ranks table.outputs (table.entryAt context rule).values)) :
    BothGive (fun result other => other.entries.Perm result.entries ∧
        other.entries.map table.standings = result.entries.map table.standings)
      (table.settled context rules) (table.settled context others) := by
  have entries := perm.map (table.entryAt context)
  have concluded (found : List CompiledRule) (same : found.Perm rules) :
      table.settled context found =
        .ok ⟨table.byStanding (found.map (table.entryAt context))⟩ := by
    rw [settled_of_all (by simp [policy]) (by simp [policy])]
    simp only [conclude, policy, byPriority_entryAt found same ranked, Except.map_ok]
  refine ⟨_, _, concluded rules (.refl _), concluded others perm, ?_,
    byStanding_standings_of_perm entries⟩
  exact (byStanding_perm ..).trans (entries.trans (byStanding_perm ..).symm)

end Policies

/-! ## Compiled tables -/

/-- The entries of matching rules can be ranked if no output is a signaling not-a-number. -/
theorem not_breaks_ranks_entryAt {options : CompilerOptions} {definition : DecisionDefinition}
    (compiled : definition.compile options = .ok table)
    (all : table.contributing rules = rules) (found : table.MatchedIn context table.rules rules)
    (quiet : table.OutputsAre context fun value => ¬value.IsSignaling) :
    ∀ rule ∈ rules, ¬Breaks (ranks table.outputs (table.entryAt context rule).values) := by
  intro rule among
  apply not_breaks_ranks (DecisionDefinition.elementary_priorities compiled)
  exact quiet rules _ found.matched (found.entriesOf all) _ (List.mem_map_of_mem among)

/-- Where no cell fails, the order of the rules and columns of a compiled table matters only as far
as the hit policy says. -/
theorem orderIndependent_of_compile {options : CompilerOptions} {definition : DecisionDefinition}
    (compiled : definition.compile options = .ok table) (named : context.WellNamed)
    (succeed : table.CellsSucceed context) : table.OrderIndependent context := by
  have regular := DecisionDefinition.compile_regular compiled
  constructor
  case columns =>
    intro order perm succeedToo
    obtain ⟨_, _, found, _⟩ := succeed
    obtain ⟨_, _, foundToo, _⟩ := succeedToo
    exact evaluate_rearranged regular.toWellShaped perm found foundToo
  case rules =>
    intro others perm
    have matched (notFirst : table.hitPolicy ≠ .first) :=
      matchedIn_of_cellsSucceed notFirst succeed perm
    have ended {rules : List CompiledRule} (found : table.MatchedIn context table.rules rules) :
        table.evaluate context = table.settled context rules :=
      found.evaluate regular
    constructor
    case unique =>
      intro policy
      obtain ⟨selects, found, foundToo⟩ := matched (by simp [policy])
      rw [ended found, foundToo.evaluate regular]
      exact settled_unique (perm.filter selects) policy
    case any =>
      intro policy
      obtain ⟨selects, found, foundToo⟩ := matched (by simp [policy])
      have asked (rules : List CompiledRule) : table.contributing rules = rules :=
        contributing_all (by simp [policy]) (by simp [policy]) rules
      have comparable := found.matchesComparable_iff (asked _)
      rw [ended found, foundToo.evaluate regular, foundToo.matchesComparable_iff (asked _)]
      refine (settled_any_iff (perm.filter selects) policy ?_).trans (and_congr_left' comparable.symm)
      intro rule among
      exact wellNamed_entryAt compiled named (List.mem_filter.mp among).1
    case comparable =>
      intro policy silent
      obtain ⟨selects, found, foundToo⟩ := matched (by simp [policy])
      have asked (rules : List CompiledRule) : table.contributing rules = rules :=
        contributing_all (by simp [policy]) (by simp [policy]) rules
      have silentEntries := silent _ _ found.matched (found.entriesOf (asked _))
      constructor
      · exact (found.matchesComparable_iff (asked _)).mpr (not_breaks_allAgree silentEntries)
      · refine (foundToo.matchesComparable_iff (asked _)).mpr (not_breaks_allAgree ?_)
        intro entry among
        exact silentEntries entry (((perm.filter selects).map _).mem_iff.mp among)
    case collected =>
      intro policy
      have notFirst : table.hitPolicy ≠ .first := by
        rcases policy with policy | ⟨policy, _⟩ <;> simp [policy]
      obtain ⟨selects, found, foundToo⟩ := matched notFirst
      refine ⟨selects, table.entryAt context, ?_, ?_⟩
      · rw [ended found, settled_collected policy]
      · rw [foundToo.evaluate regular, settled_collected policy]
    case counted =>
      intro counts
      have policy : table.hitPolicy = .collect := regular.collects (by rw [counts]; rfl)
      obtain ⟨selects, found, foundToo⟩ := matched (by simp [policy])
      rw [ended found, foundToo.evaluate regular]
      exact settled_counted (perm.filter selects) policy counts
    case priority =>
      intro policy quiet
      obtain ⟨selects, found, foundToo⟩ := matched (by simp [policy])
      rw [ended found, foundToo.evaluate regular]
      refine settled_priority (perm.filter selects) policy ?_
      have all : table.contributing (table.rules.filter selects) = table.rules.filter selects :=
        contributing_all (by simp [policy]) (by simp [policy]) _
      exact not_breaks_ranks_entryAt compiled all found quiet
    case outputOrder =>
      intro policy quiet
      obtain ⟨selects, found, foundToo⟩ := matched (by simp [policy])
      rw [ended found, foundToo.evaluate regular]
      refine settled_outputOrder (perm.filter selects) policy ?_
      have all : table.contributing (table.rules.filter selects) = table.rules.filter selects :=
        contributing_all (by simp [policy]) (by simp [policy]) _
      exact not_breaks_ranks_entryAt compiled all found quiet

/-- A table with two input columns in which any of the matching rules may answer. -/
def parcel : DecisionDefinition :=
  ⟨"parcel", none, .decisionTable,
    some (.decisionTable ⟨none, some "ANY", none,
      [⟨none, none, "n", none⟩, ⟨none, none, "2", none⟩],
      [⟨none, some "rates", none, none, []⟩],
      [⟨none, none, ["3", "-"], ["x"]⟩, ⟨none, none, ["-", "2"], ["y"]⟩]⟩), []⟩

def parcelTable : CompiledTable where
  decisionId := "parcel"
  decisionName := none
  hitPolicy := .any
  aggregation := none
  inputs := [
    ⟨"input0", none, ⟨"n", .name ⟨"n", []⟩⟩, none⟩,
    ⟨"input1", none, ⟨"2", .literal (.integer 2)⟩, none⟩]
  outputs := [⟨"output0", "rates", none, none, []⟩]
  rules := [
    ⟨"rule0", 0, none, [some ⟨"3", .oneOf [.value (.literal (.integer 3)) false]⟩, none],
      [⟨"x", .name ⟨"x", []⟩⟩]⟩,
    ⟨"rule1", 1, none, [none, some ⟨"2", .oneOf [.value (.literal (.integer 2)) false]⟩],
      [⟨"y", .name ⟨"y", []⟩⟩]⟩]
  strict := false

theorem parcel_compile : parcel.compile ⟨"UNIQUE", false⟩ = .ok parcelTable := by
  have recognised : HitPolicy.parse (some "ANY") none "UNIQUE" = .ok (.any, none) :=
    HitPolicy.parse_plain "ANY" (by decide +kernel) rfl rfl
  refine DecisionDefinition.compile_eq_ok rfl rfl ?_ ?_ rfl (fun uses => nomatch uses) ?_
  · exact Compile.hitPolicy_eq_ok recognised fun aggregated => nomatch aggregated
  · cbv
  · cbv

/-- A context for that table in which both outputs are lists, one of them with a signaling
not-a-number in it. -/
def parcelContext : Context :=
  .ofBindings [("n", .integer 3), ("x", .list [.number (.decimal (.signaling false 0 none))]),
    ("y", .list [.integer 1])]

/-- No output is a number there, but the rules are not found to be in conflict in whatever order. -/
theorem parcel_orderIndependent : parcel.compile ⟨"UNIQUE", false⟩ = .ok parcelTable ∧
    parcelContext.WellNamed ∧ parcelTable.CellsSucceed parcelContext ∧
    parcelTable.OutputsAre parcelContext (fun value => value.isNumber = false) ∧
    ¬(BothGive (fun result other => other = result ∨ other.agrees result = .ok true)
        (parcelTable.evaluate parcelContext)
        ((parcelTable.withRules parcelTable.rules.reverse).evaluate parcelContext) ∨
      SameConflict (parcelTable.evaluate parcelContext)
        ((parcelTable.withRules parcelTable.rules.reverse).evaluate parcelContext)) := by
  have named : parcelContext.WellNamed := by
    apply Context.wellNamed_ofBindings
    refine .map (by decide) ?_
    simp only [List.forall_mem_cons, List.not_mem_nil, false_imp_iff, implies_true, and_true]
    exact ⟨.number, .list fun _ among => List.mem_singleton.mp among ▸ .number,
      .list fun _ among => List.mem_singleton.mp among ▸ .number⟩
  have succeed : parcelTable.CellsSucceed parcelContext := ⟨_, _, rfl, rfl⟩
  refine ⟨parcel_compile, named, succeed, ?_, fun alike => ?_⟩
  · rintro _ _ ⟨⟩ ⟨⟩
    simp [Value.isNumber]
  · have reordered := (orderIndependent_of_compile parcel_compile named succeed).rules
      parcelTable.rules.reverse (List.reverse_perm _)
    have comparable := ((reordered.any rfl).mp alike).1 _ _ rfl rfl
    exact comparable _ (.values .first rfl) ⟨rfl, .list rfl (.here rfl (.number rfl rfl (.inr rfl)))⟩

end CompiledTable

end DecisionTables
