import DecisionTables.Proofs.Table.Matching

/-!
# What hit policies evaluate

A hit policy works in two steps on the rules that match, of which there is at least one: it asks for
the entries of some of them, and it concludes from the entries that it is given. Only the first step
evaluates cells, and only the second step looks at values.
-/

namespace DecisionTables.CompiledTable

variable {table : CompiledTable} {context : Context}

/-! ## The entries that are asked for -/

/-- The entries of matching rules, one for each of them. -/
def entriesOf (table : CompiledTable) (context : Context) (rules : List CompiledRule) :
    Outcome (List OutputEntry) :=
  forAll (table.entryOf context) rules

/-- The matching rules whose outputs the hit policy asks for. -/
def contributing (table : CompiledTable) : List CompiledRule → List CompiledRule
  | [] => []
  | first :: others =>
      match table.hitPolicy with
      | .first => [first]
      | .unique => if others.isEmpty then [first] else []
      | .any | .priority | .collect | .ruleOrder | .outputOrder => first :: others

/-- A policy that does not look at the first match alone asks for all entries or, where it allows one
match only, for the entry of a single one. -/
theorem contributing_eq (notFirst : table.hitPolicy ≠ .first) (rules : List CompiledRule) :
    table.contributing rules =
      if table.hitPolicy = .unique ∧ 2 ≤ rules.length then [] else rules := by
  cases rules with
  | nil => simp [contributing]
  | cons first others =>
      cases policy : table.hitPolicy with
      | first => exact absurd policy notFirst
      | unique => cases others <;> simp [contributing, policy]
      | any | priority | collect | ruleOrder | outputOrder => simp [contributing, policy]

/-! ## The conclusion from the entries -/

/-- What the hit policy makes of matching rules and of those of their entries that it asks for. -/
def conclude (table : CompiledTable) (rules : List CompiledRule) (entries : List OutputEntry) :
    Outcome (List OutputEntry) :=
  match table.hitPolicy with
  | .first | .ruleOrder => .ok entries
  | .unique => if rules.length ≤ 1 then .ok entries else .error (table.conflict rules)
  | .any =>
      Outcome.ofFault (allAgree entries) >>= fun agreed =>
        if agreed then .ok (entries.take 1) else .error (table.conflict rules)
  | .priority => (table.byPriority entries).map (List.take 1)
  | .outputOrder => table.byPriority entries
  | .collect =>
      match table.aggregation with
      | none => .ok entries
      | some aggregation =>
          if rules.isEmpty ∧ aggregation ≠ .count then .ok []
          else (table.aggregatedEntry aggregation entries).map fun entry => [entry]

theorem singleton_bind (outcome : Outcome OutputEntry) :
    (outcome >>= fun entry => .ok [entry]) = outcome.map fun entry => [entry] := by
  cases outcome <;> rfl

/-- A hit policy evaluates the entries that it asks for, and no cell after that. -/
theorem combine_eq (first : CompiledRule) (others : List CompiledRule) :
    table.combine context first others =
      table.entriesOf context (table.contributing (first :: others)) >>=
        table.conclude (first :: others) := by
  simp only [combine, contributing, entriesOf, Except.pure_eq_ok]
  cases policy : table.hitPolicy with
  | first =>
      cases given : table.entryOf context first with
      | error error => simp [forAll_cons, given]
      | ok entry => simp [forAll_cons, given, conclude, policy]
  | unique =>
      cases others with
      | nil =>
          cases given : table.entryOf context first with
          | error error => simp [forAll_cons, given]
          | ok entry => simp [forAll_cons, given, conclude, policy]
      | cons => simp [conclude, policy]
  | ruleOrder | any | outputOrder =>
      cases forAll (table.entryOf context) (first :: others) with
      | error error => rfl
      | ok entries => simp [conclude, policy]
  | priority =>
      cases forAll (table.entryOf context) (first :: others) with
      | error error => rfl
      | ok entries =>
          simp only [conclude, policy, Except.ok_bind]
          cases table.byPriority entries <;> rfl
  | collect =>
      cases forAll (table.entryOf context) (first :: others) with
      | error error => rfl
      | ok entries =>
          cases present : table.aggregation with
          | none => simp [conclude, policy, present]
          | some aggregation => simp [conclude, policy, present, singleton_bind]

theorem aggregatedEntry_ne_expression {aggregation : Aggregation} {entries : List OutputEntry}
    {error : ExpressionError} :
    table.aggregatedEntry aggregation entries ≠ .error (.expression error) := by
  rw [aggregatedEntry]
  cases table.outputs with
  | nil => simp
  | cons column columns =>
      rcases aggregation.apply (firstValues entries) table.decisionId with (_ | _) | _
      all_goals simp [EvaluationError.ofAggregate]

/-- What can end the comparison of outputs and their values is a fault. -/
theorem ofFault_ne_expression {α : Type} {outcome : Except Fault α} {error : ExpressionError} :
    Outcome.ofFault outcome ≠ .error (.expression error) := by
  cases outcome <;> simp [Outcome.ofFault]

theorem byPriority_ne_expression {entries : List OutputEntry} {error : ExpressionError} :
    table.byPriority entries ≠ .error (.expression error) := by
  rw [byPriority, ne_eq, Except.bind_eq_error_iff]
  rintro (failed | ⟨_, _, ⟨⟩⟩)
  obtain ⟨entry, _, failed⟩ := forAll_error failed
  exact ofFault_ne_expression (Except.map_eq_error_iff.mp failed)

theorem conclude_ne_expression {rules : List CompiledRule} {entries : List OutputEntry}
    {error : ExpressionError} : table.conclude rules entries ≠ .error (.expression error) := by
  cases policy : table.hitPolicy with
  | first | ruleOrder => simp [conclude, policy]
  | outputOrder =>
      simp only [conclude, policy]
      exact byPriority_ne_expression
  | priority =>
      simp only [conclude, policy, ne_eq, Except.map_eq_error_iff]
      exact byPriority_ne_expression
  | unique =>
      simp only [conclude, policy]
      split <;> simp [conflict]
  | any =>
      simp only [conclude, policy, ne_eq, Except.bind_eq_error_iff]
      rintro (failed | ⟨agreed, _, failed⟩)
      · exact ofFault_ne_expression failed
      · cases agreed <;> simp [conflict] at failed
  | collect =>
      simp only [conclude, policy]
      split
      · simp
      · split
        · simp
        · rw [ne_eq, Except.map_eq_error_iff]
          exact aggregatedEntry_ne_expression

end DecisionTables.CompiledTable
