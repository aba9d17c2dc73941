import DecisionTables.Proofs.Table.Coupling

/-!
# The order of the input columns

The conditions of a rule are tried from left to right up to the first that does not pass, so that an
order of the columns decides which conditions are tried. Where none of them fails, a rule matches
exactly if all its conditions pass, and that does not depend on the order. The hit policy then works
on the same rules, whose outputs the order of the input columns does not touch.
-/

namespace DecisionTables

/-! ## Lists in another order -/

/-- The items at the positions of an order. -/
def rearranged {α : Type} (order : List Nat) (items : List α) : List α :=
  order.filterMap fun position => items[position]?

section Rearranged

variable {α β : Type} {order : List Nat}

theorem rearranged_range (items : List α) : rearranged (List.range items.length) items = items := by
  induction items with
  | nil => rfl
  | cons item rest ih =>
      rw [rearranged] at ih
      simp only [rearranged, List.length_cons, List.range_succ_eq_map, List.filterMap_cons,
        List.getElem?_cons_zero, List.filterMap_map, Function.comp_def, Nat.succ_eq_add_one,
        List.getElem?_cons_succ, ih]

theorem rearranged_perm {items : List α} (perm : order.Perm (List.range items.length)) :
    (rearranged order items).Perm items := by
  have taken := perm.filterMap fun position => items[position]?
  rwa [← rearranged, ← rearranged, rearranged_range] at taken

theorem getElem?_rel {Related : α → β → Prop} {lefts : List α} {rights : List β}
    (related : List.Forall₂ Related lefts rights) (position : Nat) :
    Option.Rel Related lefts[position]? rights[position]? := by
  induction related generalizing position with
  | nil => exact Option.Rel.none
  | cons first _ ih =>
      cases position with
      | zero => exact Option.Rel.some first
      | succ position => exact ih position

/-- The item that is related to the one at a position stands at the same position. -/
theorem related_at {Related : α → β → Prop} {lefts : List α} {rights : List β}
    (related : List.Forall₂ Related lefts rights) {position : Nat} {left : α}
    (placed : lefts[position]? = some left) :
    ∃ right, rights[position]? = some right ∧ Related left right := by
  have here := getElem?_rel related position
  rw [placed] at here
  cases given : rights[position]? with
  | none => rw [given] at here; cases here
  | some right => exact ⟨right, rfl, Option.rel_some_some.mp (given ▸ here)⟩

/-- Lists that are related item by item are so in every order. -/
theorem rearranged_related {Related : α → β → Prop} {lefts : List α} {rights : List β}
    (related : List.Forall₂ Related lefts rights) :
    List.Forall₂ Related (rearranged order lefts) (rearranged order rights) := by
  have here : Relator.LiftFun (· = ·) (Option.Rel Related) (fun position : Nat => lefts[position]?)
      fun position : Nat => rights[position]? := by
    intro position _ same
    subst same
    exact getElem?_rel related position
  exact List.rel_filterMap here (List.forall₂_refl order)

theorem rearranged_map (image : α → β) (items : List α) :
    rearranged order (items.map image) = (rearranged order items).map image := by
  simp only [rearranged, List.map_filterMap, List.getElem?_map]

theorem rearranged_zip {lefts : List α} {rights : List β} (same : lefts.length = rights.length) :
    rearranged order (lefts.zip rights) = (rearranged order lefts).zip (rearranged order rights) := by
  apply List.zip_of_prod
  · rw [← rearranged_map, List.map_fst_zip (Nat.le_of_eq same)]
  · rw [← rearranged_map, List.map_snd_zip (Nat.le_of_eq same.symm)]

end Rearranged

/-! ## Rules that match -/

def CompiledRule.rearranged (order : List Nat) (rule : CompiledRule) : CompiledRule :=
  { rule with conditions := DecisionTables.rearranged order rule.conditions }

namespace CompiledTable

/-- The table with its input columns in another order, and with them the conditions of its rules. -/
def rearranged (order : List Nat) (table : CompiledTable) : CompiledTable :=
  { table with
    inputs := DecisionTables.rearranged order table.inputs
    rules := table.rules.map (CompiledRule.rearranged order) }

theorem samePolicy_rearranged (order : List Nat) (table : CompiledTable) :
    SamePolicy table (table.rearranged order) :=
  ⟨rfl, rfl, rfl, rfl⟩

/-- Whether a condition lets a subject pass. -/
def Passes (context : Context) : Option CompiledTests × Value → Prop
  | (none, _) => True
  | (some tests, subject) => tests.accepts subject context = .ok true

variable {table : CompiledTable} {context : Context} {order : List Nat}

theorem accepted_iff {outcome : Outcome Bool} : accepted outcome = true ↔ outcome = .ok true := by
  rcases outcome with error | answer
  · simp [accepted]
  · simp [accepted]

/-- Conditions accept their subjects if all of them pass. -/
theorem conditionsAccept_iff {ruleId : String} {columns : List CompiledInput}
    {conditions : List (Option CompiledTests)} {subjects : List Value}
    (counted : conditions.length = columns.length) (asked : subjects.length = columns.length) :
    table.conditionsAccept ruleId context columns conditions subjects = .ok true ↔
      ∀ cell ∈ conditions.zip subjects, Passes context cell := by
  induction columns generalizing conditions subjects with
  | nil =>
      obtain rfl := List.length_eq_zero_iff.mp counted
      simp [conditionsAccept]
  | cons column columns ih =>
      rcases conditions with _ | ⟨condition, conditions⟩
      · cases counted
      · rcases subjects with _ | ⟨subject, subjects⟩
        · cases asked
        · have later := ih (Nat.succ.inj counted) (Nat.succ.inj asked)
          rw [List.zip_cons_cons, List.forall_mem_cons, ← later]
          cases condition with
          | none => simp [conditionsAccept, Passes]
          | some tests =>
              simp only [conditionsAccept, Passes]
              rcases tests.accepts subject context with error | _ | _
              · simp [Outcome.ofCell]
              · simp [Outcome.ofCell]
              · simp [Outcome.ofCell]

/-- The subjects of rearranged columns are the rearranged subjects. -/
theorem subjects_rearranged {subjects : List Value}
    (evaluated : table.subjects context = .ok subjects) :
    (table.rearranged order).subjects context = .ok (DecisionTables.rearranged order subjects) :=
  forAll_eq_ok_iff.mpr (rearranged_related (forAll_eq_ok_iff.mp evaluated))

theorem matchesRule_rearranged {subjects : List Value} {rule : CompiledRule}
    (perm : order.Perm (List.range table.inputs.length))
    (counted : rule.conditions.length = table.inputs.length)
    (asked : subjects.length = table.inputs.length) :
    (table.rearranged order).matchesRule context (DecisionTables.rearranged order subjects)
        (rule.rearranged order) = .ok true ↔
      table.matchesRule context subjects rule = .ok true := by
  have length {α : Type} {items : List α} (same : items.length = table.inputs.length) :
      (DecisionTables.rearranged order items).length =
        (DecisionTables.rearranged order table.inputs).length := by
    rw [(rearranged_perm (same ▸ perm)).length_eq, (rearranged_perm perm).length_eq, same]
  have cells : (rule.conditions.zip subjects).length = table.inputs.length := by
    rw [List.length_zip, counted, asked, Nat.min_self]
  rw [matchesRule, matchesRule, conditionsAccept_iff counted asked]
  refine (conditionsAccept_iff (length counted) (length asked)).trans ?_
  rw [← rearranged_zip (counted.trans asked.symm)]
  simp only [(rearranged_perm (cells ▸ perm)).mem_iff]

/-- Where no condition that is tried fails, the same rules match in every order of the columns. -/
theorem matching_rearranged (shaped : table.WellShaped)
    (perm : order.Perm (List.range table.inputs.length)) {rules others : List CompiledRule}
    (found : table.matching context = .ok rules)
    (foundToo : (table.rearranged order).matching context = .ok others) :
    others = rules.map (CompiledRule.rearranged order) := by
  obtain ⟨subjects, evaluated, rfl⟩ := matching_eq_filter found
  obtain ⟨reordered, evaluatedToo, rfl⟩ := matching_eq_filter foundToo
  obtain rfl : DecisionTables.rearranged order subjects = reordered :=
    Except.ok.inj ((subjects_rearranged evaluated).symm.trans evaluatedToo)
  change (table.rules.map _).filter _ = _
  -- The rules differ in the order of their conditions alone, so they are compared one by one.
  rw [List.filter_map]
  congr 1
  apply List.filter_congr
  intro rule among
  rw [Function.comp_apply, Bool.eq_iff_iff, accepted_iff, accepted_iff]
  exact matchesRule_rearranged perm (shaped.conditions rule among) (forAll_length evaluated)

/-! ## Outcomes -/

/-- Where no condition that is tried fails, the order of the input columns does not matter. -/
theorem evaluate_rearranged (shaped : table.WellShaped)
    (perm : order.Perm (List.range table.inputs.length)) {rules others : List CompiledRule}
    (found : table.matching context = .ok rules)
    (foundToo : (table.rearranged order).matching context = .ok others) :
    (table.rearranged order).evaluate context = table.evaluate context := by
  have same := matching_rearranged shaped perm found foundToo
  subst same
  rw [evaluate_eq, evaluate_eq, found, foundToo, Except.ok_bind, Except.ok_bind]
  congr 1
  have sameEntries := (samePolicy_rearranged order table).entryOf rfl context
  refine (coupled_applyHitPolicy Outcome.coupling_eq (samePolicy_rearranged order table) ?_ ?_).symm
  · rw [List.map_map]
    rfl
  · rw [List.forall₂_map_right_iff, sameEntries]
    exact List.forall₂_same.mpr fun rule _ => rfl

end CompiledTable

end DecisionTables
