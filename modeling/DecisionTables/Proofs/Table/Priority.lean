import DecisionTables.Proofs.Table.Comparisons
import DecisionTables.Proofs.Table.Results

/-!
# The order of priorities

Entries are sorted by where their values stand among the allowed ones, which is compared as words are in
a dictionary. The order is linear on lists of ranks, and so those in a sorted list of entries do not
depend on the order that the entries had before. Where the comparison with an allowed value has no
answer, there is no rank and the entries are not sorted.
-/

namespace DecisionTables

/-- Where a value stands among allowed ones: the position of the first that the language calls equal
to it, or one past the last if there is none. -/
def Value.standing (value : Value) (allowed : List Value) : Nat :=
  allowed.findIdx fun candidate => candidate.equals value = .ok true

namespace CompiledTable

/-! ## The order of ranks -/

theorem precedes_trans {first second third : List Nat} (earlier : precedes first second = true)
    (later : precedes second third = true) : precedes first third = true := by
  induction first generalizing second third with
  | nil => rfl
  | cons rank ranks ih =>
      cases second with
      | nil => cases earlier
      | cons middle middles =>
          cases third with
          | nil => cases later
          | cons last lasts =>
              simp only [precedes, Bool.or_eq_true, Bool.and_eq_true, decide_eq_true_eq,
                beq_iff_eq] at earlier later ⊢
              rcases earlier with earlier | ⟨same, earlier⟩
              · left
                omega
              · rcases later with later | ⟨sameNext, later⟩
                · left
                  omega
                · exact .inr ⟨same.trans sameNext, ih earlier later⟩

theorem precedes_total (left right : List Nat) :
    precedes left right = true ∨ precedes right left = true := by
  induction left generalizing right with
  | nil => exact .inl rfl
  | cons first lefts ih =>
      cases right with
      | nil => exact .inr rfl
      | cons second rights =>
          simp only [precedes, Bool.or_eq_true, Bool.and_eq_true, decide_eq_true_eq, beq_iff_eq]
          rcases Nat.lt_trichotomy first second with less | same | greater
          · exact .inl (.inl less)
          · exact (ih rights).imp (fun before => .inr ⟨same, before⟩)
              fun after => .inr ⟨same.symm, after⟩
          · exact .inr (.inl greater)

theorem precedes_antisymm {left right : List Nat} (before : precedes left right = true)
    (after : precedes right left = true) : left = right := by
  induction left generalizing right with
  | nil =>
      cases right with
      | nil => rfl
      | cons second rights => cases after
  | cons first lefts ih =>
      cases right with
      | nil => cases before
      | cons second rights =>
          simp only [precedes, Bool.or_eq_true, Bool.and_eq_true, decide_eq_true_eq,
            beq_iff_eq] at before after
          obtain ⟨same, before⟩ := before.resolve_left (by omega)
          obtain ⟨_, after⟩ := after.resolve_left (by omega)
          rw [same, ih before after]

/-! ## Standings -/

variable {table : CompiledTable} {entries others sorted : List OutputEntry}

/-- Where the values of an entry stand, one for each column that has allowed values. -/
def standings (table : CompiledTable) (entry : OutputEntry) : List Nat :=
  ((table.outputs.zip entry.values).filter fun cell => !cell.1.priorities.isEmpty).map fun cell =>
    cell.2.value.standing cell.1.priorities

/-- The rank of a value, if it has one, is where it stands. -/
theorem rank_eq_standing {value : Value} {allowed : List Value} {position : Nat}
    (ranked : rank value allowed = .ok position) : position = value.standing allowed := by
  induction allowed generalizing position with
  | nil =>
      cases ranked
      rfl
  | cons candidate rest ih =>
      rw [rank_cons, Except.bind_eq_ok_iff] at ranked
      obtain ⟨equal, compared, ranked⟩ := ranked
      cases equal with
      | true =>
          cases ranked
          simp [Value.standing, List.findIdx_cons, compared]
      | false =>
          rw [if_neg Bool.false_ne_true] at ranked
          obtain ⟨others, later, rfl⟩ := Except.map_eq_ok_iff.mp ranked
          rw [ih later]
          simp [Value.standing, List.findIdx_cons, compared]

theorem ranks_eq_standings {columns : List CompiledOutput} {outputs : List OutputValue}
    {found : List Nat} (ranked : ranks columns outputs = .ok found) :
    found = ((columns.zip outputs).filter fun cell => !cell.1.priorities.isEmpty).map fun cell =>
      cell.2.value.standing cell.1.priorities := by
  induction columns generalizing outputs found with
  | nil =>
      cases ranked
      rfl
  | cons column columns ih =>
      cases outputs with
      | nil =>
          cases ranked
          rfl
      | cons output outputs =>
          rw [ranks_cons] at ranked
          split at ranked
          case isTrue empty =>
              rw [ih ranked]
              simp [empty]
          case isFalse allowed =>
              simp only [Except.bind_eq_ok_iff, Except.ok.injEq] at ranked
              obtain ⟨first, here, others, later, rfl⟩ := ranked
              rw [rank_eq_standing here, ih later]
              simp [allowed]

/-! ## Entries by rank -/

/-- The entries in the order of their standings. Those that stand alike keep their order. -/
def byStanding (table : CompiledTable) (entries : List OutputEntry) : List OutputEntry :=
  entries.mergeSort fun left right => precedes (table.standings left) (table.standings right)

theorem withRanks_eq_ok_iff {entry : OutputEntry} {ranked : List Nat × OutputEntry} :
    table.withRanks entry = .ok ranked ↔
      ¬Breaks (ranks table.outputs entry.values) ∧ (table.standings entry, entry) = ranked := by
  rw [withRanks]
  cases found : ranks table.outputs entry.values with
  | error fault => simp [Outcome.ofFault, breaks_iff_error]
  | ok standings =>
      obtain rfl : standings = table.standings entry := ranks_eq_standings found
      simp [Outcome.ofFault, not_breaks_ok]

/-- Sorting by priority succeeds exactly if every entry can be ranked, and it sorts by standings. -/
theorem byPriority_eq_ok_iff : table.byPriority entries = .ok sorted ↔
    (∀ entry ∈ entries, ¬Breaks (ranks table.outputs entry.values)) ∧
      sorted = table.byStanding entries := by
  have ranked {found : List (List Nat × OutputEntry)} : forAll table.withRanks entries = .ok found ↔
      (∀ entry ∈ entries, ¬Breaks (ranks table.outputs entry.values)) ∧
        entries.map (fun entry => (table.standings entry, entry)) = found := by
    simp only [forAll_eq_ok_iff, withRanks_eq_ok_iff]
    rw [List.forall₂_and_left, ← List.forall₂_map_left_iff, List.forall₂_eq_eq_eq]
  have paired : (table.byStanding entries).map (fun entry => (table.standings entry, entry)) =
      (entries.map fun entry => (table.standings entry, entry)).mergeSort
        fun left right => precedes left.1 right.1 :=
    List.map_mergeSort fun _ _ _ _ => rfl
  have sorts : ((entries.map fun entry => (table.standings entry, entry)).mergeSort
      fun left right => precedes left.1 right.1).map Prod.snd = table.byStanding entries := by
    rw [← paired, List.map_map]
    exact List.map_id' _
  simp only [byPriority, Except.bind_eq_ok_iff, ranked, Except.pure_eq_ok, Except.ok.injEq,
    and_assoc, exists_and_left, exists_eq_left', sorts, @eq_comm _ sorted]

/-- Sorted entries have ascending standings. -/
theorem byStanding_ascending (table : CompiledTable) (entries : List OutputEntry) :
    (table.byStanding entries).Pairwise fun left right =>
      precedes (table.standings left) (table.standings right) = true := by
  apply List.pairwise_mergeSort
  · intro first second third
    exact precedes_trans
  · intro left right
    rw [Bool.or_eq_true]
    exact precedes_total _ _

theorem byStanding_perm (table : CompiledTable) (entries : List OutputEntry) :
    (table.byStanding entries).Perm entries :=
  List.mergeSort_perm _ _

/-- The standings of sorted entries are those of the entries in ascending order, whatever their order
was. -/
theorem byStanding_standings_of_perm (perm : entries.Perm others) :
    (table.byStanding entries).map table.standings =
      (table.byStanding others).map table.standings := by
  have ascending (entries : List OutputEntry) :
      ((table.byStanding entries).map table.standings).Pairwise fun left right =>
        precedes left right = true :=
    List.pairwise_map.mpr (byStanding_ascending table entries)
  refine List.Perm.eq_of_pairwise ?_ (ascending entries) (ascending others) ?_
  · intro left right _ _
    exact precedes_antisymm
  · exact ((byStanding_perm table entries).trans
      (perm.trans (byStanding_perm table others).symm)).map _

end CompiledTable

end DecisionTables
