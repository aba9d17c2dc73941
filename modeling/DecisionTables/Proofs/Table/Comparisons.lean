import DecisionTables.Proofs.Expression.Breakdown
import DecisionTables.Proofs.Expression.Closed
import DecisionTables.Table.Evaluate

/-!
# Comparing outputs

Some hit policies compare the outputs of the matching rules, with those of the first of these rules or
with the allowed values of their columns. This module gives the comparisons that they come to, each up to
the first that decides. A comparison has no answer exactly if one of these has none, and then only because
of a signaling not-a-number.
-/

namespace DecisionTables

/-! ## Outputs of several rules -/

/-- Whether the comparison of two lists, item by item, comes to a pair of items. -/
inductive Meets {α : Type} (agree : α → α → Except Fault Bool) : List α → List α → α → α → Prop
  | first {left right : α} {lefts rights : List α} :
      Meets agree (left :: lefts) (right :: rights) left right
  | later {left right one other : α} {lefts rights : List α} :
      agree left right = .ok true → Meets agree lefts rights one other →
      Meets agree (left :: lefts) (right :: rights) one other

theorem Meets.mem {α : Type} {agree : α → α → Except Fault Bool} {lefts rights : List α}
    {left right : α} (meets : Meets agree lefts rights left right) :
    left ∈ lefts ∧ right ∈ rights := by
  induction meets with
  | first => exact ⟨List.mem_cons_self, List.mem_cons_self⟩
  | later _ _ ih => exact ⟨List.mem_cons_of_mem _ ih.1, List.mem_cons_of_mem _ ih.2⟩

theorem breaks_agreeAll_iff {α : Type} {agree : α → α → Except Fault Bool} {lefts rights : List α} :
    Breaks (agreeAll agree lefts rights) ↔
      ∃ left right, Meets agree lefts rights left right ∧ Breaks (agree left right) := by
  induction lefts generalizing rights with
  | nil =>
      refine iff_of_false (by cases rights <;> exact not_breaks_ok) ?_
      rintro ⟨_, _, ⟨⟩, _⟩
  | cons left lefts ih =>
      cases rights with
      | nil =>
          refine iff_of_false not_breaks_ok ?_
          rintro ⟨_, _, ⟨⟩, _⟩
      | cons right rights =>
          simp only [agreeAll, breaks_bind]
          constructor
          · rintro (broken | ⟨_ | _, agreed, broken⟩)
            · exact ⟨left, right, .first, broken⟩
            · exact absurd broken not_breaks_ok
            · obtain ⟨one, other, meets, broken⟩ := ih.mp broken
              exact ⟨one, other, .later agreed meets, broken⟩
          · rintro ⟨one, other, meets, broken⟩
            cases meets with
            | first => exact .inl broken
            | later agreed meets =>
                exact .inr ⟨true, agreed, ih.mpr ⟨one, other, meets, broken⟩⟩

/-- Whether no number in the values of an entry, or in their parts, is a signaling not-a-number. -/
def OutputEntry.Silent (entry : OutputEntry) : Prop :=
  ∀ output ∈ entry.values, output.value.Silent

namespace Value

theorem Elementary.silent {value : Value} (elementary : value.Elementary) : value.Silent := by
  cases elementary with
  | null => exact .null
  | boolean => exact .boolean
  | integer | double => exact .number rfl
  | text => exact .text
  | date => exact .date

/-- Comparing an elementary value with one that is no signaling number has an answer. -/
theorem Elementary.not_signals {left right : Value} (elementary : left.Elementary)
    (quiet : ¬right.IsSignaling) : ¬Signals left right := by
  intro signals
  cases signals with
  | number onLeft onRight signaling =>
      rcases signaling with signaling | signaling
      · simp [elementary.silent.isSignaling onLeft] at signaling
      · cases right with
        | number number =>
            cases onRight
            exact quiet ⟨_, rfl, signaling⟩
        | boolean =>
            cases onRight
            simp [countOf_isSignaling] at signaling
        | null | text | date | moment | object | list | map => cases onRight
  | list | map => cases elementary

end Value

namespace CompiledTable

/-- The comparisons of the first entry with others, up to the first of these that does not agree with it.
Only values of the same name are compared. -/
inductive AttemptsAgreement (first : OutputEntry) : List OutputEntry → Operation → Prop
  | values {entry : OutputEntry} {rest : List OutputEntry} {left right : OutputValue} :
      Meets OutputValue.agrees entry.values first.values left right → left.name = right.name →
      AttemptsAgreement first (entry :: rest) (.agreement left.value right.value)
  | later {entry : OutputEntry} {rest : List OutputEntry} {attempted : Operation} :
      entry.agrees first = .ok true → AttemptsAgreement first rest attempted →
      AttemptsAgreement first (entry :: rest) attempted

/-- The comparisons of entries with the first of them. -/
def AttemptsAllAgree : List OutputEntry → Operation → Prop
  | [], _ => False
  | first :: rest, attempted => AttemptsAgreement first rest attempted

theorem breaks_output_agrees_iff {left right : OutputValue} :
    Breaks (left.agrees right) ↔
      left.name = right.name ∧ (Operation.agreement left.value right.value).Undefined := by
  rw [OutputValue.agrees]
  split
  case isTrue same =>
      simp only [breaks_map, breaks_iff_error, Value.matchesMember_eq_error_iff, exists_eq_left, same,
        true_and]
      rfl
  case isFalse other => simp [other]

theorem breaks_allAgreeWith_iff {first : OutputEntry} {entries : List OutputEntry} :
    Breaks (allAgreeWith first entries) ↔
      ∃ operation, AttemptsAgreement first entries operation ∧ operation.Undefined := by
  induction entries with
  | nil => exact breaks_ok_iff fun _ => nofun
  | cons entry rest ih =>
      simp only [allAgreeWith, breaks_bind, OutputEntry.agrees, breaks_agreeAll_iff,
        breaks_output_agrees_iff]
      constructor
      · rintro (⟨left, right, meets, named, undefined⟩ | ⟨_ | _, agreed, broken⟩)
        · exact ⟨_, .values meets named, undefined⟩
        · exact absurd broken not_breaks_ok
        · obtain ⟨operation, attempts, undefined⟩ := ih.mp broken
          exact ⟨operation, .later agreed attempts, undefined⟩
      · rintro ⟨operation, attempts, undefined⟩
        cases attempts with
        | values meets named => exact .inl ⟨_, _, meets, named, undefined⟩
        | later agreed attempts =>
            exact .inr ⟨true, agreed, ih.mpr ⟨operation, attempts, undefined⟩⟩

/-- Whether all entries agree cannot be told exactly if a comparison with the first has no answer. -/
theorem breaks_allAgree_iff {entries : List OutputEntry} :
    Breaks (allAgree entries) ↔
      ∃ operation, AttemptsAllAgree entries operation ∧ operation.Undefined := by
  cases entries with
  | nil => exact breaks_ok_iff fun _ => nofun
  | cons first rest => exact breaks_allAgreeWith_iff

/-! ## Outputs among allowed values -/

/-- The comparisons that ranking a value comes to, up to the first allowed value that it equals. -/
inductive AttemptsRank (value : Value) : List Value → Operation → Prop
  | here {allowed : Value} {rest : List Value} :
      AttemptsRank value (allowed :: rest) (.comparison .equal allowed value)
  | later {allowed : Value} {rest : List Value} {attempted : Operation} :
      allowed.equals value = .ok false → AttemptsRank value rest attempted →
      AttemptsRank value (allowed :: rest) attempted

/-- The comparisons that ranking the values of an entry comes to, from the first column on. -/
inductive AttemptsRanks : List CompiledOutput → List OutputValue → Operation → Prop
  | here {column : CompiledOutput} {columns : List CompiledOutput} {output : OutputValue}
      {outputs : List OutputValue} {attempted : Operation} :
      AttemptsRank output.value column.priorities attempted →
      AttemptsRanks (column :: columns) (output :: outputs) attempted
  | later {column : CompiledOutput} {columns : List CompiledOutput} {output : OutputValue}
      {outputs : List OutputValue} {position : Nat} {attempted : Operation} :
      rank output.value column.priorities = .ok position →
      AttemptsRanks columns outputs attempted →
      AttemptsRanks (column :: columns) (output :: outputs) attempted

/-- Ranking compares as the language does. -/
theorem rank_cons {value allowed : Value} {rest : List Value} :
    rank value (allowed :: rest) =
      allowed.equals value >>= fun equal =>
        if equal then .ok 0 else (rank value rest).map Nat.succ := by
  rw [rank, Value.equals_eq]
  simp only [beq_iff_eq]
  split
  · cases allowed.plainEqual value with
    | error fault => rfl
    | ok equal => cases equal <;> cases rank value rest <;> rfl
  · cases rank value rest <;> rfl

theorem ranks_cons {column : CompiledOutput} {columns : List CompiledOutput} {output : OutputValue}
    {outputs : List OutputValue} :
    ranks (column :: columns) (output :: outputs) =
      if column.priorities.isEmpty then ranks columns outputs
      else rank output.value column.priorities >>= fun first =>
        ranks columns outputs >>= fun others => .ok (first :: others) :=
  rfl

theorem breaks_rank_iff {value : Value} {allowed : List Value} :
    Breaks (rank value allowed) ↔
      ∃ operation, AttemptsRank value allowed operation ∧ operation.Undefined := by
  induction allowed with
  | nil => exact breaks_ok_iff fun _ => nofun
  | cons candidate rest ih =>
      simp only [rank_cons, breaks_bind, Value.breaks_equals_iff]
      constructor
      · rintro (undefined | ⟨_ | _, differs, broken⟩)
        · exact ⟨_, .here, undefined⟩
        · obtain ⟨operation, attempts, undefined⟩ := ih.mp (breaks_map.mp broken)
          exact ⟨operation, .later differs attempts, undefined⟩
        · exact absurd broken not_breaks_ok
      · rintro ⟨operation, attempts, undefined⟩
        cases attempts with
        | here => exact .inl undefined
        | later differs attempts =>
            exact .inr ⟨false, differs, breaks_map.mpr (ih.mpr ⟨operation, attempts, undefined⟩)⟩

/-- The ranks of an entry cannot be told exactly if a comparison with an allowed value has no answer. -/
theorem breaks_ranks_iff {columns : List CompiledOutput} {outputs : List OutputValue} :
    Breaks (ranks columns outputs) ↔
      ∃ operation, AttemptsRanks columns outputs operation ∧ operation.Undefined := by
  induction columns generalizing outputs with
  | nil => exact breaks_ok_iff fun _ => nofun
  | cons column columns ih =>
      cases outputs with
      | nil => exact breaks_ok_iff fun _ => nofun
      | cons output outputs =>
          have parts : (∃ operation, AttemptsRanks (column :: columns) (output :: outputs) operation ∧
              operation.Undefined) ↔ Breaks (rank output.value column.priorities) ∨
                (∃ position, rank output.value column.priorities = .ok position) ∧
                  Breaks (ranks columns outputs) := by
            rw [breaks_rank_iff, ih]
            constructor
            · rintro ⟨operation, attempts | ⟨ranked, attempts⟩, undefined⟩
              · exact .inl ⟨operation, attempts, undefined⟩
              · exact .inr ⟨⟨_, ranked⟩, operation, attempts, undefined⟩
            · rintro (⟨operation, attempts, undefined⟩ | ⟨⟨_, ranked⟩, operation, attempts, undefined⟩)
              · exact ⟨operation, .here attempts, undefined⟩
              · exact ⟨operation, .later ranked attempts, undefined⟩
          rw [parts, ranks_cons]
          split
          case isTrue empty =>
              rw [List.isEmpty_iff.mp empty]
              simp [rank]
          case isFalse => simp

/-! ## Outputs that can be compared -/

theorem AttemptsAgreement.mem {first : OutputEntry} {entries : List OutputEntry}
    {operation : Operation} (attempts : AttemptsAgreement first entries operation) :
    ∃ entry ∈ entries, ∃ left ∈ entry.values, ∃ right ∈ first.values,
      operation = .agreement left.value right.value := by
  induction attempts with
  | values meets => exact ⟨_, List.mem_cons_self, _, meets.mem.1, _, meets.mem.2, rfl⟩
  | later _ _ ih =>
      obtain ⟨entry, among, shown⟩ := ih
      exact ⟨entry, List.mem_cons_of_mem _ among, shown⟩

/-- Entries without signaling numbers can be compared with the first of them. -/
theorem not_breaks_allAgree {entries : List OutputEntry}
    (silent : ∀ entry ∈ entries, entry.Silent) : ¬Breaks (allAgree entries) := by
  rw [breaks_allAgree_iff]
  rintro ⟨operation, attempts, undefined⟩
  cases entries with
  | nil => exact attempts
  | cons first rest =>
      obtain ⟨entry, among, left, inLeft, right, inRight, rfl⟩ := AttemptsAgreement.mem attempts
      have onLeft := silent entry (List.mem_cons_of_mem _ among) left inLeft
      have onRight := silent first List.mem_cons_self right inRight
      exact onLeft.not_signals onRight undefined.2

theorem AttemptsRank.mem {value : Value} {allowed : List Value} {operation : Operation}
    (attempts : AttemptsRank value allowed operation) :
    ∃ candidate ∈ allowed, operation = .comparison .equal candidate value := by
  induction attempts with
  | here => exact ⟨_, List.mem_cons_self, rfl⟩
  | later _ _ ih =>
      obtain ⟨candidate, among, shown⟩ := ih
      exact ⟨candidate, List.mem_cons_of_mem _ among, shown⟩

theorem AttemptsRanks.mem {columns : List CompiledOutput} {outputs : List OutputValue}
    {operation : Operation} (attempts : AttemptsRanks columns outputs operation) :
    ∃ column ∈ columns, ∃ output ∈ outputs, ∃ candidate ∈ column.priorities,
      operation = .comparison .equal candidate output.value := by
  induction attempts with
  | here attempts =>
      obtain ⟨candidate, among, shown⟩ := attempts.mem
      exact ⟨_, List.mem_cons_self, _, List.mem_cons_self, candidate, among, shown⟩
  | later _ _ ih =>
      obtain ⟨column, inColumns, output, inOutputs, shown⟩ := ih
      exact ⟨column, List.mem_cons_of_mem _ inColumns, output, List.mem_cons_of_mem _ inOutputs, shown⟩

/-- Outputs that are no signaling numbers can be ranked among elementary values. -/
theorem not_breaks_ranks {columns : List CompiledOutput} {outputs : List OutputValue}
    (elementary : ∀ column ∈ columns, ∀ candidate ∈ column.priorities, candidate.Elementary)
    (quiet : ∀ output ∈ outputs, ¬output.value.IsSignaling) : ¬Breaks (ranks columns outputs) := by
  rw [breaks_ranks_iff]
  rintro ⟨operation, attempts, undefined⟩
  obtain ⟨column, inColumns, output, inOutputs, candidate, among, rfl⟩ := attempts.mem
  exact (elementary column inColumns candidate among).not_signals (quiet output inOutputs) undefined.2

end CompiledTable

end DecisionTables
