import Mathlib.Data.List.Pairwise
import DecisionTables.Proofs.Expression.Closed
import DecisionTables.Proofs.Table.Matching

/-!
# Entries that agree

The policy that allows any of the matching rules compares the entries with the first of them alone.
That says something about all of them since agreement is symmetric and transitive on the entries of
compiled tables: whichever entry comes first, they all agree with each other or some do not.
-/

namespace DecisionTables

namespace OutputEntry

/-- Whether the maps among the values of an entry have distinct names. -/
def WellNamed (entry : OutputEntry) : Prop :=
  ∀ output ∈ entry.values, output.value.WellNamed

theorem output_agrees_iff {left right : OutputValue} :
    left.agrees right = .ok true ↔
      left.name = right.name ∧ Value.matchesMember left.value right.value = .ok true ∧
        left.typeRef = right.typeRef := by
  rw [OutputValue.agrees]
  split
  case isTrue same =>
      rcases Value.matchesMember left.value right.value with fault | _ | _
      all_goals simp [same]
  case isFalse other => simp [other]

theorem agreeAll_cons {α : Type} {agree : α → α → Except Fault Bool} {left right : α}
    {lefts rights : List α} : agreeAll agree (left :: lefts) (right :: rights) =
      agree left right >>= fun same => if same then agreeAll agree lefts rights else .ok false :=
  rfl

theorem agreeAll_iff {α : Type} {agree : α → α → Except Fault Bool} {lefts rights : List α} :
    agreeAll agree lefts rights = .ok true ↔
      List.Forall₂ (fun left right => agree left right = .ok true) lefts rights := by
  induction lefts generalizing rights with
  | nil => cases rights <;> simp [agreeAll]
  | cons left lefts ih =>
      cases rights with
      | nil => simp [agreeAll]
      | cons right rights =>
          rw [agreeAll_cons, Value.bind_guard_eq_true_iff, ih, List.forall₂_cons]

theorem agrees_symm {left right : OutputEntry} (named : left.WellNamed)
    (agreed : left.agrees right = .ok true) : right.agrees left = .ok true := by
  rw [agrees, agreeAll_iff] at agreed ⊢
  refine forall₂_symm_of ?_ agreed
  intro output among other agreed
  rw [output_agrees_iff] at agreed ⊢
  obtain ⟨name, value, typeRef⟩ := agreed
  exact ⟨name.symm, Value.matchesMember_symm (named output among) value, typeRef.symm⟩

theorem agrees_trans {left middle right : OutputEntry} (named : left.WellNamed)
    (first : left.agrees middle = .ok true) (second : middle.agrees right = .ok true) :
    left.agrees right = .ok true := by
  rw [agrees, agreeAll_iff] at first second ⊢
  refine forall₂_trans_of ?_ first second
  intro output among middle right first second
  rw [output_agrees_iff] at first second ⊢
  obtain ⟨name, value, typeRef⟩ := first
  obtain ⟨nextName, nextValue, nextTypeRef⟩ := second
  exact ⟨name.trans nextName, Value.matchesMember_trans (named output among) value nextValue,
    typeRef.trans nextTypeRef⟩

/-- Whether each of two entries agrees with the other. -/
def Concur (left right : OutputEntry) : Prop :=
  left.agrees right = .ok true ∧ right.agrees left = .ok true

instance : Std.Symm Concur :=
  ⟨fun _ _ concur => concur.symm⟩

end OutputEntry

namespace CompiledTable

open OutputEntry

/-! ## The comparison with the first entry -/

theorem allAgreeWith_iff {first : OutputEntry} {entries : List OutputEntry} :
    allAgreeWith first entries = .ok true ↔ ∀ entry ∈ entries, entry.agrees first = .ok true := by
  induction entries with
  | nil => simp [allAgreeWith]
  | cons entry rest ih =>
      simp only [allAgreeWith, Except.pure_eq_ok, Value.bind_guard_eq_true_iff, ih,
        List.forall_mem_cons]

section AllAgree

variable {entries others : List OutputEntry} (named : ∀ entry ∈ entries, entry.WellNamed)

include named

/-- All entries agree with the first exactly if any two of them agree. -/
theorem allAgree_iff : allAgree entries = .ok true ↔ entries.Pairwise Concur := by
  cases entries with
  | nil => simp [allAgree]
  | cons first rest =>
      rw [List.forall_mem_cons] at named
      rw [allAgree, allAgreeWith_iff, List.pairwise_cons]
      constructor
      · intro agreed
        have turned (entry : OutputEntry) (among : entry ∈ rest) : first.agrees entry = .ok true :=
          agrees_symm (named.2 entry among) (agreed entry among)
        refine ⟨fun entry among => ⟨turned entry among, agreed entry among⟩, ?_⟩
        -- Two of the others agree by way of the first.
        apply List.pairwise_of_forall_mem_list
        intro left inLeft right inRight
        exact ⟨agrees_trans (named.2 left inLeft) (agreed left inLeft) (turned right inRight),
          agrees_trans (named.2 right inRight) (agreed right inRight) (turned left inLeft)⟩
      · intro shown
        exact fun entry among => (shown.1 entry among).2

/-- That all entries agree does not depend on which of them is the first. -/
theorem allAgree_of_perm (perm : others.Perm entries) :
    allAgree others = .ok true ↔ allAgree entries = .ok true := by
  have namedToo : ∀ entry ∈ others, entry.WellNamed :=
    fun entry among => named entry (perm.mem_iff.mp among)
  rw [allAgree_iff named, allAgree_iff namedToo]
  exact perm.pairwise_iff fun concur => concur.symm

/-- Of entries that all agree, any two are the same or agree. -/
theorem agrees_of_allAgree (agreed : allAgree entries = .ok true) {left right : OutputEntry}
    (inLeft : left ∈ entries) (inRight : right ∈ entries) :
    left = right ∨ left.agrees right = .ok true := by
  by_cases same : left = right
  · exact .inl same
  · exact .inr (((allAgree_iff named).mp agreed).forall inLeft inRight same).1

/-- Of entries that all agree, the first is the same or an equal one in every order. -/
theorem front_agrees (agreed : allAgree entries = .ok true) (perm : others.Perm entries) :
    others.take 1 = entries.take 1 ∨
      (ResultSet.mk (others.take 1)).agrees ⟨entries.take 1⟩ = .ok true := by
  cases entries with
  | nil => exact .inl (by rw [perm.eq_nil])
  | cons entry rest =>
      cases others with
      | nil => exact absurd perm.length_eq (by simp)
      | cons other more =>
          have among : other ∈ entry :: rest := perm.mem_iff.mp List.mem_cons_self
          rcases agrees_of_allAgree named agreed among List.mem_cons_self with same | agrees
          · exact .inl (by rw [same, List.take_succ_cons, List.take_succ_cons, List.take_zero,
              List.take_zero])
          · exact .inr (by simp [ResultSet.agrees, agreeAll, agrees])

end AllAgree

end CompiledTable

/-! ## Entries of compiled tables -/

namespace Compile

variable {decisionId ruleId : String}

/-- The literals in the outputs of a compiled rule are elementary. -/
theorem Makes.outputs_elementary {options : CompilerOptions} {definition : DecisionDefinition}
    {logic : TableLogic} {table : CompiledTable} (makes : Makes options definition logic table) :
    ∀ rule ∈ table.rules, ∀ expression ∈ rule.outputs,
      expression.body.Literals Value.Elementary := by
  intro compiledRule member expression among
  obtain ⟨index, declared, _, compiled⟩ := forAllFrom_mem makes.given member
  simp only [rule] at compiled
  split at compiled
  · cases compiled
  · split at compiled
    · cases compiled
    · simp only [Except.bind_eq_ok_iff, Except.pure_eq_ok, Except.ok.injEq] at compiled
      obtain ⟨_, _, expressions, read, rfl⟩ := compiled
      obtain ⟨_, text, compiled⟩ := forCells_mem read among
      exact CompiledExpression.elementary_of_compile (ofRead_eq_ok_iff.mp compiled)

end Compile

namespace CompiledTable

/-- The entries of a compiled table have distinct names in their maps if the variables have. -/
theorem wellNamed_of_entryOf {options : CompilerOptions} {definition : DecisionDefinition}
    {table : CompiledTable} {context : Context}
    (compiled : definition.compile options = .ok table) (named : context.WellNamed)
    {rule : CompiledRule} (declared : rule ∈ table.rules) {entry : OutputEntry}
    (given : table.entryOf context rule = .ok entry) : entry.WellNamed := by
  obtain ⟨_, makes⟩ := DecisionDefinition.makes_of_compile compiled
  simp only [entryOf, Except.map_eq_ok_iff] at given
  obtain ⟨values, evaluated, rfl⟩ := given
  intro output member
  obtain ⟨cell, among, value, found, rfl⟩ := mem_outputValues evaluated member
  obtain ⟨raw, evaluates, coerced⟩ := cellValue_eq_ok_iff.mp found
  have elementary := makes.outputs_elementary rule declared cell.2 (List.of_mem_zip among).2
  have literals := elementary.imp fun _ elementary => elementary.wellNamed
  exact Value.closed_wellNamed.of_coerce
    (Expression.wellNamed_of_evaluate literals named .null evaluates) coerced

end CompiledTable

end DecisionTables
