import DecisionTables.Proofs.Table.Agreement
import DecisionTables.Proofs.Table.Results

/-!
# Outputs that count as equal

Values are compared in three places: by the `=` of the language, where a value is ranked among the
allowed ones, and between the entries of matching rules. The language keeps booleans and numbers
apart, and so does a rank. The comparison of entries does not: where any of the matching rules may
answer, `true` in the output of one and `1` in that of another are no conflict, although the answers
differ. Apart from outputs that are not-a-numbers or hold a signaling one, this is the only difference.
-/

namespace DecisionTables

namespace Value

/-- Whether the language says of two values that the one equals the other. -/
def SaidEqual (left right : Value) : Prop :=
  (Expression.compare .equal (.name ⟨"v", []⟩) (.name ⟨"w", []⟩)).evaluate
    ⟨.ofBindings [("v", left), ("w", right)], .null⟩ = .ok (.boolean true)

/-- Whether one of two values is a boolean and the other the number that it counts as. -/
inductive CountsAs : Value → Value → Prop
  | boolean {value : Bool} {number : Number} :
      (countOf value).equal number = true → CountsAs (.boolean value) (.number number)
  | number {number : Number} {value : Bool} :
      number.equal (countOf value) = true → CountsAs (.number number) (.boolean value)

def IsNotANumber (value : Value) : Prop :=
  ∃ number : Number, value = .number number ∧ number.point? = none

variable {left right : Value}

theorem saidEqual_iff : left.SaidEqual right ↔ left.equals right = .ok true := by
  cases told : left.equals right with
  | error fault =>
      simp [SaidEqual, Expression.evaluate, Context.ofBindings, Bindings.get?, follow, compareWith,
        told, Evaluated.ofFault]
  | ok equal =>
      simp [SaidEqual, Expression.evaluate, Context.ofBindings, Bindings.get?, follow, compareWith,
        told, Evaluated.ofFault]

example : CompiledExpression.compile "v = w" =
    .ok ⟨"v = w", .compare .equal (.name ⟨"v", []⟩) (.name ⟨"w", []⟩)⟩ := by cbv

theorem CountsAs.isBoolean_ne (counts : left.CountsAs right) :
    left.isBoolean ≠ right.isBoolean := by
  cases counts <;> simp [isBoolean]

theorem CountsAs.not_saidEqual (counts : left.CountsAs right) : ¬left.SaidEqual right := by
  simp [saidEqual_iff, equals_eq, counts.isBoolean_ne]

/-- Plain equality is the equality of the language and one case more. -/
theorem plainEqual_iff_saidEqual_or :
    plainEqual left right = .ok true ↔ left.SaidEqual right ∨ left.CountsAs right := by
  have counted {left right : Number} :
      left.equality right = .ok true ↔ left.equal right = true := by
    rw [Number.equality_eq_true_iff, Number.equal_iff]
  rw [saidEqual_iff, equals_eq]
  split
  case isTrue alike =>
      refine ⟨.inl, fun shown => shown.resolve_right ?_⟩
      exact fun counts => counts.isBoolean_ne alike
  case isFalse unlike =>
      simp only [Except.ok.injEq, Bool.false_eq_true, false_or]
      constructor
      · intro equal
        cases left with
        | boolean value =>
            cases right with
            | boolean => exact absurd rfl unlike
            | number number => exact .boolean (counted.mp equal)
            | null | text | date | moment | object | list | map => cases equal
        | number number =>
            cases right with
            | boolean value => exact .number (counted.mp equal)
            | null | number | text | date | moment | object | list | map => exact absurd rfl unlike
        | null | text | date | moment | object | list | map =>
            cases right with
            | boolean => cases equal
            | null | number | text | date | moment | object | list | map => exact absurd rfl unlike
      · intro counts
        cases counts with
        | boolean equal | number equal => exact counted.mpr equal

/-- Unless one is a not-a-number, members match exactly if they are plainly equal. -/
theorem matchesMember_iff_plainEqual (defined : ¬left.IsNotANumber) :
    matchesMember left right = .ok true ↔ plainEqual left right = .ok true := by
  have unlabelled : left.label? = none := by
    by_contra labelled
    obtain ⟨label, labelled⟩ := Option.ne_none_iff_exists'.mp labelled
    cases left with
    | number number => exact defined ⟨number, rfl, point?_of_label labelled⟩
    | null | boolean | text | date | moment | object | list | map => cases labelled
  simp [matchesMember_iff, plainEqual_iff, unlabelled]

end Value

/-! ## Entries -/

namespace OutputEntry

/-- Whether the language calls the values of two entries equal in every column. -/
def SaidEqual (left right : OutputEntry) : Prop :=
  List.Forall₂ (fun left right => left.value.SaidEqual right.value) left.values right.values

/-- Whether the values of two entries are, in every column, equal in the language or a boolean and
the number that it counts as. -/
def Alike (left right : OutputEntry) : Prop :=
  List.Forall₂
    (fun left right => left.value.SaidEqual right.value ∨ left.value.CountsAs right.value)
    left.values right.values

/-- Whether two entries have, in some column, a boolean and the number that it counts as. -/
def CountsAs (left right : OutputEntry) : Prop :=
  ∃ column ∈ left.values.zip right.values, column.1.value.CountsAs column.2.value

variable {left right : OutputEntry}

/-- Entries are equal in the language if they are alike without a boolean for a number. -/
theorem saidEqual_iff : left.SaidEqual right ↔ left.Alike right ∧ ¬left.CountsAs right := by
  simp only [SaidEqual, Alike, CountsAs, List.forall₂_iff_zip]
  constructor
  · rintro ⟨same, equal⟩
    refine ⟨⟨same, fun among => .inl (equal among)⟩, ?_⟩
    rintro ⟨column, among, counts⟩
    exact counts.not_saidEqual (equal among)
  · rintro ⟨⟨same, alike⟩, apart⟩
    refine ⟨same, fun among => ?_⟩
    rcases alike among with equal | counts
    · exact equal
    · exact absurd ⟨_, among, counts⟩ apart

/-- Entries of the same columns agree exactly if they are alike. -/
theorem agrees_iff_alike (columns : left.signature = right.signature)
    (defined : ∀ output ∈ left.values, ¬output.value.IsNotANumber) :
    left.agrees right = .ok true ↔ left.Alike right := by
  have same : List.Forall₂ (fun left right => left.name = right.name ∧ left.typeRef = right.typeRef)
      left.values right.values := by
    rw [signature, signature, ← List.forall₂_eq_eq_eq, List.forall₂_map_left_iff,
      List.forall₂_map_right_iff] at columns
    exact columns.imp fun _ _ same => Prod.ext_iff.mp same
  rw [List.forall₂_iff_zip] at same
  rw [agrees, agreeAll_iff, Alike, List.forall₂_iff_zip, List.forall₂_iff_zip]
  refine and_congr_right fun _ => ?_
  constructor
  · intro agreed left right among
    obtain ⟨_, matched, _⟩ := output_agrees_iff.mp (agreed among)
    rw [Value.matchesMember_iff_plainEqual (defined left (List.of_mem_zip among).1)] at matched
    exact Value.plainEqual_iff_saidEqual_or.mp matched
  · intro alike left right among
    obtain ⟨name, typeRef⟩ := same.2 among
    have equal := Value.plainEqual_iff_saidEqual_or.mpr (alike among)
    rw [← Value.matchesMember_iff_plainEqual (defined left (List.of_mem_zip among).1)] at equal
    exact output_agrees_iff.mpr ⟨name, equal, typeRef⟩

end OutputEntry

/-! ## Any of the matching rules -/

namespace CompiledTable

open OutputEntry

/-- Whether the answer is the entry of the first of the matching rules exactly if any two of their
entries are the same in some sense, and otherwise a conflict of all of them. -/
structure AnswersWhere (same : OutputEntry → OutputEntry → Prop) (table : CompiledTable)
    (context : Context) (rules : List CompiledRule) (entries : List OutputEntry) : Prop where
  answered : table.evaluate context = .ok ⟨entries.take 1⟩ ↔ entries.Pairwise same
  refused : ¬entries.Pairwise same → table.evaluate context = .error (table.conflict rules)

variable {table : CompiledTable} {context : Context} {rules : List CompiledRule}
  {entries : List OutputEntry}

/-- A table of that policy is not changed by being put under it. -/
theorem under_any (regular : table.Regular) (policy : table.hitPolicy = .any) :
    table.under .any none = table := by
  have unaggregated := regular.unaggregated (by simp [policy])
  cases table
  cases policy
  cases unaggregated
  rfl

/-- The entries of matching rules of a compiled table all agree exactly if any two are alike. -/
theorem allAgree_iff_alike {options : CompilerOptions} {definition : DecisionDefinition}
    (compiled : definition.compile options = .ok table) (named : context.WellNamed)
    (matched : table.matching context = .ok rules)
    (given : table.entriesOf context rules = .ok entries)
    (defined : ∀ entry ∈ entries, ∀ output ∈ entry.values, ¬output.value.IsNotANumber) :
    allAgree entries = .ok true ↔ entries.Pairwise Alike := by
  have shaped := DecisionDefinition.compile_wellShaped compiled
  have made (entry : OutputEntry) (among : entry ∈ entries) :
      ∃ rule ∈ table.rules, table.entryOf context rule = .ok entry := by
    obtain ⟨rule, member, made⟩ := forAll_mem given among
    obtain ⟨_, _, rfl⟩ := matching_eq_filter matched
    exact ⟨rule, (List.mem_filter.mp member).1, made⟩
  have namedEntries (entry : OutputEntry) (among : entry ∈ entries) : entry.WellNamed := by
    obtain ⟨rule, declared, made⟩ := made entry among
    exact wellNamed_of_entryOf compiled named declared made
  have columns {left right : OutputEntry} (inLeft : left ∈ entries) (inRight : right ∈ entries) :
      left.signature = right.signature := by
    obtain ⟨leftRule, leftDeclared, leftMade⟩ := made left inLeft
    obtain ⟨rightRule, rightDeclared, rightMade⟩ := made right inRight
    rw [entryOf_columns shaped leftDeclared leftMade,
      entryOf_columns shaped rightDeclared rightMade]
  rw [allAgree_iff namedEntries]
  refine List.Pairwise.iff_of_mem fun {left right} inLeft inRight => ?_
  rw [← agrees_iff_alike (columns inLeft inRight) (defined left inLeft)]
  constructor
  · intro concur
    exact concur.1
  · intro agreed
    exact ⟨agreed, agrees_symm (namedEntries left inLeft) agreed⟩

section Any

variable {options : CompilerOptions} {definition : DecisionDefinition}
  (compiled : definition.compile options = .ok table) (policy : table.hitPolicy = .any)
  (named : context.WellNamed) (matched : table.matching context = .ok rules)
  (given : table.entriesOf context rules = .ok entries)
  (defined : ∀ entry ∈ entries, ∀ output ∈ entry.values, ¬output.value.IsNotANumber)
  (silent : ∀ entry ∈ entries, entry.Silent)

include compiled policy named matched given defined silent

theorem answersWhere_alike : table.AnswersWhere Alike context rules entries := by
  have regular := DecisionDefinition.compile_regular compiled
  obtain ⟨agreed, told⟩ : ∃ agreed, allAgree entries = .ok agreed := by
    cases told : allAgree entries with
    | ok agreed => exact ⟨agreed, rfl⟩
    | error fault =>
        exact absurd (breaks_iff_error.mpr ⟨fault, told⟩) (not_breaks_allAgree silent)
  have ended : table.evaluate context =
      if agreed then .ok ⟨entries.take 1⟩ else .error (table.conflict rules) := by
    have compared := @evaluate_any table context rules ⟨entries⟩ matched given
    rw [under_any regular policy, told] at compared
    rw [compared, conflict, policy]
    rfl
  have compared := allAgree_iff_alike compiled named matched given defined
  rw [told, Except.ok.injEq] at compared
  by_cases alike : entries.Pairwise Alike
  · rw [if_pos (compared.mpr alike)] at ended
    exact ⟨iff_of_true ended alike, fun differ => absurd alike differ⟩
  · rw [if_neg (compared.not.mpr alike)] at ended
    exact ⟨iff_of_false (by simp [ended]) alike, fun _ => ended⟩

/-- Where any of the matching rules may answer, the first one does if their entries are alike. That
amounts to the equality of the language, unless the entries are alike and one of them has a boolean
where another has the number that it counts as. -/
theorem answersWhere_saidEqual_iff : table.AnswersWhere Alike context rules entries ∧
    (table.AnswersWhere OutputEntry.SaidEqual context rules entries ↔
      (entries.Pairwise Alike → entries.Pairwise fun left right => ¬left.CountsAs right)) := by
  have answers := answersWhere_alike compiled policy named matched given defined silent
  have split : entries.Pairwise OutputEntry.SaidEqual ↔
      entries.Pairwise Alike ∧ entries.Pairwise fun left right => ¬left.CountsAs right := by
    rw [← List.pairwise_and_iff]
    exact List.Pairwise.iff fun _ _ => saidEqual_iff
  refine ⟨answers, ?_⟩
  constructor
  · intro meant alike
    exact (split.mp (meant.answered.mp (answers.answered.mpr alike))).2
  · intro apart
    have same : entries.Pairwise Alike ↔ entries.Pairwise OutputEntry.SaidEqual :=
      ⟨fun alike => split.mpr ⟨alike, apart alike⟩, fun equal => (split.mp equal).1⟩
    exact ⟨answers.answered.trans same, fun differ => answers.refused (same.not.mpr differ)⟩

end Any

/-- A table of which any matching rule may answer, with a boolean in one and a number in the
other. -/
def flag : DecisionDefinition :=
  ⟨"flag", none, .decisionTable,
    some (.decisionTable ⟨none, some "ANY", none, [], [⟨none, none, none, none, []⟩],
      [⟨none, none, [], ["true"]⟩, ⟨none, none, [], ["1"]⟩]⟩), []⟩

def flagTable : CompiledTable where
  decisionId := "flag"
  decisionName := none
  hitPolicy := .any
  aggregation := none
  inputs := []
  outputs := [⟨"output0", "flag", none, none, []⟩]
  rules := [
    ⟨"rule0", 0, none, [], [⟨"true", .literal (.boolean true)⟩]⟩,
    ⟨"rule1", 1, none, [], [⟨"1", .literal (.integer 1)⟩]⟩]
  strict := false

theorem flag_compile : flag.compile ⟨"UNIQUE", false⟩ = .ok flagTable := by
  have recognised : HitPolicy.parse (some "ANY") none "UNIQUE" = .ok (.any, none) :=
    HitPolicy.parse_plain "ANY" (by decide +kernel) rfl rfl
  refine DecisionDefinition.compile_eq_ok rfl rfl ?_ rfl rfl (fun uses => nomatch uses) ?_
  · exact Compile.hitPolicy_eq_ok recognised fun aggregated => nomatch aggregated
  · cbv

def flagEntries : List OutputEntry :=
  [⟨[⟨"flag", .boolean true, none⟩]⟩, ⟨[⟨"flag", .integer 1, none⟩]⟩]

theorem flag_not_answersWhere_saidEqual :
    flag.compile ⟨"UNIQUE", false⟩ = .ok flagTable ∧ flagTable.hitPolicy = .any ∧
      (Context.ofBindings []).WellNamed ∧
      flagTable.matching (.ofBindings []) = .ok flagTable.rules ∧
      flagTable.entriesOf (.ofBindings []) flagTable.rules = .ok flagEntries ∧
      (∀ entry ∈ flagEntries, ∀ output ∈ entry.values, ¬output.value.IsNotANumber) ∧
      (∀ entry ∈ flagEntries, entry.Silent) ∧
      flagTable.evaluate (.ofBindings []) = .ok ⟨flagEntries.take 1⟩ ∧
      ¬flagTable.AnswersWhere OutputEntry.SaidEqual (.ofBindings []) flagTable.rules
        flagEntries := by
  have named : (Context.ofBindings []).WellNamed :=
    Context.wellNamed_ofBindings (.map .nil fun _ among => nomatch among)
  have defined : ∀ entry ∈ flagEntries, ∀ output ∈ entry.values, ¬output.value.IsNotANumber := by
    simp only [flagEntries, List.forall_mem_cons, List.not_mem_nil, false_imp_iff, implies_true,
      and_true]
    constructor
    · rintro ⟨_, same, _⟩
      cases same
    · rintro ⟨_, same, undefined⟩
      cases same
      cases undefined
  have silent : ∀ entry ∈ flagEntries, entry.Silent := by
    simp only [flagEntries, OutputEntry.Silent, List.forall_mem_cons, List.not_mem_nil,
      false_imp_iff, implies_true, and_true]
    exact ⟨.boolean, .number rfl⟩
  have alike : flagEntries.Pairwise OutputEntry.Alike := by
    exact List.pairwise_pair.mpr (.cons (.inr (.boolean rfl)) .nil)
  have counted : ¬flagEntries.Pairwise fun left right => ¬left.CountsAs right := by
    intro apart
    exact List.pairwise_pair.mp apart ⟨_, List.mem_cons_self, .boolean rfl⟩
  have settled := answersWhere_saidEqual_iff flag_compile rfl named rfl rfl defined silent
  refine ⟨flag_compile, rfl, named, rfl, rfl, defined, silent, settled.1.answered.mpr alike, ?_⟩
  exact fun meant => counted (settled.2.mp meant alike)

end CompiledTable

end DecisionTables
