import DecisionTables.Proofs.Table.Results
import DecisionTables.Proofs.Value.Conversion

/-!
# Values of declared types

A strict table brings every value to the type of its column or fails. Aggregated values are not
converted again; they keep the type of their column because each aggregation is closed under it: a
sum of integers is an integer, a sum that starts from zero and adds doubles is a double, and an
extreme is one of the values it is taken from.
-/

namespace DecisionTables

/-! ## Aggregations -/

namespace Aggregate

theorem extreme_mem {relation : Relation} {best found : Value} {values : List Value}
    (given : extreme relation best values = .ok found) : found ∈ best :: values := by
  induction values generalizing best with
  | nil =>
      cases given
      exact List.mem_cons_self
  | cons value rest ih =>
      simp only [extreme, Except.bind_eq_ok_iff] at given
      rcases given with ⟨_ | _, _, given⟩
      · have among := ih given
        simp only [List.mem_cons] at among ⊢
        exact among.imp_right .inr
      · exact List.mem_cons_of_mem _ (ih given)

theorem numbers?_eq_some {values : List Value} {numbers : List Number}
    (all : numbers? values = some numbers) : values = numbers.map Value.number := by
  induction values generalizing numbers with
  | nil =>
      cases all
      rfl
  | cons value rest ih =>
      cases value with
      | number number =>
          obtain ⟨others, remaining, rfl⟩ := Option.map_eq_some_iff.mp all
          rw [List.map_cons, ih remaining]
      | _ => cases all

theorem accumulate_double {sum next : Number} {double : Binary64}
    (added : sum.accumulate (.double double) = .ok next) : ∃ total, next = .double total := by
  cases sum with
  | integer | double | decimal =>
      simp only [Number.accumulate, Number.apply, Except.bind_eq_ok_iff, Except.pure_eq_ok,
        Except.ok.injEq] at added
      obtain ⟨left, _, right, _, rfl⟩ := added
      exact ⟨_, rfl⟩

theorem accumulate_to_double {next : Number} {double : Binary64} {whole : Int}
    (added : (Number.double double).accumulate (.integer whole) = .ok next) :
    ∃ total, next = .double total := by
  simp only [Number.accumulate, Number.apply, Except.bind_eq_ok_iff, Except.pure_eq_ok,
    Except.ok.injEq] at added
  obtain ⟨left, _, right, _, rfl⟩ := added
  exact ⟨_, rfl⟩

/-- Adding a number of a type to an integer, or to a number of the same type, gives that type. -/
theorem accumulate_hasType {type : ValueType} {sum number next : Number}
    (begun : (∃ whole, sum = .integer whole) ∨ (Value.number sum).HasType type)
    (typed : (Value.number number).HasType type) (added : sum.accumulate number = .ok next) :
    (Value.number next).HasType type := by
  cases typed with
  | integer =>
      obtain ⟨whole, rfl⟩ | ⟨⟨⟩⟩ := begun
      · cases added
        exact .integer
      · cases added
        exact .integer
  | long =>
      obtain ⟨whole, rfl⟩ | ⟨⟨⟩⟩ := begun
      · cases added
        exact .long
      · cases added
        exact .long
  | double =>
      obtain ⟨total, rfl⟩ := accumulate_double added
      exact .double
  | real =>
      obtain ⟨total, rfl⟩ := accumulate_double added
      exact .real
  | whole =>
      obtain ⟨whole, rfl⟩ | begun := begun
      · cases added
        exact .whole
      · cases begun with
        | whole =>
            cases added
            exact .whole
        | real =>
            obtain ⟨total, rfl⟩ := accumulate_to_double added
            exact .real

/-- A running total takes the type of the numbers that are added, of which there is at least
one. -/
theorem total_hasType {type : ValueType} {sum total : Number} {numbers : List Number}
    (begun : (∃ whole, sum = .integer whole) ∨ (Value.number sum).HasType type)
    (typed : ∀ number ∈ numbers, (Value.number number).HasType type) (nonempty : numbers ≠ [])
    (given : Aggregate.total sum numbers = .ok total) : (Value.number total).HasType type := by
  induction numbers generalizing sum with
  | nil => exact absurd rfl nonempty
  | cons number rest ih =>
      simp only [Aggregate.total, Except.bind_eq_ok_iff] at given
      obtain ⟨next, added, given⟩ := given
      have reached := accumulate_hasType begun (typed number List.mem_cons_self) added
      cases rest with
      | nil =>
          cases given
          exact reached
      | cons second rest =>
          exact ih (.inr reached) (fun other member => typed other (List.mem_cons_of_mem _ member))
            (List.cons_ne_nil _ _) given

/-- A number of a declared type is no decimal number, so that numbers are added as they are. -/
theorem sum_hasType {type : ValueType} {total : Number} {numbers : List Number}
    (typed : ∀ number ∈ numbers, (Value.number number).HasType type) (nonempty : numbers ≠ [])
    (given : sum numbers = .ok total) : (Value.number total).HasType type := by
  have binary : numbers.any Number.isDecimal = false := by
    rw [List.any_eq_false]
    intro number member
    cases typed number member <;> simp [Number.isDecimal]
  simp only [sum, addends, binary, Bool.false_and, Bool.false_eq_true, if_false,
    Except.ok_bind] at given
  exact total_hasType (.inl ⟨0, rfl⟩) typed nonempty given

/-- The sum of numbers that fit a declared type, of which there is at least one, fits it. -/
theorem sum_fits {typeRef : Option String} {total : Number} {numbers : List Number}
    (typed : ∀ number ∈ numbers, (Value.number number).Fits typeRef) (nonempty : numbers ≠ [])
    (given : sum numbers = .ok total) : (Value.number total).Fits typeRef := by
  refine .inr fun type known => ?_
  refine sum_hasType (fun number member => ?_) nonempty given
  rcases typed number member with null | fits
  · cases null
  · exact fits type known

theorem extremeOf_mem {aggregation : Aggregation} {relation : Relation} {decisionId : String}
    {first found : Value} {rest : List Value}
    (given : extremeOf aggregation relation decisionId first rest = .ok found) :
    found ∈ first :: rest := by
  rw [extremeOf] at given
  split at given
  · rename_i taken
    cases given
    exact extreme_mem taken
  · cases given
  · cases given

end Aggregate

/-- An aggregate other than a count fits the type that all collected values fit. -/
theorem Aggregation.fits_of_apply {aggregation : Aggregation} {decisionId : String}
    {typeRef : Option String} {values : List Value} {value : Value} (other : aggregation ≠ .count)
    (typed : ∀ value ∈ values, value.Fits typeRef)
    (given : aggregation.apply values decisionId = .ok value) : value.Fits typeRef := by
  unfold Aggregation.apply at given
  have present : ∀ value ∈ values.filter fun value => !value.isNull, value.Fits typeRef :=
    fun value member => typed value (List.mem_filter.mp member).1
  generalize (values.filter fun value => !value.isNull) = collected at given present
  cases collected with
  | nil =>
      cases aggregation with
      | count => exact absurd rfl other
      | sum | min | max =>
          cases given
          exact .inl rfl
  | cons first rest =>
      cases aggregation with
      | count => exact absurd rfl other
      | min | max => exact present value (Aggregate.extremeOf_mem given)
      | sum =>
          simp only at given
          split at given
          · cases given
          · rename_i numbers all
            have equal := Aggregate.numbers?_eq_some all
            split at given
            · rename_i total summed
              cases given
              refine Aggregate.sum_fits (fun number member => ?_) ?_ summed
              · exact present _ (equal ▸ List.mem_map_of_mem member)
              · rintro rfl
                cases equal
            · cases given

/-! ## Tables -/

namespace CompiledTable

variable {table : CompiledTable} {context : Context}

theorem fits_of_entryOf (strict : table.strict = true) {rule : CompiledRule} {entry : OutputEntry}
    (given : table.entryOf context rule = .ok entry) :
    ∀ output ∈ entry.values, output.value.Fits output.typeRef := by
  simp only [entryOf, Except.map_eq_ok_iff] at given
  obtain ⟨values, evaluated, rfl⟩ := given
  intro output member
  obtain ⟨cell, _, value, found, rfl⟩ := mem_outputValues evaluated member
  obtain ⟨raw, _, coerced⟩ := cellValue_eq_ok_iff.mp found
  exact Value.fits_of_coerce (strict ▸ coerced)

/-- The values that are collected for an aggregation fit the only column. -/
theorem fits_of_firstValues (strict : table.strict = true) (shaped : table.WellShaped)
    {column : CompiledOutput} (only : table.outputs = [column]) {rules : List CompiledRule}
    (declared : ∀ rule ∈ rules, rule ∈ table.rules) {entries : List OutputEntry}
    (given : table.entriesOf context rules = .ok entries) :
    ∀ value ∈ firstValues entries, value.Fits column.typeRef := by
  intro value member
  obtain ⟨entry, among, front⟩ := List.mem_filterMap.mp member
  obtain ⟨output, first, rfl⟩ := Option.map_eq_some_iff.mp front
  obtain ⟨rule, matched, made⟩ := forAll_mem given among
  have columns := entryOf_columns shaped (declared rule matched) made
  have typed : output.typeRef = column.typeRef := by
    have same := congrArg List.head? columns
    simp only [OutputEntry.signature, only, List.head?_map, first] at same
    simpa using congrArg (Option.map Prod.snd) same
  exact typed ▸ fits_of_entryOf strict made output (List.mem_of_head? first)

theorem fits_of_aggregatedEntry {column : CompiledOutput} (only : table.outputs = [column])
    {aggregation : Aggregation} {collected : List OutputEntry}
    (typed : ∀ value ∈ firstValues collected, value.Fits column.typeRef) {entry : OutputEntry}
    (given : table.aggregatedEntry aggregation collected = .ok entry) :
    ∀ output ∈ entry.values, output.value.Fits output.typeRef := by
  simp only [aggregatedEntry, only] at given
  split at given
  · cases given
  · rename_i value applied
    cases given
    intro output member
    obtain rfl := List.mem_singleton.mp member
    by_cases counts : aggregation = .count
    · subst counts
      cases applied
      refine .inr fun type known => ?_
      cases known
      exact .integer
    · simp only [counts, if_false]
      exact Aggregation.fits_of_apply counts typed applied

/-- Every value that a strict table keeps fits the type that is declared for it. -/
theorem Keeps.fits (strict : table.strict = true) (regular : table.Regular)
    {rules : List CompiledRule} (declared : ∀ rule ∈ rules, rule ∈ table.rules)
    {entries : List OutputEntry} (keeps : table.Keeps context rules entries) :
    ∀ entry ∈ entries, ∀ output ∈ entry.values, output.value.Fits output.typeRef := by
  intro entry member
  cases keeps with
  | nothing => cases member
  | one _ _ made =>
      obtain rfl := List.mem_singleton.mp member
      exact fits_of_entryOf strict made
  | all _ _ given perm =>
      obtain ⟨rule, _, made⟩ := forAll_mem given (perm.mem_iff.mp member)
      exact fits_of_entryOf strict made
  | aggregate present given aggregated =>
      obtain rfl := List.mem_singleton.mp member
      obtain ⟨column, only⟩ :=
        List.length_eq_one_iff.mp (regular.aggregation (by simp [present]))
      exact fits_of_aggregatedEntry only
        (fits_of_firstValues strict regular.toWellShaped only declared given) aggregated

/-- Every value in a result of a table that was compiled strictly is null or of the type that is
declared for it, if that is known. -/
theorem fits_of_strict {options : CompilerOptions} {definition : DecisionDefinition}
    (strict : options.strict = true) (compiled : definition.compile options = .ok table)
    {result : ResultSet} (evaluated : table.evaluate context = .ok result) :
    ∀ entry ∈ result.entries, ∀ output ∈ entry.values, output.value.Fits output.typeRef := by
  have regular := DecisionDefinition.compile_regular compiled
  have kept : table.strict = true := (DecisionDefinition.strict_of_compile compiled).trans strict
  obtain ⟨rules, sublist, keeps⟩ := keeps_of_evaluate regular evaluated
  exact keeps.fits kept regular fun rule member => sublist.subset member

def points : DecisionDefinition :=
  ⟨"points", none, .decisionTable,
    some (.decisionTable ⟨none, some "COLLECT", some "SUM", [],
      [⟨none, none, none, some "feel:integer", []⟩],
      [⟨none, none, [], ["1"]⟩, ⟨none, none, [], ["\"2\""]⟩]⟩), []⟩

def pointsTable : CompiledTable where
  decisionId := "points"
  decisionName := none
  hitPolicy := .collect
  aggregation := some .sum
  inputs := []
  outputs := [⟨"output0", "points", none, some "integer", []⟩]
  rules := [
    ⟨"rule0", 0, none, [], [⟨"1", .literal (.integer 1)⟩]⟩,
    ⟨"rule1", 1, none, [], [⟨"\"2\"", .literal (.text "2")⟩]⟩]
  strict := true

theorem points_compile : points.compile ⟨"UNIQUE", true⟩ = .ok pointsTable := by
  have recognised : HitPolicy.parse (some "COLLECT") (some "SUM") "UNIQUE" =
      .ok (.collect, some .sum) :=
    HitPolicy.parse_collect "COLLECT" "SUM" (by decide +kernel) rfl rfl
      (by decide +kernel) rfl rfl
  have integer : TypeRef.normalize "feel:integer" = some "integer" := by decide +kernel
  refine DecisionDefinition.compile_eq_ok rfl rfl ?_ rfl ?_ (fun uses => nomatch uses) ?_
  · exact Compile.hitPolicy_eq_ok recognised fun _ => rfl
  · simp only [points, Compile.outputs, Compile.outputsFrom, Option.bind_some, integer]
    rfl
  · cbv

theorem points_fits : points.compile ⟨"UNIQUE", true⟩ = .ok pointsTable ∧
    pointsTable.evaluate (.ofBindings []) = .ok (.single "points" (.integer 3) (some "integer")) ∧
    ∀ entry ∈ (ResultSet.single "points" (.integer 3) (some "integer")).entries,
      ∀ output ∈ entry.values, output.value.Fits output.typeRef := by
  have evaluated : pointsTable.evaluate (.ofBindings []) =
      .ok (.single "points" (.integer 3) (some "integer")) := rfl
  exact ⟨points_compile, evaluated, fits_of_strict rfl points_compile evaluated⟩

end CompiledTable

end DecisionTables
