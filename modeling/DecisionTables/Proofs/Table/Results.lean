import DecisionTables.Proofs.Table.Attributes
import DecisionTables.Proofs.Table.Views

/-!
# What results look like

The entries of a result are never checked against the columns of their table. That they fit is
settled when the table is compiled: the output columns have distinct names, every rule has an
expression for each of them, and only a collecting table with a single output column is aggregated.
Every entry therefore has one value for each output column, and a name finds the value at the
position of its column.
-/

namespace DecisionTables

/-! ## Bindings and entries with distinct names -/

namespace Bindings

theorem bind_of_fresh {bindings : Bindings} {name : String} {value : Value}
    (fresh : name ∉ bindings.map Prod.fst) :
    bindings.bind name value = bindings ++ [(name, value)] := by
  induction bindings with
  | nil => rfl
  | cons binding rest ih =>
      simp only [List.map_cons, List.mem_cons, not_or] at fresh
      rw [bind, if_neg (by simpa using fun same => fresh.1 same.symm), ih fresh.2, List.cons_append]

theorem foldl_bind_of_distinct {bound pairs : Bindings}
    (distinct : ((bound ++ pairs).map Prod.fst).Nodup) :
    pairs.foldl (fun bindings pair => bindings.bind pair.1 pair.2) bound = bound ++ pairs := by
  induction pairs generalizing bound with
  | nil => simp
  | cons pair rest ih =>
      have fresh : pair.1 ∉ bound.map Prod.fst := by
        rw [List.map_append, List.map_cons, List.nodup_append] at distinct
        intro among
        exact distinct.2.2 _ among _ List.mem_cons_self rfl
      rw [List.foldl_cons, bind_of_fresh fresh, ih (by simpa using distinct), List.append_assoc,
        List.singleton_append]

/-- Pairs with distinct names make bindings of all of them, in their order. -/
theorem ofList_of_distinct {pairs : List (String × Value)}
    (distinct : (pairs.map Prod.fst).Nodup) : ofList pairs = pairs :=
  foldl_bind_of_distinct distinct

end Bindings

namespace OutputEntry

variable {entry : OutputEntry}

/-- The names and types of the values of an entry. -/
def signature (entry : OutputEntry) : List (String × Option String) :=
  entry.values.map fun output => (output.name, output.typeRef)

theorem names_eq_signature (entry : OutputEntry) : entry.names = entry.signature.map Prod.fst := by
  simp [names, signature]

theorem get?_of_distinct (distinct : entry.names.Nodup) {output : OutputValue}
    (member : output ∈ entry.values) : entry.get? output.name = some output.value := by
  rcases entry with ⟨values⟩
  induction values with
  | nil => cases member
  | cons first rest ih =>
      simp only [names, List.map_cons, List.nodup_cons] at distinct
      cases member with
      | head => simp [get?]
      | tail _ later =>
          have other : first.name ≠ output.name := by
            intro same
            exact distinct.1 (same ▸ List.mem_map_of_mem later)
          simpa [get?, List.find?_cons, other] using ih distinct.2 later

theorem toMap_of_distinct (distinct : entry.names.Nodup) :
    entry.toMap = entry.values.map fun output => (output.name, output.value) := by
  apply Bindings.ofList_of_distinct
  simpa [names, List.map_map, Function.comp_def] using distinct

end OutputEntry

/-! ## Tables that compile -/

namespace CompiledTable

/-- What evaluation relies on in a table without checking it again. -/
structure Regular (table : CompiledTable) : Prop extends table.WellShaped where
  /-- Only a collecting table is aggregated. -/
  collects : table.aggregation.isSome → table.hitPolicy = .collect
  /-- The output columns have distinct names. -/
  names : (table.outputs.map CompiledOutput.name).Nodup

end CompiledTable

namespace Compile

variable {options : CompilerOptions} {decisionId : String}

theorem collect_of_hitPolicy {logic : TableLogic} {policy : HitPolicy}
    {aggregation : Option Aggregation}
    (recognised : hitPolicy options decisionId logic = .ok (policy, aggregation))
    (aggregated : aggregation.isSome) : policy = .collect := by
  unfold hitPolicy at recognised
  split at recognised
  · cases recognised
  · cases recognised
    cases aggregated
  · rename_i parsed
    split at recognised
    · cases recognised
      exact HitPolicy.collect_of_parse parsed
    · cases recognised

/-- The names of output columns are distinct, and none has been seen before. -/
theorem outputsFrom_names {single : Bool} {index : Nat} {seen : List String}
    {clauses : List OutputClause} {columns : List CompiledOutput}
    (compiled : outputsFrom options decisionId single index seen clauses = .ok columns) :
    (columns.map CompiledOutput.name).Nodup ∧ ∀ column ∈ columns, column.name ∉ seen := by
  induction clauses generalizing index seen columns with
  | nil =>
      cases compiled
      simp
  | cons clause rest ih =>
      simp only [outputsFrom, Except.bind_eq_ok_iff] at compiled
      rcases compiled with ⟨name, _, compiled⟩
      split at compiled
      · cases compiled
      · rename_i fresh
        simp only [Except.bind_eq_ok_iff, Except.pure_eq_ok, Except.ok.injEq] at compiled
        rcases compiled with ⟨priorities, _, others, remaining, rfl⟩
        obtain ⟨distinct, unseen⟩ := ih remaining
        have first : name ∉ others.map CompiledOutput.name := by
          intro among
          obtain ⟨column, member, rfl⟩ := List.mem_map.mp among
          exact unseen column member List.mem_cons_self
        refine ⟨List.nodup_cons.mpr ⟨first, distinct⟩, ?_⟩
        intro column member
        cases member with
        | head => simpa using fresh
        | tail _ member =>
            intro among
            exact unseen column member (List.mem_cons_of_mem _ among)

end Compile

/-- Compilation gives regular tables only. -/
theorem DecisionDefinition.compile_regular {options : CompilerOptions}
    {definition : DecisionDefinition} {table : CompiledTable}
    (compiled : definition.compile options = .ok table) : table.Regular := by
  obtain ⟨_, makes⟩ := makes_of_compile compiled
  exact ⟨makes.wellShaped, Compile.collect_of_hitPolicy makes.recognised,
    (Compile.outputsFrom_names makes.declared).1⟩

/-! ## What a hit policy keeps -/

namespace CompiledTable

variable {table : CompiledTable} {context : Context} {rules : List CompiledRule}

/-- Entries with their ranks are the entries. -/
theorem map_snd_of_withRanks {entries : List OutputEntry} {ranked : List (List Nat × OutputEntry)}
    (given : forAll table.withRanks entries = .ok ranked) : ranked.map Prod.snd = entries := by
  rw [forAll_eq_ok_iff] at given
  rw [← List.forall₂_eq_eq_eq, List.forall₂_map_left_iff]
  refine (given.imp fun entry pair ranks => ?_).flip
  obtain ⟨_, _, rfl⟩ := Except.map_eq_ok_iff.mp ranks
  rfl

/-- Entries by rank are the entries in another order. -/
theorem byPriority_perm {entries sorted : List OutputEntry}
    (given : table.byPriority entries = .ok sorted) : sorted.Perm entries := by
  simp only [byPriority, Except.bind_eq_ok_iff, Except.pure_eq_ok, Except.ok.injEq] at given
  obtain ⟨ranked, given, rfl⟩ := given
  rw [← map_snd_of_withRanks given]
  exact (List.mergeSort_perm _ _).map _

theorem Regular.unaggregated (regular : table.Regular) (other : table.hitPolicy ≠ .collect) :
    table.aggregation = none := by
  by_contra aggregated
  exact other (regular.collects (Option.isSome_iff_ne_none.mpr aggregated))

/-- What the hit policy makes of matching rules: nothing if there are none, the entry of one of
them, the entries of all of them in some order, or an entry that aggregates those. -/
inductive Keeps (table : CompiledTable) (context : Context) (rules : List CompiledRule) :
    List OutputEntry → Prop
  | nothing : Keeps table context rules []
  | one {rule : CompiledRule} {entry : OutputEntry} :
      table.aggregation = none → rule ∈ rules → table.entryOf context rule = .ok entry →
      Keeps table context rules [entry]
  | all {collected entries : List OutputEntry} :
      table.aggregation = none → table.hitPolicy.isSingle = false →
      table.entriesOf context rules = .ok collected → entries.Perm collected →
      Keeps table context rules entries
  | aggregate {aggregation : Aggregation} {collected : List OutputEntry} {entry : OutputEntry} :
      table.aggregation = some aggregation → table.entriesOf context rules = .ok collected →
      table.aggregatedEntry aggregation collected = .ok entry →
      Keeps table context rules [entry]

theorem keeps_of_entryOf (unaggregated : table.aggregation = none) {rule : CompiledRule}
    (member : rule ∈ rules) {entries : List OutputEntry}
    (given : (table.entryOf context rule >>= fun entry => pure [entry]) = .ok entries) :
    table.Keeps context rules entries := by
  simp only [Except.bind_eq_ok_iff, Except.pure_eq_ok, Except.ok.injEq] at given
  obtain ⟨made, evaluated, rfl⟩ := given
  exact .one unaggregated member evaluated

/-- The front of the entries of all rules, in whatever order, is nothing or the entry of a rule. -/
theorem keeps_of_take (unaggregated : table.aggregation = none)
    {collected entries : List OutputEntry}
    (given : table.entriesOf context rules = .ok collected) (perm : entries.Perm collected) :
    table.Keeps context rules (entries.take 1) := by
  cases entries with
  | nil => exact .nothing
  | cons entry rest =>
      obtain ⟨rule, member, made⟩ := forAll_mem given (perm.mem_iff.mp List.mem_cons_self)
      exact .one unaggregated member made

/-- What a regular table makes of matching rules, of which there is at least one. -/
theorem keeps_of_combine (regular : table.Regular) {first : CompiledRule}
    {others : List CompiledRule} {entries : List OutputEntry}
    (given : table.combine context first others = .ok entries) :
    table.Keeps context (first :: others) entries := by
  rw [combine] at given
  cases policy : table.hitPolicy with
  | first =>
      simp only [policy] at given
      exact keeps_of_entryOf (regular.unaggregated (by simp [policy])) List.mem_cons_self given
  | unique =>
      simp only [policy] at given
      split at given
      · exact keeps_of_entryOf (regular.unaggregated (by simp [policy])) List.mem_cons_self given
      · cases given
  | ruleOrder =>
      simp only [policy] at given
      exact .all (regular.unaggregated (by simp [policy])) (by rw [policy]; rfl) given (.refl _)
  | collect =>
      simp only [policy, Except.bind_eq_ok_iff] at given
      obtain ⟨collected, evaluated, given⟩ := given
      cases present : table.aggregation with
      | none =>
          simp only [present, Except.pure_eq_ok, Except.ok.injEq] at given
          exact .all present (by rw [policy]; rfl) evaluated (given ▸ .refl _)
      | some aggregation =>
          simp only [present, Except.bind_eq_ok_iff, Except.pure_eq_ok,
            Except.ok.injEq] at given
          obtain ⟨made, aggregated, rfl⟩ := given
          exact .aggregate present evaluated aggregated
  | any =>
      simp only [policy, Except.bind_eq_ok_iff] at given
      obtain ⟨collected, evaluated, agreed, _, given⟩ := given
      cases agreed with
      | true =>
          cases given
          exact keeps_of_take (regular.unaggregated (by simp [policy])) evaluated (.refl _)
      | false => cases given
  | priority =>
      simp only [policy, Except.bind_eq_ok_iff, Except.pure_eq_ok, Except.ok.injEq] at given
      obtain ⟨collected, evaluated, sorted, ranked, rfl⟩ := given
      exact keeps_of_take (regular.unaggregated (by simp [policy])) evaluated
        (byPriority_perm ranked)
  | outputOrder =>
      simp only [policy, Except.bind_eq_ok_iff] at given
      obtain ⟨collected, evaluated, ranked⟩ := given
      exact .all (regular.unaggregated (by simp [policy])) (by rw [policy]; rfl) evaluated
        (byPriority_perm ranked)

/-- What a regular table makes of matching rules. -/
theorem keeps_of_applyHitPolicy (regular : table.Regular) {entries : List OutputEntry}
    (given : table.applyHitPolicy context rules = .ok entries) :
    table.Keeps context rules entries := by
  cases rules with
  | nil =>
      rw [applyHitPolicy] at given
      split at given
      · rename_i counted
        simp only [Except.bind_eq_ok_iff, Except.pure_eq_ok, Except.ok.injEq] at given
        obtain ⟨made, aggregated, rfl⟩ := given
        exact .aggregate counted rfl aggregated
      · cases given
        exact .nothing
  | cons first others => exact keeps_of_combine regular given

/-- The entries of a result are what the hit policy makes of rules of the table. -/
theorem keeps_of_evaluate (regular : table.Regular) {result : ResultSet}
    (evaluated : table.evaluate context = .ok result) :
    ∃ rules, rules.Sublist table.rules ∧ table.Keeps context rules result.entries := by
  simp only [evaluate_eq, Except.bind_eq_ok_iff, Except.map_eq_ok_iff] at evaluated
  obtain ⟨rules, matched, entries, given, rfl⟩ := evaluated
  obtain ⟨subjects, _, rfl⟩ := matching_eq_filter matched
  exact ⟨_, List.filter_sublist, keeps_of_applyHitPolicy regular given⟩

/-! ## The columns of entries -/

/-- The names and types of the values of every entry, in the order of the columns. A count is an
integer whatever the type of its column. -/
def signature (table : CompiledTable) : List (String × Option String) :=
  table.outputs.map fun column =>
    (column.name, if table.aggregation = some .count then some "integer" else column.typeRef)

theorem outputValues_signature {ruleId : String} {columns : List CompiledOutput}
    {expressions : List CompiledExpression} {values : List OutputValue}
    (evaluated : table.outputValues ruleId context columns expressions = .ok values)
    (same : expressions.length = columns.length) :
    (values.map fun output => (output.name, output.typeRef)) =
      columns.map fun column => (column.name, column.typeRef) := by
  rw [outputValues_eq, forAll_eq_ok_iff] at evaluated
  have cells : List.Forall₂ (· = ·)
      ((columns.zip expressions).map fun cell => (cell.1.name, cell.1.typeRef))
      (values.map fun output => (output.name, output.typeRef)) := by
    rw [List.forall₂_map_left_iff, List.forall₂_map_right_iff]
    refine evaluated.imp fun cell output made => ?_
    obtain ⟨_, _, rfl⟩ := Except.map_eq_ok_iff.mp made
    rfl
  rw [List.forall₂_eq_eq_eq] at cells
  calc
    _ = (columns.zip expressions).map fun cell => (cell.1.name, cell.1.typeRef) := cells.symm
    _ = ((columns.zip expressions).map Prod.fst).map fun column =>
          (column.name, column.typeRef) := by
      rw [List.map_map]
      rfl
    _ = _ := by rw [List.map_fst_zip (Nat.le_of_eq same.symm)]

/-- The entry of a rule has the columns of its table. -/
theorem entryOf_columns (shaped : table.WellShaped) {rule : CompiledRule}
    (member : rule ∈ table.rules) {entry : OutputEntry}
    (given : table.entryOf context rule = .ok entry) :
    entry.signature = table.outputs.map fun column => (column.name, column.typeRef) := by
  simp only [entryOf, Except.map_eq_ok_iff] at given
  obtain ⟨values, evaluated, rfl⟩ := given
  exact outputValues_signature evaluated (shaped.outputs rule member)

theorem entryOf_signature (shaped : table.WellShaped) (unaggregated : table.aggregation = none)
    {rule : CompiledRule} (member : rule ∈ table.rules) {entry : OutputEntry}
    (given : table.entryOf context rule = .ok entry) : entry.signature = table.signature := by
  simp [entryOf_columns shaped member given, signature, unaggregated]

theorem aggregatedEntry_signature (regular : table.Regular) {aggregation : Aggregation}
    (present : table.aggregation = some aggregation) {collected : List OutputEntry}
    {entry : OutputEntry} (given : table.aggregatedEntry aggregation collected = .ok entry) :
    entry.signature = table.signature := by
  obtain ⟨column, only⟩ := List.length_eq_one_iff.mp (regular.aggregation (by simp [present]))
  simp only [aggregatedEntry, only] at given
  split at given
  · cases given
  · cases given
    simp [OutputEntry.signature, signature, only, present]

/-- Every entry that is kept has one value for each output column, with its name and type. -/
theorem Keeps.signature (regular : table.Regular) {entries : List OutputEntry}
    (declared : ∀ rule ∈ rules, rule ∈ table.rules) (keeps : table.Keeps context rules entries) :
    ∀ entry ∈ entries, entry.signature = table.signature := by
  intro entry member
  cases keeps with
  | nothing => cases member
  | one unaggregated among made =>
      obtain rfl := List.mem_singleton.mp member
      exact entryOf_signature regular.toWellShaped unaggregated (declared _ among) made
  | all unaggregated _ given perm =>
      obtain ⟨rule, among, made⟩ := forAll_mem given (perm.mem_iff.mp member)
      exact entryOf_signature regular.toWellShaped unaggregated (declared rule among) made
  | aggregate present _ aggregated =>
      obtain rfl := List.mem_singleton.mp member
      exact aggregatedEntry_signature regular present aggregated

/-! ## The number of entries -/

theorem Keeps.length_le_one {entries : List OutputEntry} (keeps : table.Keeps context rules entries)
    (single : table.hitPolicy.isSingle = true ∨ table.aggregation.isSome) :
    entries.length ≤ 1 := by
  cases keeps with
  | nothing => exact Nat.zero_le 1
  | one | aggregate => exact Nat.le_refl 1
  | all unaggregated several => simp [unaggregated, several] at single

theorem Keeps.length_le {entries : List OutputEntry} (keeps : table.Keeps context rules entries)
    (unaggregated : table.aggregation = none) : entries.length ≤ rules.length := by
  cases keeps with
  | nothing => exact Nat.zero_le _
  | one _ member => exact List.length_pos_of_mem member
  | all _ _ given perm => exact Nat.le_of_eq (perm.length_eq.trans (forAll_length given))
  | aggregate present => simp [unaggregated] at present

/-! ## Results -/

/-- What the result of a table is like: its entries follow the columns, and none of their values is
lost or hidden by another. -/
structure Presents (table : CompiledTable) (result : ResultSet) : Prop where
  /-- Every entry has exactly one value for each output column, in the order of the columns, with
  the name and the type of its column. -/
  signature : ∀ entry ∈ result.entries, entry.signature = table.signature
  /-- The name of a column gives the value at the position of the column. -/
  named : ∀ entry ∈ result.entries, ∀ (position : Nat) (column : CompiledOutput),
    table.outputs[position]? = some column →
      ∃ output, entry.values[position]? = some output ∧ entry.get? column.name = some output.value
  /-- The map of an entry keeps every value, in order. -/
  lossless : ∀ entry ∈ result.entries,
    entry.toMap = entry.values.map fun output => (output.name, output.value)
  /-- Collecting a column gives one value for each entry, the one at the position of the column. -/
  collected : ∀ (position : Nat) (column : CompiledOutput),
    table.outputs[position]? = some column →
      (result.collect column.name).map some =
        result.entries.map fun entry => entry.values[position]?.map OutputValue.value
  /-- There is at most one entry where the policy asks for one and where values are aggregated. -/
  single : table.hitPolicy.isSingle = true ∨ table.aggregation.isSome → result.entries.length ≤ 1
  /-- Otherwise there is at most one entry for each rule. -/
  several : table.aggregation = none → result.entries.length ≤ table.rules.length

theorem names_of_signature {entry : OutputEntry} (fits : entry.signature = table.signature) :
    entry.names = table.outputs.map CompiledOutput.name := by
  rw [OutputEntry.names_eq_signature, fits, signature, List.map_map]
  rfl

/-- The value of an entry at the position of a column has the name of the column. -/
theorem output_of_signature {entry : OutputEntry} (fits : entry.signature = table.signature)
    {position : Nat} {column : CompiledOutput} (placed : table.outputs[position]? = some column) :
    ∃ output, entry.values[position]? = some output ∧ output.name = column.name := by
  have named : entry.names[position]? = some column.name := by
    rw [names_of_signature fits, List.getElem?_map, placed, Option.map_some]
  rw [OutputEntry.names, List.getElem?_map, Option.map_eq_some_iff] at named
  exact named

theorem get?_of_signature (regular : table.Regular) {entry : OutputEntry}
    (fits : entry.signature = table.signature) {position : Nat} {column : CompiledOutput}
    (placed : table.outputs[position]? = some column) :
    ∃ output, entry.values[position]? = some output ∧
      entry.get? column.name = some output.value := by
  have distinct : entry.names.Nodup := names_of_signature fits ▸ regular.names
  obtain ⟨output, found, same⟩ := output_of_signature fits placed
  refine ⟨output, found, ?_⟩
  rw [← same, OutputEntry.get?_of_distinct distinct (List.mem_of_getElem? found)]

theorem collect_of_signature (regular : table.Regular) {entries : List OutputEntry}
    (fits : ∀ entry ∈ entries, entry.signature = table.signature) {position : Nat}
    {column : CompiledOutput} (placed : table.outputs[position]? = some column) :
    ((ResultSet.mk entries).collect column.name).map some =
      entries.map fun entry => entry.values[position]?.map OutputValue.value := by
  induction entries with
  | nil => rfl
  | cons entry rest ih =>
      obtain ⟨output, found, named⟩ := get?_of_signature regular (fits entry List.mem_cons_self)
        placed
      have others := ih fun other member => fits other (List.mem_cons_of_mem _ member)
      simp only [ResultSet.collect] at others
      simp [ResultSet.collect, named, found, others]

/-- A compiled table is regular, and so is every result of it. -/
theorem presents_of_compile {options : CompilerOptions} {definition : DecisionDefinition}
    (compiled : definition.compile options = .ok table) :
    table.Regular ∧ ∀ context result, table.evaluate context = .ok result →
      table.Presents result := by
  have regular := DecisionDefinition.compile_regular compiled
  refine ⟨regular, fun context result evaluated => ?_⟩
  obtain ⟨rules, sublist, keeps⟩ := keeps_of_evaluate regular evaluated
  have fits := keeps.signature regular fun rule member => sublist.subset member
  constructor
  case signature => exact fits
  case named =>
    intro entry member position column placed
    exact get?_of_signature regular (fits entry member) placed
  case lossless =>
    intro entry member
    exact OutputEntry.toMap_of_distinct (names_of_signature (fits entry member) ▸ regular.names)
  case collected =>
    intro position column placed
    exact collect_of_signature regular fits placed
  case single => exact keeps.length_le_one
  case several =>
    intro unaggregated
    exact Nat.le_trans (keeps.length_le unaggregated) sublist.length_le

def rates : DecisionDefinition :=
  ⟨"rates", none, .decisionTable,
    some (.decisionTable ⟨none, some "RULE ORDER", none, [⟨none, none, "1", none⟩],
      [⟨none, some "net", none, none, []⟩, ⟨none, some "gross", none, some "number", []⟩],
      [⟨none, none, ["-"], ["1", "2"]⟩, ⟨none, none, ["1"], ["3", "null"]⟩]⟩), []⟩

def ratesTable : CompiledTable where
  decisionId := "rates"
  decisionName := none
  hitPolicy := .ruleOrder
  aggregation := none
  inputs := [⟨"input0", none, ⟨"1", .literal (.integer 1)⟩, none⟩]
  outputs := [⟨"output0", "net", none, none, []⟩, ⟨"output1", "gross", none, some "number", []⟩]
  rules := [
    ⟨"rule0", 0, none, [none], [⟨"1", .literal (.integer 1)⟩, ⟨"2", .literal (.integer 2)⟩]⟩,
    ⟨"rule1", 1, none, [some ⟨"1", .oneOf [.value (.literal (.integer 1)) false]⟩],
      [⟨"3", .literal (.integer 3)⟩, ⟨"null", .literal .null⟩]⟩]
  strict := false

theorem rates_compile : rates.compile ⟨"UNIQUE", false⟩ = .ok ratesTable := by
  have recognised : HitPolicy.parse (some "RULE ORDER") none "UNIQUE" = .ok (.ruleOrder, none) :=
    HitPolicy.parse_plain "RULE ORDER" (by decide +kernel) rfl rfl
  have number : TypeRef.normalize "number" = some "number" := by decide +kernel
  refine DecisionDefinition.compile_eq_ok rfl rfl ?_ ?_ ?_ (fun uses => nomatch uses) ?_
  · exact Compile.hitPolicy_eq_ok recognised fun aggregated => nomatch aggregated
  · cbv
  · simp only [rates, Compile.outputs, Compile.outputsFrom, Option.bind_some, number]
    rfl
  · cbv

theorem rates_presents : rates.compile ⟨"UNIQUE", false⟩ = .ok ratesTable ∧
    ∃ result, ratesTable.evaluate (.ofBindings []) = .ok result ∧ ratesTable.Presents result :=
  ⟨rates_compile, _, rfl, (presents_of_compile rates_compile).2 (.ofBindings []) _ rfl⟩

end CompiledTable

end DecisionTables
