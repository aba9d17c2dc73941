import DecisionTables.Proofs.Table.Acceptance
import DecisionTables.Proofs.Table.Matching
import DecisionTables.Proofs.Text.LowerCase
import DecisionTables.Proofs.Value.Coercion

/-!
# Names of types

The declared type of a column is normalised: blanks around its name, a namespace in front of it and
capital letters do not count. What is left is a normal name, and if it is that of a known type, the
values of the column are brought to that type wherever they come from. The blanks are taken away
before the namespace is, so that those behind a namespace stay; a name with such blanks has no
normal form, and its column converts nothing.
-/

namespace DecisionTables

namespace TypeRef

open Text (trimmed lowerFrom isBlank)

/-! ## Behind the last colon -/

section Colon

variable {front rest characters : List Char}

theorem afterLastColon_eq_rtakeWhile :
    afterLastColon characters = characters.rtakeWhile (· != ':') := rfl

theorem colon_notMem_afterLastColon : ':' ∉ afterLastColon characters := fun member =>
  absurd (List.mem_rtakeWhile_imp member) (by simp)

theorem afterLastColon_of_notMem (plain : ':' ∉ characters) :
    afterLastColon characters = characters := by
  rw [afterLastColon_eq_rtakeWhile, List.rtakeWhile_eq_self_iff]
  intro character member
  exact bne_iff_ne.mpr fun colon => plain (colon ▸ member)

theorem afterLastColon_split (front : List Char) (plain : ':' ∉ rest) :
    afterLastColon (front ++ ':' :: rest) = rest := by
  have kept : ∀ character ∈ rest.reverse, (character != ':') = true := fun character member =>
    bne_iff_ne.mpr fun colon => plain (colon ▸ List.mem_reverse.mp member)
  rw [afterLastColon, List.reverse_append, List.reverse_cons, List.append_assoc,
    List.takeWhile_append_of_pos kept]
  simp

/-- Characters with a colon have a last one. -/
theorem exists_lastColon (colon : ':' ∈ characters) :
    ∃ front, characters = front ++ ':' :: afterLastColon characters := by
  have some : characters.rdropWhile (· != ':') ≠ [] := by
    rw [Ne, List.rdropWhile_eq_nil_iff]
    exact fun plain => absurd (plain ':' colon) (by simp)
  have last : (characters.rdropWhile (· != ':')).getLast some = ':' := by
    simpa using List.rdropWhile_last_not _ _ some
  refine ⟨(characters.rdropWhile (· != ':')).dropLast, ?_⟩
  calc characters
      = characters.rdropWhile (· != ':') ++ afterLastColon characters :=
        List.rdropWhile_append_rtakeWhile.symm
    _ = _ := by
        rw [← List.dropLast_append_getLast some, last]
        simp

end Colon

/-! ## What is left of a name -/

variable {name normal : String}

/-- The characters of a name that become its normal form: those behind the last colon, once the
blanks at its ends are gone. -/
def remaining (name : String) : List Char :=
  afterLastColon (trimmed name.toList)

/-- Whether there are blanks between the last colon of a name and what follows it. -/
def SpacedName (name : String) : Prop :=
  ∃ front blank rest, name.toList = front ++ ':' :: blank :: rest ∧ isBlank blank = true ∧
    ':' ∉ rest ∧ ∃ character ∈ rest, isBlank character = false

/-- What stands behind the last colon of a name, without blanks around it and in lower case. -/
def bareName (name : String) : String :=
  Text.lower (Text.trim (String.ofList (afterLastColon name.toList)))

theorem colon_notMem_of_blank {blanks : List Char}
    (blank : ∀ character ∈ blanks, isBlank character = true) : ':' ∉ blanks := fun member =>
  absurd (blank ':' member) (by decide)

/-- What is left of a name without a colon is the trimmed name; otherwise it is what stands behind
the last colon but for the blanks at the end. -/
theorem remaining_cases (name : String) :
    ':' ∉ name.toList ∧ remaining name = trimmed name.toList ∨
      ∃ front back, name.toList = front ++ ':' :: (remaining name ++ back) ∧
        ':' ∉ remaining name ++ back ∧ (∀ character ∈ back, isBlank character = true) ∧
        ∀ last ∈ (remaining name).getLast?, isBlank last = false := by
  obtain ⟨clean, front, back, whole, begun, ended⟩ :=
    Text.trimmed_eq_iff.mp (Eq.refl (trimmed name.toList))
  by_cases colon : ':' ∈ trimmed name.toList
  · obtain ⟨before, split⟩ := exists_lastColon colon
    change trimmed name.toList = before ++ ':' :: remaining name at split
    refine .inr ⟨front ++ before, back, ?_, ?_, ended, ?_⟩
    · calc name.toList
          = front ++ ((before ++ ':' :: remaining name) ++ back) := by rw [← split]; exact whole
        _ = _ := by simp
    · rw [List.mem_append, not_or]
      exact ⟨colon_notMem_afterLastColon, colon_notMem_of_blank ended⟩
    · intro last among
      obtain ⟨others, form⟩ := List.getLast?_eq_some_iff.mp among
      refine (Text.trimmed_eq_self_iff.mp clean).2 last ?_
      rw [split, form, Option.mem_def, List.getLast?_eq_some_iff]
      exact ⟨before ++ ':' :: others, by simp⟩
  · refine .inl ⟨?_, afterLastColon_of_notMem colon⟩
    rw [whole, List.mem_append, List.mem_append, not_or, not_or]
    exact ⟨colon_notMem_of_blank begun, colon, colon_notMem_of_blank ended⟩

/-- Whether blanks are taken away before the namespace is makes no difference but for blanks. -/
theorem trimmed_remaining (name : String) :
    trimmed (remaining name) = trimmed (afterLastColon name.toList) := by
  rcases remaining_cases name with ⟨plain, same⟩ | ⟨front, back, split, plain, ended, _⟩
  · rw [same, Text.trimmed_trimmed, afterLastColon_of_notMem plain]
  · rw [split, afterLastColon_split front plain, Text.trimmed_append_blanks ended]

/-- What is left of a name has blanks at its ends exactly if the name is spaced. -/
theorem spacedName_iff : SpacedName name ↔ trimmed (remaining name) ≠ remaining name := by
  constructor
  · rintro ⟨front, blank, rest, whole, skipped, plain, character, member, solid⟩ clean
    have separate : ':' ∉ blank :: rest := by
      rw [List.mem_cons, not_or]
      refine ⟨?_, plain⟩
      rintro rfl
      exact absurd skipped (by decide)
    rcases remaining_cases name with ⟨colonless, _⟩ | ⟨_, back, split, apart, ended, _⟩
    · exact colonless (whole ▸ List.mem_append_right _ List.mem_cons_self)
    · have behind : remaining name ++ back = blank :: rest := by
        rw [← afterLastColon_split _ apart, ← split, whole, afterLastColon_split _ separate]
      cases left : remaining name with
      | nil =>
          rw [left, List.nil_append] at behind
          have blank := ended character (behind ▸ List.mem_cons_of_mem _ member)
          exact nomatch blank.symm.trans solid
      | cons first others =>
          rw [left] at behind clean
          obtain ⟨rfl, _⟩ := List.cons.inj behind
          exact nomatch skipped.symm.trans ((Text.trimmed_eq_self_iff.mp clean).1 first rfl)
  · intro spaced
    rcases remaining_cases name with ⟨_, same⟩ | ⟨front, back, split, plain, ended, solid⟩
    · exact absurd (same ▸ Text.trimmed_trimmed name.toList) spaced
    · cases left : remaining name with
      | nil => exact absurd rfl (left ▸ spaced)
      | cons blank rest =>
          rw [left] at split plain solid spaced
          have skipped : isBlank blank = true := by
            by_contra other
            refine spaced (Text.trimmed_eq_self_iff.mpr ⟨?_, solid⟩)
            rintro _ ⟨⟩
            exact eq_false_of_ne_true other
          refine ⟨front, blank, rest ++ back, split, skipped, ?_, ?_⟩
          · exact fun member => plain (List.mem_cons_of_mem _ member)
          · obtain ⟨last, ends⟩ : ∃ last, last ∈ (blank :: rest).getLast? :=
              ⟨_, List.getLast?_eq_some_getLast (List.cons_ne_nil _ _)⟩
            have visible := solid last ends
            rcases List.mem_cons.mp (List.mem_of_getLast? ends) with rfl | member
            · exact nomatch skipped.symm.trans visible
            · exact ⟨last, List.mem_append_left _ member, visible⟩

/-! ## Normal forms -/

theorem normalize_eq_some_iff :
    normalize name = some normal ↔
      remaining name ≠ [] ∧ String.ofList (lowerFrom [] (remaining name)) = normal := by
  have whole : Text.lower (String.ofList (remaining name)) =
      String.ofList (lowerFrom [] (remaining name)) := by
    rw [Text.lower, String.toList_ofList]
  change (if (Text.lower (String.ofList (remaining name))).isEmpty then none
    else some (Text.lower (String.ofList (remaining name)))) = some normal ↔ _
  rw [whole, Option.ite_none_left_eq_some, Option.some.injEq, Bool.not_eq_true,
    ← Bool.not_eq_true, String.isEmpty_iff, ← String.toList_eq_nil_iff, String.toList_ofList,
    Text.lowerFrom_eq_nil_iff]

/-- A value that is brought to a type: it is converted, or in lenient mode it may pass. -/
inductive BroughtTo (type : ValueType) (strict : Bool) : Value → Value → Prop
  | null : BroughtTo type strict .null .null
  | converted {value converted : Value} : value ≠ .null → type.convert? value = some converted →
      BroughtTo type strict value converted
  | unconverted {value : Value} : value ≠ .null → type.convert? value = none → strict = false →
      BroughtTo type strict value value

/-- Whether the columns of a table that are declared with a name bring their values to a type. -/
structure BringsTo (name : String) (type : ValueType) (logic : TableLogic) (table : CompiledTable) :
    Prop where
  /-- The subjects of an input column. -/
  subjects : List.Forall₂ (fun clause column => clause.typeRef = some name →
    ∀ context subject, table.subject context column = .ok subject ↔
      ∃ value, column.expression.evaluate context = .ok value ∧
        BroughtTo type table.strict value subject) logic.inputs table.inputs
  /-- The allowed values of an output column, which are known once the table is compiled. -/
  priorities : List.Forall₂ (fun clause column => clause.typeRef = some name →
    List.Forall₂ (fun text priority => ∃ expression value,
      CompiledExpression.compile text = .ok expression ∧
      expression.evaluate (.ofBindings []) = .ok value ∧
        BroughtTo type table.strict value priority) clause.outputValues column.priorities)
    logic.outputs table.outputs
  /-- The outputs of an output column. -/
  outputs : List.Forall₂ (fun clause column => clause.typeRef = some name →
    ∀ ruleId context expression output,
      table.cellValue expression ruleId column.id column.typeRef context = .ok output ↔
        ∃ value, expression.evaluate context = .ok value ∧
          BroughtTo type table.strict value output) logic.outputs table.outputs

/-- Whether a name has a normal form on which the type of its column can rely. -/
structure Normalises (name : String) : Prop where
  /-- The normal form has neither blanks around it nor a colon. -/
  clean : ∀ normal, normalize name = some normal → Text.Trimmed normal ∧ ':' ∉ normal.toList
  /-- It is its own normal form. -/
  idempotent : (normalize name).bind normalize = normalize name
  /-- If the bare name is that of a type, it is the normal form. -/
  complete : ∀ type, ValueType.ofName? (bareName name) = some type →
    normalize name = some (bareName name)
  /-- Columns that are declared with the name then bring their values to the type. -/
  brings : ∀ type, ValueType.ofName? (bareName name) = some type →
    ∀ options (definition : DecisionDefinition) table, definition.compile options = .ok table →
      ∃ logic, definition.logic = some (.decisionTable logic) ∧ BringsTo name type logic table

section Conversion

variable {type : ValueType} {strict : Bool} {typeRef : Option String} {value result : Value}

theorem coerce_eq_ok_iff_broughtTo (named : typeRef.bind ValueType.ofName? = some type) :
    value.coerce strict typeRef = .ok result ↔ BroughtTo type strict value result := by
  rw [Value.coerce_eq_ok_iff]
  by_cases present : value = .null
  · subst present
    have kept : Value.null.convert? typeRef = some .null := rfl
    rw [kept]
    constructor
    · rintro (same | ⟨_, none, _⟩)
      · cases same
        exact .null
      · cases none
    · intro brought
      cases brought with
      | null => exact .inl rfl
      | converted present => exact absurd rfl present
      | unconverted present => exact absurd rfl present
  · rw [Value.convert?_known named value present]
    constructor
    · rintro (converted | ⟨lenient, none, rfl⟩)
      · exact .converted present converted
      · exact .unconverted present none lenient
    · intro brought
      cases brought with
      | null => exact absurd rfl present
      | converted _ converted => exact .inl converted
      | unconverted _ none lenient => exact .inr ⟨lenient, none, rfl⟩

theorem allowedValue_iff_broughtTo (named : typeRef.bind ValueType.ofName? = some type)
    {text : String} :
    AllowedValue strict typeRef text result ↔ ∃ expression value,
      CompiledExpression.compile text = .ok expression ∧
      expression.evaluate (.ofBindings []) = .ok value ∧
        BroughtTo type strict value result := by
  simp only [← coerce_eq_ok_iff_broughtTo named, Value.coerce_eq_ok_iff]
  constructor
  · intro allowed
    cases allowed with
    | converted read evaluated converted => exact ⟨_, _, read, evaluated, .inl converted⟩
    | unconverted read evaluated none lenient =>
        exact ⟨_, _, read, evaluated, .inr ⟨lenient, none, rfl⟩⟩
  · rintro ⟨expression, value, read, evaluated, converted | ⟨lenient, none, rfl⟩⟩
    · exact .converted read evaluated converted
    · exact .unconverted read evaluated none lenient

theorem cellValue_eq_ok_iff_broughtTo {table : CompiledTable} {expression : CompiledExpression}
    {ruleId : Option String} {columnId : String} {context : Context}
    (named : typeRef.bind ValueType.ofName? = some type) :
    table.cellValue expression ruleId columnId typeRef context = .ok result ↔
      ∃ value, expression.evaluate context = .ok value ∧
        BroughtTo type table.strict value result := by
  simp only [CompiledTable.cellValue_eq_ok_iff, CompiledExpression.evaluate_eq_ok_iff,
    coerce_eq_ok_iff_broughtTo named]

end Conversion

/-- A column whose declared name normalises to that of a type brings its values to the type. -/
theorem bringsTo_of_compile {type : ValueType} {known : String}
    (normal : normalize name = some known) (named : ValueType.ofName? known = some type)
    {options : CompilerOptions} {definition : DecisionDefinition} {table : CompiledTable}
    (compiled : definition.compile options = .ok table) :
    ∃ logic, definition.logic = some (.decisionTable logic) ∧ BringsTo name type logic table := by
  obtain ⟨logic, compiles⟩ := DecisionDefinition.compilesTo_of_compile compiled
  have typed {declared : Option String} (same : declared = some name) :
      (declared.bind normalize).bind ValueType.ofName? = some type := by
    rw [same, Option.bind_some, normal, Option.bind_some, named]
  refine ⟨logic, compiles.payload, ?_, ?_, ?_⟩
  · rw [← List.zipIdx_map_fst 0 logic.inputs, List.forall₂_map_left_iff]
    refine compiles.inputs.imp fun item column becomes declared _ _ => ?_
    exact cellValue_eq_ok_iff_broughtTo (becomes.typeRef ▸ typed declared)
  · rw [← List.zipIdx_map_fst 0 logic.outputs, List.forall₂_map_left_iff]
    refine compiles.outputs.imp fun item column becomes declared => ?_
    rw [compiles.strict]
    exact becomes.priorities.imp fun text value =>
      (allowedValue_iff_broughtTo (typed declared)).mp
  · rw [← List.zipIdx_map_fst 0 logic.outputs, List.forall₂_map_left_iff]
    refine compiles.outputs.imp fun item column becomes declared _ _ _ _ => ?_
    exact cellValue_eq_ok_iff_broughtTo (becomes.typeRef ▸ typed declared)

/-! ## Names that are not spaced -/

theorem trimmed_ofList_iff {characters : List Char} :
    Text.Trimmed (String.ofList characters) ↔ trimmed characters = characters := by
  rw [Text.Trimmed, Text.trim, String.toList_ofList, String.ofList_inj]

theorem bareName_eq (name : String) :
    bareName name = String.ofList (lowerFrom [] (trimmed (remaining name))) := by
  rw [bareName, Text.lower, Text.trim, String.toList_ofList, String.toList_ofList,
    trimmed_remaining]

/-- The normal form has blanks around it exactly if the name is spaced. -/
theorem trimmed_normalize_iff (normalized : normalize name = some normal) :
    Text.Trimmed normal ↔ ¬SpacedName name := by
  obtain ⟨_, rfl⟩ := normalize_eq_some_iff.mp normalized
  rw [trimmed_ofList_iff, Text.trimmed_lowerFrom_iff, spacedName_iff, not_not]

theorem colon_notMem_normalize (normalized : normalize name = some normal) :
    ':' ∉ normal.toList := by
  obtain ⟨_, rfl⟩ := normalize_eq_some_iff.mp normalized
  rw [String.toList_ofList]
  exact Text.colon_notMem_lowerFrom colon_notMem_afterLastColon

/-- A trimmed normal form is its own normal form. -/
theorem normalize_normal (normalized : normalize name = some normal)
    (clean : Text.Trimmed normal) : normalize normal = some normal := by
  have plain := colon_notMem_normalize normalized
  obtain ⟨some, rfl⟩ := normalize_eq_some_iff.mp normalized
  rw [String.toList_ofList] at plain
  have kept : remaining (String.ofList (lowerFrom [] (remaining name))) =
      lowerFrom [] (remaining name) := by
    rw [remaining, String.toList_ofList, trimmed_ofList_iff.mp clean,
      afterLastColon_of_notMem plain]
  rw [normalize_eq_some_iff, kept, Text.lowerFrom_lowerFrom]
  exact ⟨mt Text.lowerFrom_eq_nil_iff.mp some, rfl⟩

/-- The names of types have no blanks around them. -/
theorem trimmed_of_known {known : String} {type : ValueType}
    (named : ValueType.ofName? known = some type) : Text.Trimmed known ∧ known ≠ "" := by
  unfold ValueType.ofName? at named
  split at named
  case h_8 => cases named
  all_goals decide

theorem normalize_of_bareName (solid : ¬SpacedName name) (some : bareName name ≠ "") :
    normalize name = Option.some (bareName name) := by
  rw [spacedName_iff, not_not] at solid
  rw [bareName_eq, solid] at some ⊢
  refine normalize_eq_some_iff.mpr ⟨?_, rfl⟩
  intro nothing
  exact some (congrArg String.ofList (Text.lowerFrom_eq_nil_iff.mpr nothing))

theorem normalises_of_solid (solid : ¬SpacedName name) : Normalises name := by
  have complete : ∀ type, ValueType.ofName? (bareName name) = some type →
      normalize name = some (bareName name) := fun type named =>
    normalize_of_bareName solid (trimmed_of_known named).2
  constructor
  · intro normal normalized
    exact ⟨(trimmed_normalize_iff normalized).mpr solid, colon_notMem_normalize normalized⟩
  · cases normalized : normalize name with
    | none => rw [Option.bind_none]
    | some normal =>
        rw [Option.bind_some]
        exact normalize_normal normalized ((trimmed_normalize_iff normalized).mpr solid)
  · exact complete
  · intro type named options definition table compiled
    exact bringsTo_of_compile (complete type named) named compiled

/-- The normal form of a spaced name is not the name of a type. -/
theorem exists_normalize_of_spaced (spaced : SpacedName name) :
    ∃ normal, normalize name = some normal ∧ ¬Text.Trimmed normal ∧
      ValueType.ofName? normal = none := by
  have some : remaining name ≠ [] := by
    intro nothing
    exact spacedName_iff.mp spaced (by rw [nothing]; rfl)
  have normalized := normalize_eq_some_iff.mpr ⟨some, rfl⟩
  have blanks : ¬Text.Trimmed (String.ofList (lowerFrom [] (remaining name))) := fun clean =>
    (trimmed_normalize_iff normalized).mp clean spaced
  refine ⟨_, normalized, blanks, ?_⟩
  rw [Option.eq_none_iff_forall_ne_some]
  intro type named
  exact blanks (trimmed_of_known named).1

/-- Names are normalised as they should be unless they are spaced. A spaced name is left with blanks
around it, and a column that is declared with it converts nothing. -/
theorem normalises_iff (name : String) :
    (Normalises name ↔ ¬SpacedName name) ∧
      (SpacedName name → ∀ value : Value, value.convert? (normalize name) = some value) := by
  refine ⟨⟨?_, normalises_of_solid⟩, ?_⟩
  · intro normalises spaced
    obtain ⟨normal, normalized, blanks, _⟩ := exists_normalize_of_spaced spaced
    exact blanks (normalises.clean normal normalized).1
  · intro spaced value
    obtain ⟨normal, normalized, _, unknown⟩ := exists_normalize_of_spaced spaced
    rw [normalized, Value.convert?.eq_def, Option.bind_some, unknown]
    cases value <;> rfl

/-- A blank behind the namespace of a known name. -/
theorem spacedString_not_normalises :
    SpacedName "feel: string" ∧ bareName "feel: string" = "string" ∧
      ¬Normalises "feel: string" ∧ (Value.integer 5).convert? (normalize "feel: string") =
        some (Value.integer 5) := by
  have spaced : SpacedName "feel: string" :=
    ⟨['f', 'e', 'e', 'l'], ' ', ['s', 't', 'r', 'i', 'n', 'g'], rfl, by decide, by decide,
      's', by decide, by decide⟩
  have told : bareName "feel: string" = "string" := by decide +kernel
  obtain ⟨normalises_iff_solid, passes⟩ := normalises_iff "feel: string"
  exact ⟨spaced, told, fun normalises => normalises_iff_solid.mp normalises spaced,
    passes spaced (Value.integer 5)⟩

end TypeRef

end DecisionTables
