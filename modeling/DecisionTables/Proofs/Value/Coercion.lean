import DecisionTables.Proofs.Number.Exact
import DecisionTables.Proofs.Value.Conversion

/-!
# Coercion

A value is brought to a declared type once as an input, once as an output and once as a priority.
These agree, since a value that is of the type already stays as it is. What cannot be converted is
refused in strict mode and passes unchanged otherwise. The types of whole numbers and of numbers
keep every number that they can hold, and no type turns a boolean into a number or a number into a
boolean.
-/

namespace DecisionTables

/-! ## Whole numbers -/

/-- A fraction that equals an integer has it as its integer part. -/
theorem Fraction.truncate_eq {fraction : Fraction} {whole : Int}
    (equal : fraction.order (Fraction.ofInt whole) = .eq) : fraction.truncate = whole := by
  have scaled : fraction.numerator = whole * fraction.denominator := by
    simpa [order, ofInt] using compare_eq_iff_eq.mp equal
  rw [truncate, scaled]
  exact Int.mul_tdiv_cancel _ (Int.natCast_ne_zero.mpr fraction.positive.ne')

theorem signed_mul (negative : Bool) (magnitude factor : Nat) :
    signed negative (magnitude * factor) = signed negative magnitude * factor := by
  cases negative with
  | false => exact Int.natCast_mul _ _
  | true => exact (congrArg Neg.neg (Int.natCast_mul _ _)).trans (Int.neg_mul _ _).symm

theorem signed_tdiv (negative : Bool) (magnitude divisor : Nat) :
    (signed negative magnitude).tdiv divisor = signed negative (magnitude / divisor) := by
  cases negative with
  | false => exact (Int.ofNat_tdiv magnitude divisor).symm
  | true =>
      exact (Int.neg_tdiv _ _).trans (congrArg Neg.neg (Int.ofNat_tdiv magnitude divisor).symm)

namespace Number

variable {number : Number} {whole : Int}

/-- The integer part of a finite number is that of its exact value. -/
theorem truncate?_eq_some {fraction : Fraction}
    (finite : number.extended? = some (.finite fraction)) :
    number.truncate? = some fraction.truncate := by
  cases number with
  | integer value =>
      cases finite
      exact congrArg some (Int.tdiv_one value).symm
  | double value =>
      rw [extended?] at finite
      simp only [truncate?, finite]
  | decimal value =>
      cases value with
      | nan | signaling => cases finite
      | infinite negative => cases negative <;> cases finite
      | finite negative coefficient exponent =>
          cases finite
          rw [truncate?, Decimal.truncate?, Fraction.truncate, Fraction.scaled]
          split
          · rw [signed_mul, Nat.cast_one, Int.tdiv_one]
          · rw [signed_tdiv]

/-- A number has an integral form exactly if it equals an integer. -/
theorem integral?_eq_some_iff :
    number.integral? = some whole ↔ number.equal (.integer whole) = true := by
  constructor
  · intro integral
    simp only [integral?] at integral
    split at integral
    · split at integral
      · rename_i same
        cases integral
        exact same
      · cases integral
    · cases integral
  · intro same
    have order : ∃ value, number.extended? = some value ∧
        value.order (.finite (Fraction.ofInt whole)) = .eq := by
      cases given : number.extended? with
      | none => simp [equal, given] at same
      | some value =>
          simp only [equal, given] at same
          exact ⟨value, rfl, beq_iff_eq.mp same⟩
    obtain ⟨value, given, order⟩ := order
    cases value with
    | negativeInfinity | positiveInfinity => cases order
    | finite fraction =>
        have whole_eq := Fraction.truncate_eq order
        simp only [integral?, truncate?_eq_some given, whole_eq, same, if_true]

theorem equal_comm {left right : Number} : left.equal right = right.equal left := by
  rw [Bool.eq_iff_iff, equal_iff, equal_iff]
  exact exists_congr fun _ => and_comm

theorem equal_integer (whole : Int) : (integer whole).equal (integer whole) = true :=
  equal_iff.mpr ⟨_, rfl, rfl⟩

theorem integral?_integer (whole : Int) : (integer whole).integral? = some whole :=
  integral?_eq_some_iff.mpr (equal_integer whole)

end Number

/-! ## Values of a type -/

namespace Value

variable {value converted : Value} {type : ValueType} {typeRef : Option String}

/-- A value that is of a type converts to itself. -/
theorem HasType.convert? (fits : value.HasType type) : type.convert? value = some value := by
  cases fits with
  | integer | long =>
      exact congrArg (Option.map Value.integer) (Number.integral?_integer _)
  | _ => rfl

/-- A value that fits a declared type is brought to it as it is. -/
theorem convert?_of_fits (fits : value.Fits typeRef) : value.convert? typeRef = some value := by
  unfold Value.convert?
  split
  · rfl
  · rename_i type present known
    obtain null | typed := fits
    · exact absurd null present
    · exact (typed type known).convert?
  · rfl

theorem coerce_of_convert? (strict : Bool) (given : value.convert? typeRef = some converted) :
    value.coerce strict typeRef = .ok converted := by
  rw [coerce, given]

/-- A value is converted, or refused, or passes. -/
theorem coerce_eq_ok_iff {strict : Bool} : value.coerce strict typeRef = .ok converted ↔
    value.convert? typeRef = some converted ∨
      strict = false ∧ value.convert? typeRef = none ∧ converted = value := by
  rw [coerce]
  cases value.convert? typeRef with
  | some found => simp
  | none => cases strict <;> simp [eq_comm]

/-- A value is refused in strict mode exactly if it cannot be converted. -/
theorem convert?_eq_none_iff :
    value.convert? typeRef = none ↔ ∃ refusal, value.coerce true typeRef = .error refusal := by
  rw [coerce]
  cases value.convert? typeRef <;> simp

theorem convert?_known (known : typeRef.bind ValueType.ofName? = some type) (value : Value)
    (present : value ≠ .null) : value.convert? typeRef = type.convert? value := by
  rw [Value.convert?.eq_def, known]
  cases value with
  | null => exact absurd rfl present
  | _ => rfl

/-! ### Numbers and booleans -/

/-- No type turns a number into a boolean. -/
theorem convert?_number_ne_boolean {number : Number} {truth : Bool} :
    type.convert? (.number number) ≠ some (.boolean truth) := by
  intro given
  cases ValueType.convert?_hasType given
  cases given

/-- No type turns a boolean into a number. -/
theorem convert?_boolean_ne_number {truth : Bool} {number : Number} :
    type.convert? (.boolean truth) ≠ some (.number number) := by
  intro given
  cases ValueType.convert?_hasType given <;> cases given

/-- The types of whole numbers and of numbers convert a number to one of the same exact value,
unless it is a decimal number that equals no integer. -/
theorem kept_of_convert? {number : Number}
    (among : type ∈ [ValueType.integer, .long, .number])
    (decimal : number.isDecimal = true → ∃ whole, number.equal (.integer whole) = true)
    (given : type.convert? (.number number) = some converted) :
    ∃ same, converted = .number same ∧ (same = number ∨ same.equal number = true) := by
  have integral {whole : Int} (found : number.integral? = some whole) :
      ∃ same, Value.integer whole = .number same ∧ (same = number ∨ same.equal number = true) :=
    ⟨_, rfl, .inr (Number.equal_comm.trans (Number.integral?_eq_some_iff.mp found))⟩
  have toInteger (given : Conversion.toInteger? (.number number) = some converted) :
      ∃ same, converted = .number same ∧ (same = number ∨ same.equal number = true) := by
    obtain ⟨whole, found, rfl⟩ := Option.map_eq_some_iff.mp given
    exact integral found
  simp only [List.mem_cons, List.not_mem_nil, or_false] at among
  obtain rfl | rfl | rfl := among
  · exact toInteger given
  · exact toInteger given
  · cases number with
    | integer | double =>
        cases given
        exact ⟨_, rfl, .inl rfl⟩
    | decimal value =>
        obtain ⟨whole, same⟩ := decimal rfl
        have found := Number.integral?_eq_some_iff.mpr same
        cases value with
        | nan | signaling | infinite => cases given
        | finite =>
            simp only [ValueType.convert?, Conversion.toNumber?, found, Option.some.injEq] at given
            subst given
            exact integral found

/-- They convert every number that equals an integer. -/
theorem convert?_whole {number : Number} {whole : Int}
    (among : type ∈ [ValueType.integer, .long, .number])
    (same : number.equal (.integer whole) = true) :
    ∃ converted, type.convert? (.number number) = some converted := by
  have found := Number.integral?_eq_some_iff.mpr same
  have toInteger : Conversion.toInteger? (.number number) = some (.integer whole) :=
    congrArg (Option.map Value.integer) found
  simp only [List.mem_cons, List.not_mem_nil, or_false] at among
  obtain rfl | rfl | rfl := among
  · exact ⟨_, toInteger⟩
  · exact ⟨_, toInteger⟩
  · cases number with
    | integer | double => exact ⟨_, rfl⟩
    | decimal value =>
        cases value with
        | nan | signaling | infinite => cases found
        | finite =>
            simp only [ValueType.convert?, Conversion.toNumber?, found]
            exact ⟨_, rfl⟩

/-! ### The laws -/

/-- What holds of a value that is brought to a declared type. -/
structure CoercionLaws (typeRef : Option String) (value : Value) : Prop where
  /-- Where the strict mode converts, the lenient mode does the same. -/
  lenient_of_strict : ∀ converted, value.coerce true typeRef = .ok converted →
    value.coerce false typeRef = .ok converted
  /-- What is converted stays as it is when it is brought to the type again. -/
  settled : ∀ converted, value.coerce true typeRef = .ok converted →
    ∀ strict, converted.coerce strict typeRef = .ok converted
  /-- Where the strict mode refuses, the value passes the lenient mode, and does so again. -/
  passes : ∀ refusal, value.coerce true typeRef = .error refusal →
    value.coerce false typeRef = .ok value ∧
      (value.coerce false typeRef >>= coerce false typeRef) = .ok value
  /-- Null stays null. -/
  null_kept : value = .null → ∀ strict, value.coerce strict typeRef = .ok .null
  /-- An integer, a double or a decimal number that equals an integer keeps its exact value under
  the types of whole numbers and of numbers. -/
  number_kept : typeRef ∈ [some "integer", some "long", some "number"] →
    ∀ number, value = .number number →
      (number.isDecimal = true → ∃ whole, number.equal (.integer whole) = true) →
      ∀ strict converted, value.coerce strict typeRef = .ok converted →
        ∃ same, converted = .number same ∧ (same = number ∨ same.equal number = true)
  /-- A number that equals an integer is not refused by these types. -/
  whole_accepted : typeRef ∈ [some "integer", some "long", some "number"] →
    ∀ number, value = .number number →
      (∃ whole, number.equal (.integer whole) = true) →
      ∃ converted, value.coerce true typeRef = .ok converted
  /-- A boolean does not become a number. -/
  boolean_no_number : ∀ truth, value = .boolean truth →
    ∀ strict number, value.coerce strict typeRef ≠ .ok (.number number)
  /-- A number does not become a boolean. -/
  number_no_boolean : ∀ number, value = .number number →
    ∀ strict truth, value.coerce strict typeRef ≠ .ok (.boolean truth)

/-- The types of whole numbers and of numbers by their names. -/
theorem exists_known_number
    (named : typeRef ∈ [some "integer", some "long", some "number"]) :
    ∃ type ∈ [ValueType.integer, .long, .number], typeRef.bind ValueType.ofName? = some type := by
  simp only [List.mem_cons, List.not_mem_nil, or_false] at named
  obtain rfl | rfl | rfl := named
  · exact ⟨.integer, by decide, rfl⟩
  · exact ⟨.long, by decide, rfl⟩
  · exact ⟨.number, by decide, rfl⟩

theorem convert?_eq_some_of_strict (given : value.coerce true typeRef = .ok converted) :
    value.convert? typeRef = some converted := by
  obtain found | ⟨lenient, _⟩ := coerce_eq_ok_iff.mp given
  · exact found
  · cases lenient

/-- A value that coercion changes is what some type converts it to. -/
theorem exists_type_of_coerce {strict : Bool} (given : value.coerce strict typeRef = .ok converted)
    (changed : converted ≠ value) : ∃ type : ValueType, type.convert? value = some converted := by
  obtain found | ⟨_, _, same⟩ := coerce_eq_ok_iff.mp given
  · rw [Value.convert?.eq_def] at found
    split at found
    · exact absurd (Option.some.inj found).symm changed
    · exact ⟨_, found⟩
    · exact absurd (Option.some.inj found).symm changed
  · exact absurd same changed

theorem coercionLaws (typeRef : Option String) (value : Value) : CoercionLaws typeRef value := by
  constructor
  · intro converted given
    exact coerce_of_convert? false (convert?_eq_some_of_strict given)
  · intro converted given strict
    exact coerce_of_convert? strict (convert?_of_fits (fits_of_coerce given))
  · intro refusal refused
    have none := convert?_eq_none_iff.mpr ⟨refusal, refused⟩
    have passes : value.coerce false typeRef = .ok value :=
      coerce_eq_ok_iff.mpr (.inr ⟨rfl, none, rfl⟩)
    refine ⟨passes, ?_⟩
    rw [passes]
    exact passes
  · intro null strict
    subst null
    exact coerce_of_convert? strict rfl
  · intro named number is_number decimal strict converted given
    subst is_number
    obtain ⟨type, among, known⟩ := exists_known_number named
    obtain found | ⟨_, _, rfl⟩ := coerce_eq_ok_iff.mp given
    · exact kept_of_convert? among decimal (convert?_known known (.number number) nofun ▸ found)
    · exact ⟨number, rfl, .inl rfl⟩
  · intro named number is_number whole
    subst is_number
    obtain ⟨type, among, known⟩ := exists_known_number named
    obtain ⟨whole, same⟩ := whole
    obtain ⟨converted, found⟩ := convert?_whole among same
    have converts := (convert?_known known (.number number) nofun).trans found
    exact ⟨converted, coerce_of_convert? true converts⟩
  · intro truth is_boolean strict number given
    subst is_boolean
    obtain ⟨type, found⟩ := exists_type_of_coerce given nofun
    exact convert?_boolean_ne_number found
  · intro number is_number strict truth given
    subst is_number
    obtain ⟨type, found⟩ := exists_type_of_coerce given nofun
    exact convert?_number_ne_boolean found

end Value

end DecisionTables
