import DecisionTables.TypeRef

/-!
# What values convert to

Every conversion gives a value of the type it is named for, whatever it is given. A value that is
brought strictly to a declared type is therefore null or of that type, if the type is known.
-/

namespace DecisionTables

namespace Value

/-- Whether a value is of a type. A boolean is no number, and a moment is no day. -/
inductive HasType : Value → ValueType → Prop
  | text {value : String} : HasType (.text value) .string
  | integer {value : Int} : HasType (.number (.integer value)) .integer
  | long {value : Int} : HasType (.number (.integer value)) .long
  | double {value : Binary64} : HasType (.number (.double value)) .double
  | whole {value : Int} : HasType (.number (.integer value)) .number
  | real {value : Binary64} : HasType (.number (.double value)) .number
  | boolean {value : Bool} : HasType (.boolean value) .boolean
  | date {value : Date} : HasType (.date value) .date

/-- Whether a value fits a declared type: it is null, or of that type if its name is known. -/
def Fits (value : Value) (typeRef : Option String) : Prop :=
  value = .null ∨ ∀ type, typeRef.bind ValueType.ofName? = some type → value.HasType type

end Value

/-! ## Conversions -/

namespace Conversion

variable {value converted : Value}

theorem toInteger?_eq_some (given : toInteger? value = some converted) :
    ∃ whole : Int, converted = .number (.integer whole) := by
  cases value with
  | number number =>
      obtain ⟨whole, _, rfl⟩ := Option.map_eq_some_iff.mp given
      exact ⟨whole, rfl⟩
  | text text =>
      obtain ⟨whole, _, rfl⟩ := Option.map_eq_some_iff.mp given
      exact ⟨whole, rfl⟩
  | _ => cases given

theorem toDouble?_eq_some (given : toDouble? value = some converted) :
    ∃ double : Binary64, converted = .number (.double double) := by
  cases value with
  | number number =>
      simp only [toDouble?] at given
      split at given
      · cases given
        exact ⟨_, rfl⟩
      · cases given
  | text text =>
      obtain ⟨double, _, rfl⟩ := Option.map_eq_some_iff.mp given
      exact ⟨double, rfl⟩
  | _ => cases given

theorem toNumber?_hasType (given : toNumber? value = some converted) :
    converted.HasType .number := by
  cases value with
  | number number =>
      cases number with
      | integer whole =>
          cases given
          exact .whole
      | double double =>
          cases given
          exact .real
      | decimal decimal =>
          cases decimal with
          | finite negative coefficient exponent =>
              simp only [toNumber?] at given
              split at given
              · cases given
                exact .whole
              · cases given
                exact .real
          | _ => cases given
  | text text =>
      simp only [toNumber?] at given
      split at given
      · cases given
        exact .whole
      · obtain ⟨double, _, rfl⟩ := Option.map_eq_some_iff.mp given
        exact .real
  | _ => cases given

theorem toBoolean?_eq_some (given : toBoolean? value = some converted) :
    ∃ truth, converted = .boolean truth := by
  cases value with
  | boolean truth => exact ⟨truth, (Option.some.inj given).symm⟩
  | text text =>
      simp only [toBoolean?] at given
      split at given
      · exact ⟨true, (Option.some.inj given).symm⟩
      · split at given
        · exact ⟨false, (Option.some.inj given).symm⟩
        · cases given
  | _ => cases given

theorem toDate?_eq_some (given : toDate? value = some converted) :
    ∃ date, converted = .date date := by
  cases value with
  | date date => exact ⟨date, (Option.some.inj given).symm⟩
  | moment moment => exact ⟨moment.date, (Option.some.inj given).symm⟩
  | text text =>
      obtain ⟨date, _, rfl⟩ := Option.map_eq_some_iff.mp given
      exact ⟨date, rfl⟩
  | _ => cases given

theorem toText?_eq_some (given : toText? value = some converted) :
    ∃ text, converted = .text text := by
  rw [toText?.eq_def] at given
  split at given
  · exact ⟨_, (Option.some.inj given).symm⟩
  · split at given
    · exact ⟨_, (Option.some.inj given).symm⟩
    · cases given

end Conversion

/-- What a value converts to under a type is of that type. -/
theorem ValueType.convert?_hasType {type : ValueType} {value converted : Value}
    (given : type.convert? value = some converted) : converted.HasType type := by
  cases type with
  | string =>
      obtain ⟨text, rfl⟩ := Conversion.toText?_eq_some given
      exact .text
  | integer =>
      obtain ⟨whole, rfl⟩ := Conversion.toInteger?_eq_some given
      exact .integer
  | long =>
      obtain ⟨whole, rfl⟩ := Conversion.toInteger?_eq_some given
      exact .long
  | double =>
      obtain ⟨double, rfl⟩ := Conversion.toDouble?_eq_some given
      exact .double
  | number => exact Conversion.toNumber?_hasType given
  | boolean =>
      obtain ⟨truth, rfl⟩ := Conversion.toBoolean?_eq_some given
      exact .boolean
  | date =>
      obtain ⟨date, rfl⟩ := Conversion.toDate?_eq_some given
      exact .date

namespace Value

variable {typeRef : Option String} {value converted : Value}

theorem fits_of_convert? (given : value.convert? typeRef = some converted) :
    converted.Fits typeRef := by
  simp only [convert?] at given
  split at given
  · cases given
    exact .inl rfl
  · rename_i type _ known
    refine .inr fun other named => ?_
    cases known.symm.trans named
    exact ValueType.convert?_hasType given
  · rename_i _ unknown
    refine .inr fun other named => ?_
    cases unknown.symm.trans named

/-- A value that is brought strictly to a declared type fits it. -/
theorem fits_of_coerce (given : value.coerce true typeRef = .ok converted) :
    converted.Fits typeRef := by
  simp only [coerce] at given
  split at given
  · rename_i found
    cases given
    exact fits_of_convert? found
  · cases given

end Value

end DecisionTables
