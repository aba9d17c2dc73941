import DecisionTables.Expression.Error
import DecisionTables.Proofs.Value.Signals

/-!
# Where operations on values break down

Each operation of the language on values, with the values for which it ends in a fault. There are
four reasons: an integer is too long to be written, an operation on numbers has no result, two values
that the language orders have no order after all, or equality cannot be told.
-/

namespace DecisionTables

namespace Value

/-! ## Writing -/

/-- Whether an integer that is too long to be written occurs in a value. -/
inductive Unwritable : Value → Prop
  | integer {value : Int} :
      10 ^ Numeral.maxDigits ≤ value.natAbs → Unwritable (.number (.integer value))
  | item {items : List Value} {value : Value} :
      value ∈ items → Unwritable value → Unwritable (.list items)
  | member {members : List (String × Value)} {name : String} {value : Value} :
      (name, value) ∈ members → Unwritable value → Unwritable (.map members)

theorem unwritable_integer_iff {value : Int} :
    Unwritable (.number (.integer value)) ↔ 10 ^ Numeral.maxDigits ≤ value.natAbs :=
  ⟨fun | .integer long => long, .integer⟩

theorem unwritable_items_iff {first : Value} {rest : List Value} :
    Unwritable (.list (first :: rest)) ↔ Unwritable first ∨ Unwritable (.list rest) := by
  constructor
  · intro shown
    rcases shown with _ | ⟨_ | ⟨_, member⟩, unwritable⟩
    · exact .inl unwritable
    · exact .inr (.item member unwritable)
  · intro shown
    rcases shown with unwritable | ⟨_ | ⟨member, unwritable⟩⟩
    · exact .item List.mem_cons_self unwritable
    · exact .item (List.mem_cons_of_mem _ member) unwritable

theorem unwritable_members_iff {name : String} {value : Value} {rest : List (String × Value)} :
    Unwritable (.map ((name, value) :: rest)) ↔ Unwritable value ∨ Unwritable (.map rest) := by
  constructor
  · intro shown
    rcases shown with _ | _ | ⟨_ | ⟨_, member⟩, unwritable⟩
    · exact .inl unwritable
    · exact .inr (.member member unwritable)
  · intro shown
    rcases shown with unwritable | _ | _ | ⟨member, unwritable⟩
    · exact .member List.mem_cons_self unwritable
    · exact .member (List.mem_cons_of_mem _ member) unwritable

theorem breaks_quoted_number_iff {number : Number} :
    Breaks number.quoted ↔ Unwritable (.number number) := by
  cases number with
  | integer value =>
      rw [unwritable_integer_iff, Number.quoted, Numeral.integerText, Numeral.isTooLong]
      simp only [Nat.pow_eq, decide_eq_true_eq]
      split
      case isTrue long => simp [long]
      case isFalse short => simp [short]
  | double | decimal =>
      refine iff_of_false not_breaks_ok ?_
      intro shown
      cases shown

mutual

theorem breaks_quoted_iff : (value : Value) → (Breaks value.quoted ↔ Unwritable value)
  | .null | .boolean _ | .text _ | .date _ | .moment _ | .object _ => by
      simp only [quoted, not_breaks_ok, false_iff]
      intro shown
      cases shown
  | .number _ => breaks_quoted_number_iff
  | .list items => by
      rw [quoted, breaks_map]
      exact breaks_quotedItems_iff items
  | .map members => by
      rw [quoted, breaks_map]
      exact breaks_quotedMembers_iff members

theorem breaks_quotedItems_iff :
    (items : List Value) → (Breaks (quotedItems items) ↔ Unwritable (.list items))
  | [] => by
      simp only [quotedItems, not_breaks_ok, false_iff]
      intro impossible
      obtain _ | ⟨⟨⟩, _⟩ := impossible
  | first :: rest => by
      rw [unwritable_items_iff, ← breaks_quoted_iff first, ← breaks_quotedItems_iff rest]
      exact breaks_both_iff

theorem breaks_quotedMembers_iff :
    (members : List (String × Value)) →
      (Breaks (quotedMembers members) ↔ Unwritable (.map members))
  | [] => by
      simp only [quotedMembers, not_breaks_ok, false_iff]
      intro impossible
      obtain _ | _ | ⟨⟨⟩, _⟩ := impossible
  | (name, value) :: rest => by
      rw [unwritable_members_iff, ← breaks_quoted_iff value, ← breaks_quotedMembers_iff rest]
      exact breaks_both_iff

end

theorem quoted_number_fault {number : Number} {fault : Fault}
    (failed : number.quoted = .error fault) : fault = .numeralTooLong := by
  cases number with
  | integer value =>
      rw [Number.quoted, Numeral.integerText] at failed
      split at failed
      · cases failed
        rfl
      · cases failed
  | double | decimal => cases failed

mutual

/-- Writing a value fails for one reason only. -/
theorem quoted_fault :
    (value : Value) → ∀ {fault : Fault}, value.quoted = .error fault → fault = .numeralTooLong
  | .null, _, failed | .boolean _, _, failed | .text _, _, failed | .date _, _, failed
  | .moment _, _, failed | .object _, _, failed => by simp [quoted] at failed
  | .number _, _, failed => by
      rw [quoted] at failed
      exact quoted_number_fault failed
  | .list items, _, failed => by
      rw [quoted, Except.map_eq_error_iff] at failed
      exact quotedItems_fault items failed
  | .map members, _, failed => by
      rw [quoted, Except.map_eq_error_iff] at failed
      exact quotedMembers_fault members failed

theorem quotedItems_fault :
    (items : List Value) → ∀ {fault : Fault}, quotedItems items = .error fault →
      fault = .numeralTooLong
  | [], _, failed => by simp [quotedItems] at failed
  | first :: rest, _, failed => by
      rcases Except.both_error failed with failed | failed
      · exact quoted_fault first failed
      · exact quotedItems_fault rest failed

theorem quotedMembers_fault :
    (members : List (String × Value)) → ∀ {fault : Fault}, quotedMembers members = .error fault →
      fault = .numeralTooLong
  | [], _, failed => by simp [quotedMembers] at failed
  | (_, value) :: rest, _, failed => by
      rcases Except.both_error failed with failed | failed
      · exact quoted_fault value failed
      · exact quotedMembers_fault rest failed

end

/-! ## Arithmetic -/

section Calculate

variable {operation : Arithmetic}

theorem breaks_calculate_of_meeting {left right leftMet rightMet : Number}
    (met : Number.meeting left right = .ok (leftMet, rightMet)) :
    Breaks (calculate operation left right) ↔
      (operation = .div → rightMet.isZero = false) ∧
        Breaks (Number.apply operation leftMet rightMet) := by
  simp only [calculate, met]
  split
  case isTrue zero => simp [zero]
  case isFalse other => simpa using fun _ => other

theorem breaks_calculate_of_breaks_meeting {left right : Number}
    (unmet : Breaks (Number.meeting left right)) : Breaks (calculate operation left right) := by
  rcases unmet with ⟨fault, failed⟩
  exact ⟨fault, by rw [calculate, failed]; rfl⟩

theorem not_breaks_apply_doubles {left right : Binary64} :
    ¬Breaks (Number.apply operation (.double left) (.double right)) := by
  simp [Number.apply]

/-- Calculating with a decimal number and a number of another kind takes both as doubles. -/
theorem breaks_calculate_mixed_iff {left right : Number}
    (mixed : (left.isDecimal == right.isDecimal) = false) :
    Breaks (calculate operation left right) ↔ left.HasNoDouble ∨ right.HasNoDouble := by
  have meeting : Number.meeting left right = left.toDouble >>= fun leftDouble =>
      right.toDouble >>= fun rightDouble => .ok (.double leftDouble, .double rightDouble) := by
    rw [Number.meeting, mixed]
    rfl
  simp only [← Number.breaks_toDouble_iff]
  cases leftMet : left.toDouble with
  | error fault =>
      refine iff_of_true (breaks_calculate_of_breaks_meeting ?_) (.inl breaks_fault)
      rw [meeting, leftMet]
      exact breaks_fault
  | ok leftDouble =>
      cases rightMet : right.toDouble with
      | error fault =>
          refine iff_of_true (breaks_calculate_of_breaks_meeting ?_) (.inr breaks_fault)
          rw [meeting, leftMet, rightMet]
          exact breaks_fault
      | ok rightDouble =>
          rw [breaks_calculate_of_meeting (by rw [meeting, leftMet, rightMet]; rfl)]
          simp [not_breaks_apply_doubles]

/-- Calculating breaks down exactly if the operation has no result. -/
theorem breaks_calculate_iff {left right : Number} :
    Breaks (calculate operation left right) ↔ Number.Undefined operation left right := by
  cases left with
  | integer left =>
      cases right with
      | integer right =>
          rw [breaks_calculate_of_meeting rfl, Number.Undefined]
          constructor
          · intro ends
            rcases ends with ⟨nonzero, broken⟩
            have divisor : operation = .div → right ≠ 0 := by simpa [Number.isZero] using nonzero
            obtain ⟨division, large⟩ := (Number.breaks_onIntegers_iff divisor).mp broken
            exact ⟨division, divisor division, large⟩
          · intro shown
            rcases shown with ⟨division, nonzero, large⟩
            exact ⟨fun _ => by simpa [Number.isZero] using nonzero,
              (Number.breaks_onIntegers_iff fun _ => nonzero).mpr ⟨division, large⟩⟩
      | double right =>
          rw [breaks_calculate_of_meeting rfl, Number.Undefined]
          simp only [Number.apply, Number.toDouble_double, Except.ok_bind, breaks_bind,
            Number.breaks_toDouble_iff, not_breaks_ok, and_false, exists_false, or_false,
            Except.pure_eq_ok, Number.isZero]
      | decimal right =>
          simp [breaks_calculate_mixed_iff, Number.isDecimal, Number.Undefined]
  | double left =>
      cases right with
      | integer right =>
          rw [breaks_calculate_of_meeting rfl, Number.Undefined]
          simp only [Number.apply, Number.toDouble_double, Except.ok_bind, breaks_bind,
            Number.breaks_toDouble_iff, not_breaks_ok, and_false, exists_false, or_false,
            Except.pure_eq_ok, and_iff_right_iff_imp]
          intro large _
          exact Number.isZero_of_hasNoDouble large
      | double right =>
          rw [breaks_calculate_of_meeting rfl, Number.Undefined]
          simp [not_breaks_apply_doubles]
      | decimal right =>
          simp [breaks_calculate_mixed_iff, Number.isDecimal, Number.Undefined]
  | decimal left =>
      cases right with
      | integer right =>
          simp [breaks_calculate_mixed_iff, Number.isDecimal, Number.Undefined]
      | double right =>
          simp [breaks_calculate_mixed_iff, Number.isDecimal, Number.Undefined]
      | decimal right =>
          rw [breaks_calculate_of_meeting rfl, Number.Undefined]
          exact and_congr_right Number.breaks_onDecimals_iff

end Calculate

theorem breaks_applyArithmetic_iff {operation : Arithmetic} {left right : Value} :
    Breaks (applyArithmetic operation left right) ↔
      ∃ leftNumber rightNumber, left = .number leftNumber ∧ right = .number rightNumber ∧
        Number.Undefined operation leftNumber rightNumber := by
  cases left with
  | number leftNumber =>
      cases right with
      | number rightNumber => simp [applyArithmetic, breaks_calculate_iff]
      | null | boolean | text | date | moment | object | list | map => simp [applyArithmetic]
  | text leftText =>
      cases right with
      | text rightText =>
          simp only [applyArithmetic, reduceCtorEq, false_and, exists_false, iff_false]
          split <;> simp
      | null | boolean | number | date | moment | object | list | map => simp [applyArithmetic]
  | null | boolean | date | moment | object | list | map =>
      cases right <;> simp [applyArithmetic]

theorem breaks_negate_iff {value : Value} :
    Breaks value.negate ↔
      ∃ decimal, value = .number (.decimal decimal) ∧ decimal.NotNegatable := by
  cases value with
  | number number => simp [negate, Number.breaks_negate_iff]
  | null | boolean | text | date | moment | object | list | map => simp [negate]

/-! ## Comparison -/

/-- Whether two values that the language orders have no order: a decimal number meets what is no
number, or only one of two moments has a zone. -/
def Disordered : Value → Value → Prop
  | .number left, .number right => Number.Unordered left right
  | .moment left, .moment right => left.zone.isSome ≠ right.zone.isSome
  | _, _ => False

theorem breaks_relateMoments_iff {relation : Relation} {left right : Moment} :
    Breaks (relateMoments relation left right) ↔ left.zone.isSome ≠ right.zone.isSome := by
  rw [← Moment.order?_eq_none_iff, relateMoments]
  cases left.order? right with
  | none => simp
  | some order => simp

theorem breaks_compare_relation_iff {relation : Relation} {left right : Value} :
    Breaks (compareWith (.relation relation) left right) ↔ Disordered left right := by
  cases left with
  | number leftNumber =>
      cases right with
      | number rightNumber =>
          simp [compareWith, isNull, comparable, relate, Disordered, breaks_iff_error,
            Number.relate_eq_error_iff]
      | null | boolean | text | date | moment | object | list | map =>
          simp [compareWith, isNull, comparable, Disordered]
  | moment leftMoment =>
      cases right with
      | moment rightMoment =>
          simp [compareWith, isNull, comparable, relate, Disordered, breaks_relateMoments_iff]
      | null | boolean | number | text | date | object | list | map =>
          simp [compareWith, isNull, comparable, Disordered]
  | null | boolean | text | date | object | list | map =>
      cases right <;> simp [compareWith, isNull, comparable, relate, Disordered]

end Value

/-- Whether a comparison of two values has no result. A boolean is never equal to a value of another
type, and is not compared with it. -/
def Comparison.Undefined : Comparison → Value → Value → Prop
  | .equal, left, right | .notEqual, left, right =>
      left.isBoolean = right.isBoolean ∧ Value.Signals left right
  | .relation _, left, right => Value.Disordered left right

namespace Value

theorem breaks_compareWith_iff {comparison : Comparison} {left right : Value} :
    Breaks (compareWith comparison left right) ↔ comparison.Undefined left right := by
  cases comparison with
  | equal | notEqual => simp [compareWith, Comparison.Undefined, breaks_equals_iff]
  | relation relation => exact breaks_compare_relation_iff

/-! ## Conversion -/

theorem breaks_refuse_iff {typeRef : String} {value : Value} :
    Breaks (.error (refuse typeRef value) : Except Refusal Value) ↔ Unwritable value := by
  rw [← breaks_quoted_iff, refuse]
  cases value.quoted with
  | ok quoted =>
      refine iff_of_false ?_ not_breaks_ok
      intro impossible
      obtain ⟨_, ⟨⟩⟩ := impossible
  | error fault => exact iff_of_true ⟨fault, rfl⟩ breaks_fault

/-- Bringing a value to a type breaks down exactly if the value is refused and cannot be shown. -/
theorem breaks_coerce_iff {strict : Bool} {typeRef : Option String} {value : Value} :
    Breaks (value.coerce strict typeRef) ↔
      strict = true ∧ value.convert? typeRef = none ∧ Unwritable value := by
  rw [coerce]
  cases value.convert? typeRef with
  | some converted => simp
  | none =>
      cases strict with
      | false => simp
      | true => simp [breaks_refuse_iff]

theorem breaks_convertStrictly_iff {typeRef : String} {value : Value} :
    Breaks (value.convertStrictly typeRef) ↔
      value.convert? (some typeRef) = none ∧ Unwritable value := by
  have refused : Breaks (value.convertStrictly typeRef) ↔
      Breaks (value.coerce true (some typeRef)) := by
    rw [convertStrictly]
    rcases value.coerce true (some typeRef) with (error | fault) | converted
    · refine iff_of_false not_breaks_failure ?_
      intro impossible
      rcases impossible with ⟨_, ⟨⟩⟩
    · exact iff_of_true ⟨fault, rfl⟩ ⟨fault, rfl⟩
    · simp
  simp [refused, breaks_coerce_iff]

end Value

/-- Whether a function has no result: it refuses the value, which cannot be shown. -/
def Function.Undefined : Function → Value → Prop
  | .date, value => Value.Unwritable value
  | .number, value => value.number? = none ∧ Value.Unwritable value
  | .string, _ => False

namespace Value

theorem breaks_callFunction_iff {function : Function} {value : Value} :
    Breaks (callFunction function value) ↔ function.Undefined value := by
  cases function with
  | date =>
      rw [callFunction, breaks_convertStrictly_iff, Function.Undefined, and_iff_right_iff_imp]
      rintro (_ | _ | _) <;> rfl
  | number =>
      rw [callFunction, breaks_convertStrictly_iff, Function.Undefined, and_congr_left_iff]
      rintro (_ | _ | _) <;>
        simp [number?, convert?, ValueType.ofName?, ValueType.convert?, Conversion.toNumber?]
  | string =>
      rw [callFunction, Function.Undefined, iff_false]
      split <;> exact not_breaks_ok

/-! ## Order in aggregations -/

/-- Whether an aggregation that compares two values meets a decimal number and what is no number. Of
two lists it compares the first items that differ, if it can be told whether they do. -/
inductive MeetsNotANumber : Value → Value → Prop
  | numbers {left right : Value} {leftNumber rightNumber : Number} :
      left.counted? = some leftNumber → right.counted? = some rightNumber →
      Number.Unordered leftNumber rightNumber → MeetsNotANumber left right
  | signal {left right : Value} {lefts rights : List Value} :
      sameNotANumber left right = false → Signals left right →
      MeetsNotANumber (.list (left :: lefts)) (.list (right :: rights))
  | items {left right : Value} {lefts rights : List Value} :
      matchesMember left right = .ok false → MeetsNotANumber left right →
      MeetsNotANumber (.list (left :: lefts)) (.list (right :: rights))
  | rest {left right : Value} {lefts rights : List Value} :
      matchesMember left right = .ok true → MeetsNotANumber (.list lefts) (.list rights) →
      MeetsNotANumber (.list (left :: lefts)) (.list (right :: rights))

theorem meetsNotANumber_iff_of_counted {left right : Value} {leftNumber rightNumber : Number}
    (first : left.counted? = some leftNumber) (second : right.counted? = some rightNumber) :
    MeetsNotANumber left right ↔ Number.Unordered leftNumber rightNumber := by
  refine ⟨?_, .numbers first second⟩
  intro shown
  cases shown with
  | numbers firstAgain secondAgain unordered =>
      cases first.symm.trans firstAgain
      cases second.symm.trans secondAgain
      exact unordered
  | signal | items | rest => cases first

theorem meetsNotANumber_items_iff {left right : Value} {lefts rights : List Value} :
    MeetsNotANumber (.list (left :: lefts)) (.list (right :: rights)) ↔
      (∃ fault, matchesMember left right = .error fault) ∨
        matchesMember left right = .ok false ∧ MeetsNotANumber left right ∨
          matchesMember left right = .ok true ∧ MeetsNotANumber (.list lefts) (.list rights) := by
  simp only [matchesMember_eq_error_iff, exists_eq_left]
  constructor
  · rintro (⟨⟨⟩, _, _⟩ | ⟨other, signals⟩ | ⟨differ, first⟩ | ⟨same, later⟩)
    · exact .inl ⟨other, signals⟩
    · exact .inr (.inl ⟨differ, first⟩)
    · exact .inr (.inr ⟨same, later⟩)
  · rintro (⟨other, signals⟩ | ⟨differ, first⟩ | ⟨same, later⟩)
    · exact .signal other signals
    · exact .items differ first
    · exact .rest same later

theorem not_meetsNotANumber_of_uncounted {left right : Value}
    (uncounted : left.counted? = none ∨ right.counted? = none)
    (unlisted : (∀ items, left ≠ .list items) ∨ ∀ items, right ≠ .list items) :
    ¬MeetsNotANumber left right := by
  intro shown
  cases shown with
  | numbers first second => simp [first, second] at uncounted
  | signal | items | rest => simp at unlisted

/-- Moments and objects may be without an order, and fail to be compared for no other reason. -/
theorem relateMoments_fault {relation : Relation} {left right : Moment} {fault : Fault}
    (failed : relateMoments relation left right = .error fault) : fault = .unordered := by
  rw [relateMoments] at failed
  split at failed
  · cases failed
  · exact (Except.error.inj failed).symm

theorem relateObjects_fault {relation : Relation} {left right : Object} {fault : Fault}
    (failed : relateObjects relation left right = .error fault) : fault = .unordered := by
  rw [relateObjects] at failed
  split at failed
  · split at failed
    · cases failed
    · exact (Except.error.inj failed).symm
  · exact (Except.error.inj failed).symm

theorem relateItems_cons {relation : Relation} {left right : Value} {lefts rights : List Value} :
    relateItems relation (left :: lefts) (right :: rights) =
      matchesMember left right >>= fun same =>
        if same then relateItems relation lefts rights else relate relation left right := by
  rw [relateItems]

mutual

/-- A comparison ends for the lack of a number exactly if it meets a decimal number and what is no
number. -/
theorem relate_invalid_iff {relation : Relation} : (left right : Value) →
    (relate relation left right = .error .invalidDecimal ↔ MeetsNotANumber left right)
  | .boolean left, right => by
      cases right with
      | boolean right =>
          rw [meetsNotANumber_iff_of_counted rfl rfl, relate, Number.relate_eq_error_iff]
          simp
      | number right =>
          rw [meetsNotANumber_iff_of_counted rfl rfl, relate, Number.relate_eq_error_iff]
          simp
      | null | text | date | moment | object | list | map =>
          refine iff_of_false (by simp [relate]) (not_meetsNotANumber_of_uncounted (.inr rfl) ?_)
          simp
  | .number left, right => by
      cases right with
      | boolean right =>
          rw [meetsNotANumber_iff_of_counted rfl rfl, relate, Number.relate_eq_error_iff]
          simp
      | number right =>
          rw [meetsNotANumber_iff_of_counted rfl rfl, relate, Number.relate_eq_error_iff]
          simp
      | null | text | date | moment | object | list | map =>
          refine iff_of_false (by simp [relate]) (not_meetsNotANumber_of_uncounted (.inr rfl) ?_)
          simp
  | .moment left, right => by
      refine iff_of_false ?_ (not_meetsNotANumber_of_uncounted (.inl rfl) (by simp))
      cases right with
      | moment right => exact fun failed => nomatch relateMoments_fault failed
      | null | boolean | number | text | date | object | list | map => simp [relate]
  | .object left, right => by
      refine iff_of_false ?_ (not_meetsNotANumber_of_uncounted (.inl rfl) (by simp))
      cases right with
      | object right => exact fun failed => nomatch relateObjects_fault failed
      | null | boolean | number | text | date | moment | list | map => simp [relate]
  | .list lefts, right => by
      cases right with
      | list rights => exact relateItems_invalid_iff lefts rights
      | null | boolean | number | text | date | moment | object | map =>
          refine iff_of_false (by simp [relate]) (not_meetsNotANumber_of_uncounted (.inl rfl) ?_)
          simp
  | .null, right | .text _, right | .date _, right | .map _, right => by
      refine iff_of_false ?_ (not_meetsNotANumber_of_uncounted (.inl rfl) (by simp))
      cases right <;> simp [relate]

theorem relateItems_invalid_iff {relation : Relation} : (lefts rights : List Value) →
    (relateItems relation lefts rights = .error .invalidDecimal ↔
      MeetsNotANumber (.list lefts) (.list rights))
  | [], rights => by
      refine iff_of_false (by simp [relateItems]) ?_
      intro impossible
      obtain ⟨⟨⟩, _, _⟩ := impossible
  | left :: lefts, [] => by
      refine iff_of_false (by simp [relateItems]) ?_
      intro impossible
      obtain ⟨⟨⟩, _, _⟩ := impossible
  | left :: lefts, right :: rights => by
      rw [meetsNotANumber_items_iff, ← @relate_invalid_iff relation left right,
        ← @relateItems_invalid_iff relation lefts rights]
      rw [relateItems_cons]
      cases found : matchesMember left right with
      | error fault => simp [(matchesMember_eq_error_iff.mp found).1]
      | ok same => cases same <;> simp

end

mutual

/-- A comparison ends for no other reason than the lack of a number or of an order. -/
theorem relate_fault {relation : Relation} {fault : Fault} : (left right : Value) →
    relate relation left right = .error fault → fault = .invalidDecimal ∨ fault = .unordered
  | .boolean left, right, failed | .number left, right, failed => by
      cases right with
      | boolean right | number right =>
          rw [relate] at failed
          exact .inl (Number.relate_eq_error_iff.mp failed).1
      | null | text | date | moment | object | list | map => exact .inr (Except.error.inj failed).symm
  | .moment left, right, failed => by
      cases right with
      | moment right => exact .inr (relateMoments_fault failed)
      | null | boolean | number | text | date | object | list | map =>
          exact .inr (Except.error.inj failed).symm
  | .object left, right, failed => by
      cases right with
      | object right => exact .inr (relateObjects_fault failed)
      | null | boolean | number | text | date | moment | list | map =>
          exact .inr (Except.error.inj failed).symm
  | .list lefts, right, failed => by
      cases right with
      | list rights => exact relateItems_fault lefts rights failed
      | null | boolean | number | text | date | moment | object | map =>
          exact .inr (Except.error.inj failed).symm
  | .text _, right, failed | .date _, right, failed => by
      cases right <;> cases failed <;> exact .inr rfl
  | .null, right, failed | .map _, right, failed => by
      cases right <;> exact .inr (Except.error.inj failed).symm

theorem relateItems_fault {relation : Relation} {fault : Fault} : (lefts rights : List Value) →
    relateItems relation lefts rights = .error fault → fault = .invalidDecimal ∨ fault = .unordered
  | [], rights, failed => by simp [relateItems] at failed
  | left :: lefts, [], failed => by simp [relateItems] at failed
  | left :: lefts, right :: rights, failed => by
      rw [relateItems_cons, Except.bind_eq_error_iff] at failed
      obtain untold | ⟨_ | _, _, failed⟩ := failed
      · exact .inl (matchesMember_eq_error_iff.mp untold).1
      · exact relate_fault left right failed
      · exact relateItems_fault lefts rights failed

end

end Value

end DecisionTables
