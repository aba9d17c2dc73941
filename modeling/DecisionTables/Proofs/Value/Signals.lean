import DecisionTables.Proofs.Number.Undefined
import DecisionTables.Proofs.Value.Equality

/-!
# Where equality cannot be told

Comparing two values for equality has no result exactly if it comes to a signaling not-a-number on one
side and a number or a boolean on the other. The parts of containers are compared only while those before
them match, maps of different sizes not at all, and a not-a-number is recognised there without being
compared.
-/

namespace DecisionTables

namespace Value

/-- The number that a value is, or counts as inside containers and aggregations. -/
def counted? : Value → Option Number
  | .boolean value => some (countOf value)
  | .number value => some value
  | _ => none

mutual

/-- Whether it cannot be told if two values are plainly equal. -/
inductive Signals : Value → Value → Prop
  | number {left right : Value} {leftNumber rightNumber : Number} :
      left.counted? = some leftNumber → right.counted? = some rightNumber →
      leftNumber.isSignaling = true ∨ rightNumber.isSignaling = true → Signals left right
  | list {lefts rights : List Value} :
      lefts.length = rights.length → ItemsSignal lefts rights → Signals (.list lefts) (.list rights)
  | map {lefts rights : List (String × Value)} :
      lefts.length = rights.length → MembersSignal lefts rights → Signals (.map lefts) (.map rights)

/-- Whether that is so of the first items of two lists that do not match. -/
inductive ItemsSignal : List Value → List Value → Prop
  | here {left right : Value} {lefts rights : List Value} :
      sameNotANumber left right = false → Signals left right →
      ItemsSignal (left :: lefts) (right :: rights)
  | later {left right : Value} {lefts rights : List Value} :
      matchesMember left right = .ok true → ItemsSignal lefts rights →
      ItemsSignal (left :: lefts) (right :: rights)

/-- Whether that is so of the first member of a map that does not match the one of its name in
another. -/
inductive MembersSignal : List (String × Value) → List (String × Value) → Prop
  | here {name : String} {left right : Value} {lefts rights : List (String × Value)} :
      Bindings.get? rights name = some right → sameNotANumber left right = false →
      Signals left right → MembersSignal ((name, left) :: lefts) rights
  | later {name : String} {left : Value} {lefts rights : List (String × Value)} :
      matchesNamed rights name left = .ok true → MembersSignal lefts rights →
      MembersSignal ((name, left) :: lefts) rights

end

theorem countOf_isSignaling (value : Bool) : (countOf value).isSignaling = false := rfl

theorem signals_iff_of_counted {left right : Value} {leftNumber rightNumber : Number}
    (first : left.counted? = some leftNumber) (second : right.counted? = some rightNumber) :
    Signals left right ↔ leftNumber.isSignaling = true ∨ rightNumber.isSignaling = true := by
  refine ⟨?_, .number first second⟩
  intro shown
  cases shown with
  | number firstAgain secondAgain signaling =>
      cases first.symm.trans firstAgain
      cases second.symm.trans secondAgain
      exact signaling
  | list | map => cases first

theorem Signals.counted {left right : Value} (signals : Signals left right) :
    left.counted?.isSome = right.counted?.isSome := by
  cases signals with
  | number first second => rw [first, second]; rfl
  | list | map => rfl

/-- A comparison that is made only after another has held fails in either of them. -/
theorem bind_guard_eq_error_iff {first second : Except Fault Bool} {fault : Fault} :
    (first >>= fun same => if same then second else .ok false) = .error fault ↔
      first = .error fault ∨ first = .ok true ∧ second = .error fault := by
  rcases first with error | _ | _
  all_goals simp

theorem matchesMember_eq_error_iff_of {left right : Value} {fault : Fault}
    (part : plainEqual left right = .error fault ↔
      fault = .invalidDecimal ∧ Signals left right) :
    matchesMember left right = .error fault ↔
      fault = .invalidDecimal ∧ sameNotANumber left right = false ∧ Signals left right := by
  rw [matchesMember]
  split
  case isTrue same => simp [same]
  case isFalse other => simp [other, part]

mutual

/-- It cannot be told whether two values are plainly equal exactly if a signaling not-a-number is
compared, and then for one reason. -/
theorem plainEqual_eq_error_iff {fault : Fault} : (left right : Value) →
    (plainEqual left right = .error fault ↔ fault = .invalidDecimal ∧ Signals left right)
  | .boolean left, right | .number left, right => by
      cases right with
      | boolean right | number right =>
          rw [signals_iff_of_counted rfl rfl]
          simp [plainEqual, Number.equality_eq_error_iff, countOf_isSignaling]
      | null | text | date | moment | object | list | map =>
          refine iff_of_false (by simp [plainEqual]) ?_
          intro impossible
          cases impossible.2.counted
  | .list lefts, right => by
      cases right with
      | list rights =>
          have parts : Signals (.list lefts) (.list rights) ↔
              lefts.length = rights.length ∧ ItemsSignal lefts rights := by
            constructor
            · rintro (⟨⟨⟩⟩ | ⟨same, items⟩)
              exact ⟨same, items⟩
            · exact fun shown => .list shown.1 shown.2
          rw [plainEqual, parts]
          split
          case isTrue same => simp [same, itemsEqual_eq_error_iff lefts rights]
          case isFalse other => simp [other]
      | null | boolean | number | text | date | moment | object | map =>
          refine iff_of_false (by simp [plainEqual]) ?_
          rintro ⟨_, ⟨⟨⟩⟩⟩
  | .map lefts, right => by
      cases right with
      | map rights =>
          have parts : Signals (.map lefts) (.map rights) ↔
              lefts.length = rights.length ∧ MembersSignal lefts rights := by
            constructor
            · rintro (⟨⟨⟩⟩ | _ | ⟨same, members⟩)
              exact ⟨same, members⟩
            · exact fun shown => .map shown.1 shown.2
          rw [plainEqual, parts]
          split
          case isTrue same => simp [same, membersEqual_eq_error_iff lefts rights]
          case isFalse other => simp [other]
      | null | boolean | number | text | date | moment | object | list =>
          refine iff_of_false (by simp [plainEqual]) ?_
          rintro ⟨_, ⟨⟨⟩⟩⟩
  | .null, right | .text _, right | .date _, right | .moment _, right | .object _, right => by
      refine iff_of_false (by cases right <;> simp [plainEqual]) ?_
      rintro ⟨_, ⟨⟨⟩⟩⟩

theorem itemsEqual_eq_error_iff {fault : Fault} : (lefts rights : List Value) →
    (itemsEqual lefts rights = .error fault ↔ fault = .invalidDecimal ∧ ItemsSignal lefts rights)
  | [], rights => by
      refine iff_of_false (by cases rights <;> simp [itemsEqual]) ?_
      rintro ⟨_, ⟨⟩⟩
  | left :: lefts, [] => by
      refine iff_of_false (by simp [itemsEqual]) ?_
      rintro ⟨_, ⟨⟩⟩
  | left :: lefts, right :: rights => by
      have parts : ItemsSignal (left :: lefts) (right :: rights) ↔
          (sameNotANumber left right = false ∧ Signals left right) ∨
            matchesMember left right = .ok true ∧ ItemsSignal lefts rights := by
        constructor
        · rintro (⟨other, signals⟩ | ⟨same, later⟩)
          · exact .inl ⟨other, signals⟩
          · exact .inr ⟨same, later⟩
        · rintro (⟨other, signals⟩ | ⟨same, later⟩)
          · exact .here other signals
          · exact .later same later
      rw [itemsEqual_cons, bind_guard_eq_error_iff, itemsEqual_eq_error_iff lefts rights, parts,
        matchesMember_eq_error_iff_of (plainEqual_eq_error_iff left right)]
      simp only [and_or_left, and_left_comm]

theorem membersEqual_eq_error_iff {fault : Fault} : (lefts rights : List (String × Value)) →
    (membersEqual lefts rights = .error fault ↔
      fault = .invalidDecimal ∧ MembersSignal lefts rights)
  | [], rights => by
      refine iff_of_false (by simp [membersEqual]) ?_
      rintro ⟨_, ⟨⟩⟩
  | (name, left) :: lefts, rights => by
      have parts : MembersSignal ((name, left) :: lefts) rights ↔
          (∃ right, Bindings.get? rights name = some right ∧
            sameNotANumber left right = false ∧ Signals left right) ∨
            matchesNamed rights name left = .ok true ∧ MembersSignal lefts rights := by
        constructor
        · rintro (⟨found, other, signals⟩ | ⟨same, later⟩)
          · exact .inl ⟨_, found, other, signals⟩
          · exact .inr ⟨same, later⟩
        · rintro (⟨right, found, other, signals⟩ | ⟨same, later⟩)
          · exact .here found other signals
          · exact .later same later
      have named : matchesNamed rights name left = .error fault ↔ fault = .invalidDecimal ∧
          ∃ right, Bindings.get? rights name = some right ∧
            sameNotANumber left right = false ∧ Signals left right := by
        rw [matchesNamed]
        cases Bindings.get? rights name with
        | none => simp
        | some right =>
            simp [matchesMember_eq_error_iff_of (plainEqual_eq_error_iff left right)]
      rw [membersEqual_cons, bind_guard_eq_error_iff, membersEqual_eq_error_iff lefts rights, parts,
        named]
      simp only [and_or_left, and_left_comm]

end

theorem matchesMember_eq_error_iff {left right : Value} {fault : Fault} :
    matchesMember left right = .error fault ↔
      fault = .invalidDecimal ∧ sameNotANumber left right = false ∧ Signals left right :=
  matchesMember_eq_error_iff_of (plainEqual_eq_error_iff left right)

theorem breaks_equals_iff {left right : Value} :
    Breaks (left.equals right) ↔ left.isBoolean = right.isBoolean ∧ Signals left right := by
  simp only [breaks_iff_error, equals_eq]
  split
  case isTrue alike => simp [alike, plainEqual_eq_error_iff]
  case isFalse other => simp [other]

/-! ## Values without signaling numbers -/

def IsSignaling (value : Value) : Prop :=
  ∃ number : Number, value = .number number ∧ number.isSignaling = true

/-- Whether no number in a value, or in any of its parts, is a signaling not-a-number. -/
inductive Silent : Value → Prop
  | null : Silent .null
  | boolean {value : Bool} : Silent (.boolean value)
  | number {number : Number} : number.isSignaling = false → Silent (.number number)
  | text {value : String} : Silent (.text value)
  | date {value : Date} : Silent (.date value)
  | moment {value : Moment} : Silent (.moment value)
  | object {value : Object} : Silent (.object value)
  | list {items : List Value} : (∀ item ∈ items, item.Silent) → Silent (.list items)
  | map {members : Bindings} : (∀ member ∈ members, member.2.Silent) → Silent (.map members)

theorem Silent.isSignaling {value : Value} {number : Number} (silent : value.Silent)
    (counted : value.counted? = some number) : number.isSignaling = false := by
  cases silent with
  | number silent =>
      cases counted
      exact silent
  | boolean =>
      cases counted
      rfl
  | null | text | date | moment | object | list | map => cases counted

theorem not_itemsSignal {lefts rights : List Value}
    (each : ∀ left ∈ lefts, ∀ right ∈ rights, ¬Signals left right) : ¬ItemsSignal lefts rights := by
  induction lefts generalizing rights with
  | nil => nofun
  | cons left lefts ih =>
      rintro (⟨_, signals⟩ | ⟨_, later⟩)
      · exact each _ List.mem_cons_self _ List.mem_cons_self signals
      · refine ih ?_ later
        intro item inLefts other inRights
        exact each item (List.mem_cons_of_mem _ inLefts) other (List.mem_cons_of_mem _ inRights)

theorem not_membersSignal {lefts rights : Bindings}
    (each : ∀ left ∈ lefts, ∀ right ∈ rights, ¬Signals left.2 right.2) :
    ¬MembersSignal lefts rights := by
  induction lefts with
  | nil => nofun
  | cons left lefts ih =>
      rintro (⟨found, _, signals⟩ | ⟨_, later⟩)
      · exact each _ List.mem_cons_self _ (Bindings.mem_of_get? found) signals
      · exact ih (fun member among => each member (List.mem_cons_of_mem _ among)) later

/-- Values without signaling numbers can be compared for equality. -/
theorem Silent.not_signals {left right : Value} (onLeft : left.Silent) (onRight : right.Silent) :
    ¬Signals left right := by
  induction onLeft generalizing right with
  | list _ ih =>
      rintro (⟨⟨⟩⟩ | ⟨_, items⟩)
      cases onRight with
      | list silent => exact not_itemsSignal (fun _ inLeft _ inRight =>
          ih _ inLeft (silent _ inRight)) items
  | map _ ih =>
      rintro (⟨⟨⟩⟩ | _ | ⟨_, members⟩)
      cases onRight with
      | map silent => exact not_membersSignal (fun _ inLeft _ inRight =>
          ih _ inLeft (silent _ inRight)) members
  | boolean =>
      rintro (⟨⟨⟩, counted, signaling⟩)
      simp [countOf_isSignaling, onRight.isSignaling counted] at signaling
  | number silent =>
      rintro (⟨⟨⟩, counted, signaling⟩)
      simp [silent, onRight.isSignaling counted] at signaling
  | null | text | date | moment | object => rintro ⟨⟨⟩⟩

end Value

end DecisionTables
