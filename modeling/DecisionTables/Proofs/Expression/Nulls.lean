import DecisionTables.Proofs.Outcome
import DecisionTables.Proofs.Value.Conversion

/-!
# Where null comes from

Signs, arithmetic and the conversions give null exactly if they are given null. An expression that
is built from them is therefore null exactly if one of its leaves is, be it a literal, the subject
or a name: no null is lost on the way, and none appears. A name is null if its path leads through
null.
-/

namespace DecisionTables

namespace Value

variable {value left right result : Value}

/-! ## Operations -/

theorem null_of_negate (given : value.negate = .ok result) : result = .null ↔ value = .null := by
  unfold negate at given
  split at given
  · cases given
    simp
  · obtain ⟨number, _, rfl⟩ := Except.map_eq_ok_iff.mp given
    simp
  · cases given

theorem null_of_calculate {operation : Arithmetic} {left right : Number}
    (given : calculate operation left right = .ok result) : result ≠ .null := by
  simp only [calculate] at given
  split at given
  · cases given
  · split at given
    · cases given
    · obtain ⟨number, _, rfl⟩ := Except.map_eq_ok_iff.mp given
      exact nofun

theorem null_of_applyArithmetic {operation : Arithmetic}
    (given : applyArithmetic operation left right = .ok result) :
    result = .null ↔ left = .null ∨ right = .null := by
  unfold applyArithmetic at given
  split at given
  · cases given
    simp
  · cases given
    simp
  · simp [null_of_calculate given]
  · split at given
    · cases given
      simp
    · cases given
  · cases given

theorem HasType.not_null {type : ValueType} (typed : value.HasType type) : value ≠ .null := by
  cases typed <;> exact nofun

/-- Conversion to a declared type neither loses null nor makes it. -/
theorem null_of_convert? {typeRef : Option String} (given : value.convert? typeRef = some result) :
    result = .null ↔ value = .null := by
  simp only [convert?] at given
  split at given
  · cases given
    simp
  · rename_i present _
    exact iff_of_false (ValueType.convert?_hasType given).not_null present
  · cases given
    rfl

theorem null_of_coerce {strict : Bool} {typeRef : Option String}
    (given : value.coerce strict typeRef = .ok result) : result = .null ↔ value = .null := by
  simp only [coerce] at given
  split at given
  · rename_i found
    cases given
    exact null_of_convert? found
  · split at given
    · cases given
    · cases given
      rfl

theorem null_of_callFunction {function : Function}
    (given : callFunction function value = .ok result) : result = .null ↔ value = .null := by
  have strictly {typeRef : String} (given : convertStrictly typeRef value = .ok result) :
      result = .null ↔ value = .null := by
    unfold convertStrictly at given
    split at given
    · rename_i converted
      cases given
      exact null_of_coerce converted
    · cases given
    · cases given
  cases function with
  | date => exact strictly given
  | number => exact strictly given
  | string =>
      simp only [callFunction] at given
      split at given
      · rename_i converted
        cases given
        exact null_of_coerce converted
      · cases given
        rfl

/-! ## Paths -/

/-- A path that leads to null leads to null whatever members follow. -/
theorem follow_of_null {context : Context} {path : Path} {members : List String}
    (null : value.follow context path members = .ok .null) (other : Path) (further : List String) :
    value.follow context other (members ++ further) = .ok .null := by
  induction members generalizing value with
  | nil =>
      rw [follow] at null
      cases null
      cases further <;> rfl
  | cons member rest ih =>
      unfold follow at null
      rw [List.cons_append]
      split at null
      · rename_i listed
        cases listed
      · rfl
      · rename_i present listed
        cases listed
        split at null
        · rename_i next found
          rw [follow]
          · simp only [found]
            exact ih null
          · exact present
        · cases null

end Value

/-! ## Expressions -/

namespace Expression

/-- Whether an expression is built from literals, the subject and names by signs, arithmetic and
functions. -/
inductive NullPreserving : Expression → Prop
  | literal {value : Value} : NullPreserving (.literal value)
  | subject : NullPreserving .subject
  | name {path : Path} : NullPreserving (.name path)
  | negate {operand : Expression} : NullPreserving operand → NullPreserving (.negate operand)
  | arithmetic {operation : Arithmetic} {left right : Expression} :
      NullPreserving left → NullPreserving right → NullPreserving (.arithmetic operation left right)
  | call {function : Function} {argument : Expression} :
      NullPreserving argument → NullPreserving (.call function argument)

/-- The literals, names and references to the subject that an expression is made of, from left to
right. -/
def leaves : Expression → List Expression
  | .literal value => [.literal value]
  | .subject => [.subject]
  | .name path => [.name path]
  | .negate operand | .complement operand | .call _ operand => operand.leaves
  | .arithmetic _ left right | .compare _ left right | .conjunction left right
  | .disjunction left right => left.leaves ++ right.leaves

/-- How the nulls of an expression that has a value come about. -/
structure PassesNull (expression : Expression) (environment : Environment) (value : Value) :
    Prop where
  /-- Every leaf has a value. -/
  returned : ∀ leaf ∈ expression.leaves, ∃ found, leaf.evaluate environment = .ok found
  /-- The value is null if that of some leaf is. -/
  null_iff : value = .null ↔ ∃ leaf ∈ expression.leaves, leaf.evaluate environment = .ok .null
  /-- A name is null if it begins with a name that is. -/
  prefixes : ∀ path, .name path ∈ expression.leaves → ∀ count,
    (Expression.name ⟨path.head, path.members.take count⟩).evaluate environment = .ok .null →
    (Expression.name path).evaluate environment = .ok .null

variable {environment : Environment} {expression : Expression} {value : Value}

/-- A name that begins with one that is null is null. -/
theorem evaluate_name_of_prefix {path : Path} {count : Nat}
    (null : (Expression.name ⟨path.head, path.members.take count⟩).evaluate environment =
      .ok .null) : (Expression.name path).evaluate environment = .ok .null := by
  simp only [evaluate] at null ⊢
  split at null
  · rename_i bound
    have whole := Value.follow_of_null null path (path.members.drop count)
    rw [List.take_append_drop] at whole
    simpa only [bound] using whole
  · cases null

theorem leaves_of_evaluate (preserving : expression.NullPreserving)
    (evaluates : expression.evaluate environment = .ok value) :
    (∀ leaf ∈ expression.leaves, ∃ found, leaf.evaluate environment = .ok found) ∧
      (value = .null ↔ ∃ leaf ∈ expression.leaves, leaf.evaluate environment = .ok .null) := by
  induction preserving generalizing value with
  | literal | subject | name =>
      simp [leaves, evaluates]
  | negate _ ih =>
      simp only [evaluate, Except.bind_eq_ok_iff] at evaluates
      obtain ⟨operand, given, negated⟩ := evaluates
      obtain ⟨returned, nulls⟩ := ih given
      exact ⟨returned, (Value.null_of_negate negated).trans nulls⟩
  | call _ ih =>
      simp only [evaluate, Except.bind_eq_ok_iff] at evaluates
      obtain ⟨argument, given, called⟩ := evaluates
      obtain ⟨returned, nulls⟩ := ih given
      exact ⟨returned, (Value.null_of_callFunction called).trans nulls⟩
  | arithmetic _ _ leftIH rightIH =>
      simp only [evaluate, Except.bind_eq_ok_iff] at evaluates
      obtain ⟨left, leftGiven, right, rightGiven, applied⟩ := evaluates
      obtain ⟨leftReturned, leftNulls⟩ := leftIH leftGiven
      obtain ⟨rightReturned, rightNulls⟩ := rightIH rightGiven
      refine ⟨List.forall_mem_append.mpr ⟨leftReturned, rightReturned⟩, ?_⟩
      rw [Value.null_of_applyArithmetic applied, leftNulls, rightNulls]
      simp only [leaves, List.mem_append, or_and_right, exists_or]

/-- An expression that is built from signs, arithmetic and functions is null exactly if one of its
leaves is. -/
theorem passesNull (preserving : expression.NullPreserving)
    (evaluates : expression.evaluate environment = .ok value) :
    PassesNull expression environment value := by
  obtain ⟨returned, nulls⟩ := leaves_of_evaluate preserving evaluates
  exact ⟨returned, nulls, fun path _ count null => evaluate_name_of_prefix null⟩

def greeting : Expression :=
  .arithmetic .add (.literal (.text "Dear ")) (.call .string (.name ⟨"customer", ["name"]⟩))

/-- Without a customer there is no greeting. -/
theorem greeting_passesNull :
    greeting.NullPreserving ∧
      greeting.evaluate ⟨.ofBindings [("customer", .null)], .null⟩ = .ok .null ∧
      PassesNull greeting ⟨.ofBindings [("customer", .null)], .null⟩ .null := by
  have preserving : greeting.NullPreserving := .arithmetic .literal (.call .name)
  have evaluates : greeting.evaluate ⟨.ofBindings [("customer", .null)], .null⟩ = .ok .null := rfl
  exact ⟨preserving, evaluates, passesNull preserving evaluates⟩

end Expression

end DecisionTables
