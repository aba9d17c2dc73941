import DecisionTables.Expression.Compiled
import DecisionTables.Proofs.Expression.Parsing
import DecisionTables.Proofs.Outcome
import DecisionTables.Proofs.Value.Conversion
import DecisionTables.Proofs.Value.Equality

/-!
# Kinds of values that evaluation does not leave

No operation of the language makes a list or a map: a value that an expression computes is a scalar, or
a part of a variable or of the subject. So a kind of values that contains the scalars which operations
give is not left by an expression whose literals, variables and subject are of that kind. Two such kinds
are used here. The names in the maps of computed values are distinct if those in the variables are, and
an expression without variables computes null, a boolean, an integer, a double, a text or a day.
-/

namespace DecisionTables

namespace Value

/-- Whether operations of the language on values of a kind give values of that kind. -/
structure Closed (Good : Value → Prop) : Prop where
  null : Good .null
  typed {value : Value} {type : ValueType} : value.HasType type → Good value
  negated {number result : Number} :
    Good (.number number) → number.negate = .ok result → Good (.number result)
  calculated {operation : Arithmetic} {left right : Number} {result : Value} :
    Good (.number left) → Good (.number right) → calculate operation left right = .ok result →
    Good result

variable {value result left right : Value}

/-! ## Operations -/

namespace Closed

variable {Good : Value → Prop} (closed : Closed Good)

include closed

theorem boolean (value : Bool) : Good (.boolean value) :=
  closed.typed .boolean

theorem text (value : String) : Good (.text value) :=
  closed.typed .text

theorem of_convert? {typeRef : Option String} (good : Good value)
    (given : value.convert? typeRef = some result) : Good result := by
  simp only [convert?] at given
  split at given
  · cases given
    exact closed.null
  · exact closed.typed (ValueType.convert?_hasType given)
  · cases given
    exact good

theorem of_coerce {strict : Bool} {typeRef : Option String} (good : Good value)
    (given : value.coerce strict typeRef = .ok result) : Good result := by
  simp only [coerce] at given
  split at given
  · rename_i converted
    cases given
    exact closed.of_convert? good converted
  · split at given
    · cases given
    · cases given
      exact good

theorem of_compareWith {comparison : Comparison}
    (given : compareWith comparison left right = .ok result) : Good result := by
  cases comparison with
  | equal | notEqual =>
      obtain ⟨answer, _, rfl⟩ := Except.map_eq_ok_iff.mp given
      exact closed.boolean _
  | relation relation =>
      simp only [compareWith] at given
      split at given
      · cases given
        exact closed.null
      · split at given
        · obtain ⟨answer, _, rfl⟩ := Except.map_eq_ok_iff.mp given
          exact closed.boolean _
        · cases given

theorem of_applyArithmetic {operation : Arithmetic} (onLeft : Good left) (onRight : Good right)
    (given : applyArithmetic operation left right = .ok result) : Good result := by
  unfold applyArithmetic at given
  split at given
  · cases given
    exact closed.null
  · cases given
    exact closed.null
  · exact closed.calculated onLeft onRight given
  · split at given
    · cases given
      exact closed.text _
    · cases given
  · cases given

theorem of_negate (good : Good value) (given : value.negate = .ok result) : Good result := by
  cases value with
  | null =>
      cases given
      exact closed.null
  | number number =>
      obtain ⟨negated, computed, rfl⟩ := Except.map_eq_ok_iff.mp given
      apply closed.negated good
      cases outcome : number.negate with
      | ok found => simpa [outcome, Evaluated.ofFault] using computed
      | error fault => simp [outcome, Evaluated.ofFault] at computed
  | boolean | text | date | moment | object | list | map => cases given

theorem ofTruth (truth : Option Bool) : Good (Value.ofTruth truth) := by
  cases truth with
  | none => exact closed.null
  | some answer => exact closed.boolean answer

theorem of_callFunction {function : Function} (good : Good value)
    (given : callFunction function value = .ok result) : Good result := by
  have strictly {typeRef : String} (given : convertStrictly typeRef value = .ok result) :
      Good result := by
    simp only [convertStrictly] at given
    split at given
    · rename_i converted
      cases given
      exact closed.of_coerce good converted
    · cases given
    · cases given
  cases function with
  | date | number => exact strictly given
  | string =>
      simp only [callFunction] at given
      split at given
      · rename_i converted
        cases given
        exact closed.of_coerce good converted
      · cases given
        exact good

end Closed

end Value

/-! ## Expressions -/

/-- Whether the literals of an expression are of a kind. -/
def Expression.Literals (Good : Value → Prop) : Expression → Prop
  | .literal value => Good value
  | .subject | .name _ => True
  | .negate operand | .complement operand | .call _ operand => operand.Literals Good
  | .arithmetic _ left right | .compare _ left right | .conjunction left right
  | .disjunction left right => left.Literals Good ∧ right.Literals Good

theorem Expression.Literals.imp {Good Better : Value → Prop} {expression : Expression}
    (literals : expression.Literals Good) (better : ∀ value, Good value → Better value) :
    expression.Literals Better := by
  induction expression with
  | literal value => exact better value literals
  | subject | name => exact trivial
  | negate _ ih | complement _ ih | call _ _ ih => exact ih literals
  | arithmetic _ _ _ onLeft onRight | compare _ _ _ onLeft onRight | conjunction _ _ onLeft onRight
  | disjunction _ _ onLeft onRight => exact ⟨onLeft literals.1, onRight literals.2⟩

/-- The value of an expression is of a kind that operations do not leave if its literals, the values of
its names and the subject are. -/
theorem Expression.good_of_evaluate {Good : Value → Prop} (closed : Value.Closed Good)
    {expression : Expression} {environment : Environment} {value : Value}
    (literals : expression.Literals Good)
    (names : ∀ path value, (Expression.name path).evaluate environment = .ok value → Good value)
    (subject : Good environment.subject) (evaluates : expression.evaluate environment = .ok value) :
    Good value := by
  induction expression generalizing value with
  | literal literal =>
      cases evaluates
      exact literals
  | subject =>
      cases evaluates
      exact subject
  | name path => exact names path value evaluates
  | negate operand ih =>
      simp only [evaluate, Except.bind_eq_ok_iff] at evaluates
      obtain ⟨_, evaluated, negated⟩ := evaluates
      exact closed.of_negate (ih literals evaluated) negated
  | complement operand ih =>
      simp only [evaluate, Except.bind_eq_ok_iff, Except.pure_eq_ok, Except.ok.injEq] at evaluates
      obtain ⟨_, _, _, _, rfl⟩ := evaluates
      exact closed.ofTruth _
  | arithmetic operation left right onLeft onRight =>
      simp only [evaluate, Except.bind_eq_ok_iff] at evaluates
      obtain ⟨_, leftEvaluated, _, rightEvaluated, applied⟩ := evaluates
      exact closed.of_applyArithmetic (onLeft literals.1 leftEvaluated)
        (onRight literals.2 rightEvaluated) applied
  | compare comparison left right =>
      simp only [evaluate, Except.bind_eq_ok_iff] at evaluates
      obtain ⟨_, _, _, _, compared⟩ := evaluates
      exact closed.of_compareWith compared
  | conjunction left right | disjunction left right =>
      simp only [evaluate, Except.bind_eq_ok_iff, Except.pure_eq_ok, Except.ok.injEq] at evaluates
      obtain ⟨_, _, _, _, _, _, _, _, rfl⟩ := evaluates
      exact closed.ofTruth _
  | call function argument ih =>
      simp only [evaluate, Except.bind_eq_ok_iff] at evaluates
      obtain ⟨_, evaluated, called⟩ := evaluates
      exact closed.of_callFunction (ih literals evaluated) called

/-! ## Distinct names -/

namespace Value

/-- The names in the maps of computed values are distinct, since no operation makes a map. -/
theorem closed_wellNamed : Closed WellNamed where
  null := .null
  typed {value type} typed := by
    cases typed with
    | text => exact .text
    | integer | long | double | whole | real => exact .number
    | boolean => exact .boolean
    | date => exact .date
  negated _ _ := .number
  calculated {operation left right result} _ _ given := by
    simp only [calculate] at given
    split at given
    · cases given
    · split at given
      · cases given
      · obtain ⟨number, _, rfl⟩ := Except.map_eq_ok_iff.mp given
        exact .number

end Value

/-- Whether the maps among the variables and their parts have distinct names, and those among the
attributes of values too. -/
structure Context.WellNamed (context : Context) : Prop where
  bindings : (Value.map context.bindings).WellNamed
  attributes : ∀ value name found, context.attribute? value name = some found → found.WellNamed

theorem Context.wellNamed_ofBindings {bindings : Bindings} (named : (Value.map bindings).WellNamed) :
    (Context.ofBindings bindings).WellNamed :=
  ⟨named, nofun⟩

namespace Value

variable {value result : Value} {context : Context}

theorem wellNamed_of_get? {bindings : Bindings} {name : String}
    (named : (Value.map bindings).WellNamed) (found : bindings.get? name = some result) :
    result.WellNamed := by
  cases named with
  | map _ members => exact members _ (Bindings.mem_of_get? found)

/-- A component has no parts. -/
theorem wellNamed_of_component? {name : String} (found : value.component? name = some result) :
    result.WellNamed := by
  have ofNumber {number : Number} (found : component?.numberComponent? number name = some result) :
      result.WellNamed := by
    unfold component?.numberComponent? at found
    split at found
    all_goals first
      | cases found
        exact .number
      | cases found
  have ofDate {date : Date} (found : component?.dateComponent? date name = some result) :
      result.WellNamed := by
    unfold component?.dateComponent? at found
    split at found
    all_goals first
      | cases found
        exact .number
      | cases found
  cases value with
  | boolean | number => exact ofNumber found
  | date date =>
      simp only [component?] at found
      split at found
      · cases found
        exact .date
      · cases found
        exact .date
      · exact ofDate found
  | moment moment =>
      simp only [component?] at found
      split at found
      all_goals first
        | cases found
          exact .number
        | cases found
          exact .moment
        | exact ofDate found
        | skip
      split at found
      · cases found
        exact .null
      · cases found
  | null | text | object | list | map => cases found

theorem wellNamed_of_member? {name : String} (named : context.WellNamed) (onValue : value.WellNamed)
    (found : value.member? context name = some result) : result.WellNamed := by
  unfold member? at found
  split at found
  · exact wellNamed_of_get? onValue found
  · split at found
    · rename_i component
      cases found
      exact wellNamed_of_component? component
    · exact named.attributes _ _ _ found

theorem wellNamed_of_follow {path : Path} {members : List String} (named : context.WellNamed)
    (onValue : value.WellNamed) (given : value.follow context path members = .ok result) :
    result.WellNamed := by
  induction members generalizing value with
  | nil =>
      rw [follow] at given
      cases given
      exact onValue
  | cons member rest ih =>
      unfold follow at given
      split at given
      · cases given
        exact onValue
      · cases given
        exact .null
      · rename_i listed
        cases listed
        split at given
        · rename_i found
          exact ih (wellNamed_of_member? named onValue found) given
        · cases given

end Value

/-- The value of an expression has distinct names in its maps if its literals, the variables and the
subject have. -/
theorem Expression.wellNamed_of_evaluate {expression : Expression} {environment : Environment}
    {value : Value} (literals : expression.Literals Value.WellNamed)
    (named : environment.toContext.WellNamed) (subject : environment.subject.WellNamed)
    (evaluates : expression.evaluate environment = .ok value) : value.WellNamed := by
  refine good_of_evaluate Value.closed_wellNamed literals ?_ subject evaluates
  intro path value evaluates
  simp only [evaluate] at evaluates
  split at evaluates
  · rename_i found
    exact Value.wellNamed_of_follow named (Value.wellNamed_of_get? named.bindings found) evaluates
  · cases evaluates

/-! ## Constants -/

namespace Value

/-- The values that constants have. -/
inductive Elementary : Value → Prop
  | null : Elementary .null
  | boolean {value : Bool} : Elementary (.boolean value)
  | integer {value : Int} : Elementary (.number (.integer value))
  | double {value : Binary64} : Elementary (.number (.double value))
  | text {value : String} : Elementary (.text value)
  | date {value : Date} : Elementary (.date value)

theorem Elementary.wellNamed {value : Value} (elementary : value.Elementary) : value.WellNamed := by
  cases elementary with
  | null => exact .null
  | boolean => exact .boolean
  | integer | double => exact .number
  | text => exact .text
  | date => exact .date

theorem elementary_of_apply {operation : Arithmetic} {left right result : Number}
    (onLeft : (Value.number left).Elementary) (onRight : (Value.number right).Elementary)
    (given : Number.apply operation left right = .ok result) : (Value.number result).Elementary := by
  have asDoubles {left right : Number}
      (given : (left.toDouble >>= fun first => right.toDouble >>= fun second =>
        pure (Number.double (Number.onDoubles operation first second))) = .ok result) :
      (Value.number result).Elementary := by
    simp only [Except.bind_eq_ok_iff, Except.pure_eq_ok, Except.ok.injEq] at given
    obtain ⟨_, _, _, _, rfl⟩ := given
    exact .double
  cases onLeft with
  | integer =>
      cases onRight with
      | integer =>
          cases operation with
          | add | sub | mul =>
              cases given
              exact .integer
          | div =>
              simp only [Number.apply, Number.onIntegers] at given
              split at given
              · cases given
                exact .double
              · cases given
      | double => exact asDoubles given
  | double => exact asDoubles given

theorem closed_elementary : Closed Elementary where
  null := .null
  typed {value type} typed := by
    cases typed with
    | text => exact .text
    | integer | long | whole => exact .integer
    | double | real => exact .double
    | boolean => exact .boolean
    | date => exact .date
  negated {number result} elementary given := by
    cases elementary with
    | integer =>
        cases given
        exact .integer
    | double =>
        cases given
        exact .double
  calculated {operation left right result} onLeft onRight given := by
    -- Without a decimal number the operands meet as they are.
    have meet : Number.meeting left right = .ok (left, right) := by
      cases onLeft <;> cases onRight <;> rfl
    simp only [calculate, meet] at given
    split at given
    · cases given
    · cases computed : Number.apply operation left right with
      | ok number =>
          rw [computed] at given
          cases given
          exact elementary_of_apply onLeft onRight computed
      | error fault =>
          rw [computed] at given
          cases given

end Value

/-- What an expression computes without variables is elementary if its literals are. -/
theorem Expression.elementary_of_evaluate {expression : Expression} {value : Value}
    (literals : expression.Literals Value.Elementary)
    (evaluates : expression.evaluate ⟨.ofBindings [], .null⟩ = .ok value) : value.Elementary := by
  refine good_of_evaluate Value.closed_elementary literals ?_ .null evaluates
  intro path value evaluates
  cases evaluates

/-! ## Expressions that are read -/

namespace Grammar

theorem elementary_of_literal? {lexeme : Lexeme} {value : Value}
    (found : literal? lexeme = some value) : value.Elementary := by
  cases lexeme with
  | integer =>
      cases found
      exact .integer
  | double =>
      cases found
      exact .double
  | text =>
      cases found
      exact .text
  | symbol => cases found
  | name word =>
      simp only [literal?, Expression.constant?] at found
      split at found
      · cases found
        exact .boolean
      · cases found
        exact .boolean
      · cases found
        exact .null
      · cases found

theorem elementary_negated {operand : Expression} (literals : operand.Literals Value.Elementary) :
    operand.negated.Literals Value.Elementary := by
  unfold Expression.negated
  split
  · exact Value.Elementary.integer
  · exact Value.Elementary.double
  · exact literals

theorem elementary_join {operator : Operator} {left right : Expression}
    (onLeft : left.Literals Value.Elementary) (onRight : right.Literals Value.Elementary) :
    (operator.join left right).Literals Value.Elementary := by
  cases operator <;> exact ⟨onLeft, onRight⟩

/-- The literals of a derived tree are elementary. Of further operands this holds if it holds of the
tree on their left. -/
def Part.Elementary : Part → Tree → Prop
  | .phrase _, tree => tree.folded.Literals Value.Elementary
  | .more _ left, tree =>
      left.folded.Literals Value.Elementary → tree.folded.Literals Value.Elementary

theorem Derives.elementary {part : Part} {tree : Tree} {tokens rest : List Token}
    (derives : Derives part tree tokens rest) : part.Elementary tree := by
  induction derives with
  | loop _ _ _ operand further => exact further operand
  | stop => exact id
  | extend _ _ _ operand further =>
      intro left
      exact further (elementary_join left operand)
  | uncompared _ sum => exact sum
  | compared _ _ _ left right => exact elementary_join left right
  | minus _ _ operand => exact elementary_negated operand
  | complement _ _ _ _ operand => exact operand
  | unsigned _ primary => exact primary
  | literal found => exact elementary_of_literal? found
  | name | subject => exact trivial
  | call _ _ _ _ _ argument => exact argument
  | enclosed _ _ _ inner => exact inner

end Grammar

/-- The literals of an expression that is read from a text are elementary. -/
theorem CompiledExpression.elementary_of_compile {text : String} {expression : CompiledExpression}
    (compiled : compile text = .ok expression) :
    expression.body.Literals Value.Elementary := by
  obtain ⟨body, parsed, rfl⟩ := Except.map_eq_ok_iff.mp compiled
  unfold Expression.parse at parsed
  split at parsed
  · cases parsed
    exact Value.Elementary.null
  · split at parsed
    · cases parsed
    · split at parsed
      · rename_i read
        cases parsed
        obtain ⟨tree, derives, rfl⟩ := Grammar.read_complete_iff.mp read
        exact Grammar.Derives.elementary derives
      · cases parsed

end DecisionTables
