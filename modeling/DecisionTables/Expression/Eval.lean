import DecisionTables.Expression.Basic
import DecisionTables.TypeRef
import DecisionTables.Value.Order

/-!
# Evaluation

An expression has a value in an environment, or evaluation fails for a reason that the language
names, or the arithmetic below it breaks down. Both operands of every operation are evaluated, the
left one first. Null spreads through arithmetic and order; equality is two-valued; `and` and `or`
are three-valued.
-/

namespace DecisionTables

/-- Why an expression has no value. -/
inductive Failure where
  | unknownVariable (name : String)
  | noMember (path : Path) (member : String)
  | notComparable (left right : String)
  | notApplicable (operation : Arithmetic) (left right : String)
  | divisionByZero
  | cannotNegate (type : String)
  | notBoolean (operator type : String)
  | notConvertible (error : ConversionError)

def Arithmetic.text : Arithmetic → String
  | .add => "+"
  | .sub => "-"
  | .mul => "*"
  | .div => "/"

def Failure.message : Failure → String
  | .unknownVariable name => "unknown variable '" ++ name ++ "'"
  | .noMember path member => "'" ++ path.text ++ "' has no member '" ++ member ++ "'"
  | .notComparable left right => "cannot compare " ++ left ++ " with " ++ right
  | .notApplicable operation left right =>
      "cannot apply '" ++ operation.text ++ "' to " ++ left ++ " and " ++ right
  | .divisionByZero => "division by zero"
  | .cannotNegate type => "cannot negate " ++ type
  | .notBoolean operator type => "'" ++ operator ++ "' expects boolean operands, got " ++ type
  | .notConvertible error => error.message

/-- What ends an evaluation without a value. -/
inductive Interruption where
  | failure (reason : Failure)
  | fault (fault : Fault)

/-- The outcome of an evaluation. -/
abbrev Evaluated (α : Type) := Except Interruption α

/-- An outcome of arithmetic as an outcome of evaluation. -/
def Evaluated.ofFault {α : Type} : Except Fault α → Evaluated α
  | .ok value => .ok value
  | .error fault => .error (.fault fault)

/-- What an expression is evaluated in: the variables, and the attributes that values have beside their
components. An attribute of a value is any value again. -/
structure Context where
  bindings : Bindings
  attribute? : Value → String → Option Value

namespace Context

/-- Variables whose values have no attributes beside their components. -/
def ofBindings (bindings : Bindings) : Context := ⟨bindings, fun _ _ => none⟩

end Context

/-- The context of an expression and the subject. -/
structure Environment extends Context where
  subject : Value

namespace Value

/-- The components of numbers, days and moments: those of their attributes that follow from the value
alone and are values of the language. Functions, zones, spans of time and all else that a value or an
object may have as an attribute come from the context. -/
def component? : Value → String → Option Value
  | .boolean value, name => numberComponent? (countOf value) name
  | .number value, name => numberComponent? value name
  | .date value, name =>
      match name with
      | "min" => some (.date .first)
      | "max" => some (.date .last)
      | name => dateComponent? value name
  | .moment value, name =>
      match name with
      | "hour" => some (integer value.hour.val)
      | "minute" => some (integer value.minute.val)
      | "second" => some (integer value.second.val)
      | "microsecond" => some (integer value.microsecond.val)
      | "fold" => some (integer (if value.later then 1 else 0))
      | "tzinfo" => if value.zone.isNone then some .null else none
      | "min" => some (.moment .first)
      | "max" => some (.moment .last)
      | name => dateComponent? value.date name
  | _, _ => none
where
  /-- The members of a number: its parts as a complex number and, of an integer, as a fraction. -/
  numberComponent? : Number → String → Option Value
    | .integer value, "real" => some (integer value)
    | .integer _, "imag" => some (integer 0)
    | .integer value, "numerator" => some (integer value)
    | .integer _, "denominator" => some (integer 1)
    | .double value, "real" => some (.number (.double value))
    | .double _, "imag" => some (.number (.double (Binary64.zero false)))
    | .decimal value, "real" => some (.number (.decimal value))
    | .decimal _, "imag" => some (.number (.decimal (.finite false 0 0)))
    | _, _ => none
  /-- The members of a day. -/
  dateComponent? : Date → String → Option Value
    | value, "year" => some (integer value.year)
    | value, "month" => some (integer value.month)
    | value, "day" => some (integer value.day)
    | _, _ => none

/-- The member of a value that is not null: what a map binds to a name, or an attribute. -/
def member? (context : Context) : Value → String → Option Value
  | .map members, name => Bindings.get? members name
  | value, name =>
      match value.component? name with
      | some component => some component
      | none => context.attribute? value name

/-- Follow the members of a path. Null has every member, and each of them is null. -/
def follow (context : Context) (path : Path) : Value → List String → Evaluated Value
  | value, [] => .ok value
  | .null, _ => .ok .null
  | value, member :: rest =>
      match value.member? context member with
      | some next => follow context path next rest
      | none => .error (.failure (.noMember path member))

/-- The result of a comparison, which is null if an order relation meets null. -/
def compareWith : Comparison → Value → Value → Evaluated Value
  | .equal, left, right => (Evaluated.ofFault (left.equals right)).map .boolean
  | .notEqual, left, right => (Evaluated.ofFault (left.equals right)).map fun equal => .boolean !equal
  | .relation relation, left, right =>
      if left.isNull || right.isNull then .ok .null
      else if left.comparable right then
        (Evaluated.ofFault (relate relation left right)).map .boolean
      else .error (.failure (.notComparable left.typeName right.typeName))

/-- The result of an operation on two numbers. -/
def calculate (operation : Arithmetic) (left right : Number) : Evaluated Value :=
  match Number.meeting left right with
  | .error fault => .error (.fault fault)
  | .ok (left, right) =>
      if operation = .div ∧ right.isZero then .error (.failure .divisionByZero)
      else (Evaluated.ofFault (Number.apply operation left right)).map .number

/-- The result of an operation, which is null if an operand is. Texts can be added. -/
def applyArithmetic (operation : Arithmetic) : Value → Value → Evaluated Value
  | .null, _ => .ok .null
  | _, .null => .ok .null
  | .number left, .number right => calculate operation left right
  | .text left, .text right =>
      if operation = .add then .ok (.text (left ++ right))
      else .error (.failure (.notApplicable operation "str" "str"))
  | left, right => .error (.failure (.notApplicable operation left.typeName right.typeName))

/-- The result of changing the sign. -/
def negate : Value → Evaluated Value
  | .null => .ok .null
  | .number value => (Evaluated.ofFault value.negate).map .number
  | value => .error (.failure (.cannotNegate value.typeName))

def truth (operator : String) : Value → Evaluated (Option Bool)
  | .null => .ok none
  | .boolean value => .ok (some value)
  | value => .error (.failure (.notBoolean operator value.typeName))

/-- A truth value as a result. -/
def ofTruth : Option Bool → Value
  | none => .null
  | some value => .boolean value

/-- Conjunction of three truth values: false decides, then the unknown. -/
def bothTrue : Option Bool → Option Bool → Option Bool
  | some false, _ => some false
  | _, some false => some false
  | some true, some true => some true
  | _, _ => none

/-- Disjunction of three truth values: true decides, then the unknown. -/
def eitherTrue : Option Bool → Option Bool → Option Bool
  | some true, _ => some true
  | _, some true => some true
  | some false, some false => some false
  | _, _ => none

/-- A refusal to convert as an outcome of evaluation. -/
def convertStrictly (typeRef : String) (value : Value) : Evaluated Value :=
  match value.coerce true (some typeRef) with
  | .ok converted => .ok converted
  | .error (.conversion error) => .error (.failure (.notConvertible error))
  | .error (.fault fault) => .error (.fault fault)

/-- The result of a function. Conversion to a text leaves what it cannot convert. -/
def callFunction : Function → Value → Evaluated Value
  | .date, value => convertStrictly "date" value
  | .number, value => convertStrictly "number" value
  | .string, value =>
      match value.coerce false (some "string") with
      | .ok converted => .ok converted
      | .error _ => .ok value

end Value

namespace Expression

def evaluate (environment : Environment) : Expression → Evaluated Value
  | .literal value => .ok value
  | .subject => .ok environment.subject
  | .name path =>
      match environment.bindings.get? path.head with
      | some value => value.follow environment.toContext path path.members
      | none => .error (.failure (.unknownVariable path.head))
  | .negate operand => do
      let value ← operand.evaluate environment
      value.negate
  | .complement operand => do
      let value ← operand.evaluate environment
      let truth ← value.truth "not"
      return Value.ofTruth (truth.map not)
  | .arithmetic operation left right => do
      let leftValue ← left.evaluate environment
      let rightValue ← right.evaluate environment
      Value.applyArithmetic operation leftValue rightValue
  | .compare comparison left right => do
      let leftValue ← left.evaluate environment
      let rightValue ← right.evaluate environment
      Value.compareWith comparison leftValue rightValue
  | .conjunction left right => do
      let leftTruth ← (← left.evaluate environment).truth "and"
      let rightTruth ← (← right.evaluate environment).truth "and"
      return Value.ofTruth (Value.bothTrue leftTruth rightTruth)
  | .disjunction left right => do
      let leftTruth ← (← left.evaluate environment).truth "or"
      let rightTruth ← (← right.evaluate environment).truth "or"
      return Value.ofTruth (Value.eitherTrue leftTruth rightTruth)
  | .call function argument => do
      let value ← argument.evaluate environment
      Value.callFunction function value

end Expression

end DecisionTables
