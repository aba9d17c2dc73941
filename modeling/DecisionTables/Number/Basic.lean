import DecisionTables.Fault
import DecisionTables.Number.Decimal

/-!
# Numbers

The three kinds of numbers and their common arithmetic. Integers and doubles meet as doubles, and a
decimal number meets a number of another kind as a double too, so that decimal arithmetic is only
between decimal numbers. Comparison is exact between all kinds: it looks at exact values and never
rounds. A signaling not-a-number cannot even be compared for equality.
-/

namespace DecisionTables

/-- A number of one of the three kinds. -/
inductive Number where
  | integer (value : Int)
  | double (value : Binary64)
  | decimal (value : Decimal)
  deriving DecidableEq

/-- The four operations of arithmetic. -/
inductive Arithmetic where
  | add | sub | mul | div
  deriving DecidableEq

/-- The four order relations. -/
inductive Relation where
  | less | atMost | greater | atLeast
  deriving DecidableEq

/-- Whether a relation holds between two values in the given order. -/
def Relation.holds : Relation → Ordering → Bool
  | .less, order => order == .lt
  | .atMost, order => order != .gt
  | .greater, order => order == .gt
  | .atLeast, order => order != .lt

namespace Number

def isDecimal : Number → Bool
  | .decimal _ => true
  | _ => false

def isSignaling : Number → Bool
  | .decimal value => value.isSignaling
  | _ => false

/-- The exact value, which a not-a-number does not have. -/
def extended? : Number → Option Extended
  | .integer value => some (.finite (Fraction.ofInt value))
  | .double value => value.extended?
  | .decimal value => value.extended?

/-- Whether two numbers have the same exact value. -/
def equal (left right : Number) : Bool :=
  match left.extended?, right.extended? with
  | some leftValue, some rightValue => leftValue.order rightValue == .eq
  | _, _ => false

/-- Whether two numbers compare as equal, unless one of them is signaling. -/
def equality (left right : Number) : Except Fault Bool :=
  if left.isSignaling || right.isSignaling then .error .invalidDecimal else .ok (left.equal right)

/-- Whether an order relation holds between two numbers. A not-a-number stands in no relation, and
it cannot be ordered at all where decimal numbers take part. -/
def relate (relation : Relation) (left right : Number) : Except Fault Bool :=
  match left.extended?, right.extended? with
  | some leftValue, some rightValue => .ok (relation.holds (leftValue.order rightValue))
  | _, _ => if left.isDecimal || right.isDecimal then .error .invalidDecimal else .ok false

def isZero : Number → Bool
  | .integer value => value == 0
  | .double value => value.isZero
  | .decimal value => value.isZero

/-- The double nearest to a number. An integer beyond the largest double and a signaling not-a-number
have none, while a decimal number beyond it becomes infinite. -/
def toDouble : Number → Except Fault Binary64
  | .integer value =>
      match Binary64.ofInt? value with
      | some nearest => .ok nearest
      | none => .error .outOfRange
  | .double value => .ok value
  | .decimal value =>
      match value.toDouble? with
      | some nearest => .ok nearest
      | none => .error .signalingDouble

def ofDecimal : Except DecimalFault Decimal → Except Fault Number
  | .ok value => .ok (.decimal value)
  | .error .invalid => .error .invalidDecimal
  | .error .overflow => .error .decimalOverflow

def negate : Number → Except Fault Number
  | .integer value => .ok (.integer (-value))
  | .double value => .ok (.double value.negate)
  | .decimal value => ofDecimal value.negate

/-- An operation on two integers, of which the second is not zero in a division. -/
def onIntegers : Arithmetic → Int → Int → Except Fault Number
  | .add, left, right => .ok (.integer (left + right))
  | .sub, left, right => .ok (.integer (left - right))
  | .mul, left, right => .ok (.integer (left * right))
  | .div, left, right =>
      match Binary64.ofQuotient? left right with
      | some nearest => .ok (.double nearest)
      | none => .error .outOfRange

/-- An operation on two doubles, of which the second is not zero in a division. -/
def onDoubles : Arithmetic → Binary64 → Binary64 → Binary64
  | .add, left, right => left.add right
  | .sub, left, right => left.sub right
  | .mul, left, right => left.mul right
  | .div, left, right => left.div right

/-- An operation on two decimal numbers, of which the second is not zero in a division. -/
def onDecimals : Arithmetic → Decimal → Decimal → Except Fault Number
  | .add, left, right => ofDecimal (left.add right)
  | .sub, left, right => ofDecimal (left.sub right)
  | .mul, left, right => ofDecimal (left.mul right)
  | .div, left, right => ofDecimal (left.div right)

/-- The operands as they meet: where exactly one is a decimal number, both are turned into
doubles. -/
def meeting (left right : Number) : Except Fault (Number × Number) :=
  if left.isDecimal == right.isDecimal then .ok (left, right)
  else do
    let leftDouble ← left.toDouble
    let rightDouble ← right.toDouble
    return (.double leftDouble, .double rightDouble)

/-- An operation on numbers that have met, of which the second is not zero in a division. -/
def apply (operation : Arithmetic) : Number → Number → Except Fault Number
  | .integer left, .integer right => onIntegers operation left right
  | .decimal left, .decimal right => onDecimals operation left right
  | left, right => do
      let leftDouble ← left.toDouble
      let rightDouble ← right.toDouble
      return .double (onDoubles operation leftDouble rightDouble)

/-- The result of adding to a running total. Unlike `meeting` this lets an integer join a decimal
number exactly. -/
def accumulate : Number → Number → Except Fault Number
  | .integer left, .decimal right => onDecimals .add (Decimal.ofInt left) right
  | .decimal left, .integer right => onDecimals .add left (Decimal.ofInt right)
  | left, right => apply .add left right

/-- The integer part of a number that is not infinite. -/
def truncate? : Number → Option Int
  | .integer value => some value
  | .double value =>
      match value.extended? with
      | some (.finite fraction) => some fraction.truncate
      | _ => none
  | .decimal value => value.truncate?

/-- The integer that a number equals. -/
def integral? (number : Number) : Option Int :=
  match number.truncate? with
  | some whole => if number.equal (.integer whole) then some whole else none
  | none => none

end Number

end DecisionTables
