import DecisionTables.Value.Basic

/-!
# Equality of values

There are two equalities. Plain equality compares members of containers, collected outputs and
priorities: numbers of all kinds by exact value, booleans as one and zero, maps without regard to
order. The equality of the language refines it at the top: null equals only null, and a boolean
never equals a value of another type.

A container also recognises a member that is the very same not-a-number. Members are compared one
after the other up to the first difference. No equality can be told where a signaling not-a-number is
compared with a number, so that comparing is a fault there.
-/

namespace DecisionTables

/-- The label of a not-a-number that was read and not computed. -/
def Number.label? : Number → Option Nat
  | .double (.nan label) => label
  | .decimal (.nan _ _ label) => label
  | .decimal (.signaling _ _ label) => label
  | _ => none

namespace Value

/-- Whether two values are the same labelled not-a-number. -/
def sameNotANumber : Value → Value → Bool
  | .number (.double left), .number (.double right) =>
      (Number.double left).label?.isSome &&
        (Number.double left).label? == (Number.double right).label?
  | .number (.decimal left), .number (.decimal right) =>
      (Number.decimal left).label?.isSome &&
        (Number.decimal left).label? == (Number.decimal right).label?
  | _, _ => false

mutual

def plainEqual : Value → Value → Except Fault Bool
  | .null, .null => .ok true
  | .boolean left, .boolean right => .ok (left == right)
  | .boolean left, .number right => (countOf left).equality right
  | .number left, .boolean right => left.equality (countOf right)
  | .number left, .number right => left.equality right
  | .text left, .text right => .ok (left == right)
  | .date left, .date right => .ok (left == right)
  | .moment left, .moment right => .ok (left.equal right)
  | .object left, .object right => .ok (left.identity == right.identity)
  | .list left, .list right =>
      if left.length = right.length then itemsEqual left right else .ok false
  | .map left, .map right =>
      if left.length = right.length then membersEqual left right else .ok false
  | _, _ => .ok false

def itemsEqual : List Value → List Value → Except Fault Bool
  | [], [] => .ok true
  | left :: lefts, right :: rights => do
      let same ← if sameNotANumber left right then .ok true else plainEqual left right
      if same then itemsEqual lefts rights else return false
  | _, _ => .ok false

/-- Whether every member of the first map has an equal member of the same name in the second. -/
def membersEqual : List (String × Value) → List (String × Value) → Except Fault Bool
  | [], _ => .ok true
  | (name, left) :: lefts, rights => do
      let same ←
        match Bindings.get? rights name with
        | some right => if sameNotANumber left right then .ok true else plainEqual left right
        | none => .ok false
      if same then membersEqual lefts rights else return false

end

/-- Equality as a container and a result see it: plainly equal, or the very same not-a-number. -/
def matchesMember (left right : Value) : Except Fault Bool :=
  if sameNotANumber left right then .ok true else plainEqual left right

/-- Equality of the language. -/
def equals (left right : Value) : Except Fault Bool :=
  match left, right with
  | .null, .null => .ok true
  | .null, _ => .ok false
  | _, .null => .ok false
  | _, _ => if left.isBoolean == right.isBoolean then plainEqual left right else .ok false

end Value

end DecisionTables
