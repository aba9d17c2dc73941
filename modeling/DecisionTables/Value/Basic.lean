import DecisionTables.Calendar.Moment
import DecisionTables.Number.Basic

/-!
# Values

The values that variables are bound to and that expressions compute. A map keeps its members in the
order in which they were added, and no two of them have the same name.

A value that is of none of these kinds, such as a span of time or a function, is an object. Nothing is
computed with objects: they have a type, two text forms and perhaps an order among those of their type,
and they can be told apart.
-/

namespace DecisionTables

/-- A value that the language computes nothing with. Objects of one type that both have a rank are
ordered by it. -/
structure Object where
  type : String
  identity : Nat
  rank : Option Int
  quoted : String
  plain : String
  deriving DecidableEq

/-- A value of the expression language. -/
inductive Value where
  | null
  | boolean (value : Bool)
  | number (value : Number)
  | text (value : String)
  | date (value : Date)
  | moment (value : Moment)
  | object (value : Object)
  | list (items : List Value)
  | map (members : List (String × Value))

/-- Variables, or the members of a map, in the order in which they were added. -/
abbrev Bindings := List (String × Value)

namespace Bindings

def get? (bindings : Bindings) (name : String) : Option Value :=
  (bindings.find? fun binding => binding.1 == name).map Prod.snd

/-- Bind a name. A name that is bound already keeps its place and takes the new value. -/
def bind (name : String) (value : Value) : Bindings → Bindings
  | [] => [(name, value)]
  | binding :: rest =>
      if binding.1 == name then (name, value) :: rest else binding :: bind name value rest

/-- The bindings that a list of pairs makes, added one after the other. -/
def ofList (pairs : List (String × Value)) : Bindings :=
  pairs.foldl (fun bindings pair => bindings.bind pair.1 pair.2) []

end Bindings

namespace Value

def integer (value : Int) : Value := .number (.integer value)

def number? : Value → Option Number
  | .number value => some value
  | _ => none

/-- Whether the value is a number; a boolean is none. -/
def isNumber : Value → Bool
  | .number _ => true
  | _ => false

def isNull : Value → Bool
  | .null => true
  | _ => false

def isBoolean : Value → Bool
  | .boolean _ => true
  | _ => false

/-- The name of the value's type in messages. -/
def typeName : Value → String
  | .null => "null"
  | .boolean _ => "bool"
  | .number (.integer _) => "int"
  | .number (.double _) => "float"
  | .number (.decimal _) => "Decimal"
  | .text _ => "str"
  | .date _ => "date"
  | .moment _ => "datetime"
  | .object value => value.type
  | .list _ => "list"
  | .map _ => "dict"

/-- The number that a boolean counts as inside containers and aggregations: one or zero. -/
def countOf (value : Bool) : Number := .integer (if value then 1 else 0)

end Value

end DecisionTables
