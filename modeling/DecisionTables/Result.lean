import DecisionTables.Value.Equality
import DecisionTables.Value.Text

/-!
# Results

The result of a decision is a sequence of entries, one for each rule that is kept or one for an
aggregation. An entry holds one named value for each output column, in the order of the columns.
-/

namespace DecisionTables

/-- A value of an entry. -/
structure OutputValue where
  name : String
  value : Value
  typeRef : Option String

/-- The values of one rule or of an aggregation. -/
structure OutputEntry where
  values : List OutputValue

/-- The result of a decision. -/
structure ResultSet where
  entries : List OutputEntry

/-- Why a result is not a single value. -/
inductive ShapeError where
  | entryLength (count : Nat)
  | resultLength (count : Nat)

def ShapeError.message : ShapeError → String
  | .entryLength count =>
      "Expected a single output value but the entry has " ++ toString count ++ "."
  | .resultLength count =>
      "Expected at most one output entry but the result has " ++ toString count ++ "."

/-- The position that an index means, where negative indices count from the end. -/
def positionOf? (length : Nat) (index : Int) : Option Nat :=
  let position := if index < 0 then index + length else index
  if 0 ≤ position ∧ position < length then some position.toNat else none

/-- Whether two output values agree in name, value and type. The values are compared only if the names
are the same. -/
def OutputValue.agrees (left right : OutputValue) : Except Fault Bool :=
  if left.name = right.name then
    (Value.matchesMember left.value right.value).map fun same =>
      same && left.typeRef == right.typeRef
  else .ok false

/-- Whether two lists have the same length and agree item by item, up to the first items that do
not. -/
def agreeAll {α : Type} (agree : α → α → Except Fault Bool) : List α → List α → Except Fault Bool
  | [], [] => .ok true
  | left :: lefts, right :: rights => do
      if ← agree left right then agreeAll agree lefts rights else return false
  | _, _ => .ok false

namespace OutputEntry

/-- Whether two entries hold the same values. -/
def agrees (left right : OutputEntry) : Except Fault Bool :=
  agreeAll OutputValue.agrees left.values right.values

def at? (entry : OutputEntry) (index : Int) : Option OutputValue :=
  (positionOf? entry.values.length index).bind (entry.values[·]?)

/-- The value of a name. -/
def get? (entry : OutputEntry) (name : String) : Option Value :=
  (entry.values.find? fun output => output.name == name).map OutputValue.value

def contains (entry : OutputEntry) (name : String) : Bool :=
  entry.values.any fun output => output.name == name

/-- The names in the order of the columns. -/
def names (entry : OutputEntry) : List String :=
  entry.values.map OutputValue.name

def toMap (entry : OutputEntry) : Bindings :=
  Bindings.ofList (entry.values.map fun output => (output.name, output.value))

def singleValue (entry : OutputEntry) : Except ShapeError OutputValue :=
  match entry.values with
  | [output] => .ok output
  | outputs => .error (.entryLength outputs.length)

def text (entry : OutputEntry) : Except Fault String :=
  (Value.map entry.toMap).quoted.map fun members => "OutputEntry(" ++ members ++ ")"

/-- Whether the entry can be a key: none of its values is a list, a map or a signaling
not-a-number. -/
def isKey (entry : OutputEntry) : Bool :=
  entry.values.all fun output =>
    match output.value with
    | .list _ => false
    | .map _ => false
    | .number number => !number.isSignaling
    | _ => true

end OutputEntry

namespace ResultSet

/-- Whether two results hold the same entries. -/
def agrees (left right : ResultSet) : Except Fault Bool :=
  agreeAll OutputEntry.agrees left.entries right.entries

def isEmpty (result : ResultSet) : Bool := result.entries.isEmpty

def at? (result : ResultSet) (index : Int) : Option OutputEntry :=
  (positionOf? result.entries.length index).bind (result.entries[·]?)

def first? (result : ResultSet) : Option OutputEntry := result.entries.head?

def singleEntry (result : ResultSet) : Except ShapeError (Option OutputEntry) :=
  match result.entries with
  | [] => .ok none
  | [entry] => .ok (some entry)
  | entries => .error (.resultLength entries.length)

def singleValue (result : ResultSet) : Except ShapeError Value := do
  match ← result.singleEntry with
  | none => return .null
  | some entry => return (← entry.singleValue).value

/-- The values of a name in all entries that have it. -/
def collect (result : ResultSet) (name : String) : List Value :=
  result.entries.filterMap fun entry => entry.get? name

def toMaps (result : ResultSet) : List Bindings :=
  result.entries.map OutputEntry.toMap

def text (result : ResultSet) : Except Fault String :=
  (Value.list (result.toMaps.map Value.map)).quoted.map fun items => "ResultSet(" ++ items ++ ")"

/-- Whether the result can be a key. -/
def isKey (result : ResultSet) : Bool := result.entries.all OutputEntry.isKey

end ResultSet

end DecisionTables
