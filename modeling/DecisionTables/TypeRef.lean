import DecisionTables.Text.Case
import DecisionTables.Value.Text

/-!
# Declared types

A column may declare the type of its values by name. Values are converted to a declared type that is
known; another name leaves them as they are, and null always stays null. In strict mode a value that
cannot be converted is refused, otherwise it passes unchanged.
-/

namespace DecisionTables

/-- A type that values can be converted to. -/
inductive ValueType where
  | string | integer | long | double | number | boolean | date
  deriving DecidableEq

namespace ValueType

def ofName? : String → Option ValueType
  | "string" => some .string
  | "integer" => some .integer
  | "long" => some .long
  | "double" => some .double
  | "number" => some .number
  | "boolean" => some .boolean
  | "date" => some .date
  | _ => none

end ValueType

namespace Conversion

def toInteger? : Value → Option Value
  | .number number => number.integral?.map Value.integer
  | .text text => (Numeral.integer? text).map Value.integer
  | _ => none

def toDouble? : Value → Option Value
  | .number number =>
      match number.toDouble with
      | .ok double => some (.number (.double double))
      | .error _ => none
  | .text text => (Numeral.double? text).map fun double => .number (.double double)
  | _ => none

/-- The number that a value converts to. Integers and doubles stay as they are, and a decimal number
becomes an integer if it equals one. -/
def toNumber? : Value → Option Value
  | .number (.decimal decimal) =>
      match decimal with
      | .finite .. =>
          match (Number.decimal decimal).integral? with
          | some whole => some (Value.integer whole)
          | none => decimal.toDouble?.map fun double => .number (.double double)
      | _ => none
  | .number number => some (.number number)
  | .text text =>
      match Numeral.integer? text with
      | some whole => some (Value.integer whole)
      | none => (Numeral.double? text).map fun double => .number (.double double)
  | _ => none

def toBoolean? : Value → Option Value
  | .boolean value => some (.boolean value)
  | .text text =>
      let name := Text.lower (Text.trim text)
      if name == "true" then some (.boolean true)
      else if name == "false" then some (.boolean false)
      else none
  | _ => none

def toDate? : Value → Option Value
  | .date date => some (.date date)
  | .moment moment => some (.date moment.date)
  | .text text => (Date.ofIso? (Text.trim text)).map .date
  | _ => none

def toText? : Value → Option Value
  | .boolean value => some (.text (if value then "true" else "false"))
  | value =>
      match value.plain with
      | .ok text => some (.text text)
      | .error _ => none

end Conversion

/-- The value that a value other than null converts to. -/
def ValueType.convert? : ValueType → Value → Option Value
  | .string => Conversion.toText?
  | .integer => Conversion.toInteger?
  | .long => Conversion.toInteger?
  | .double => Conversion.toDouble?
  | .number => Conversion.toNumber?
  | .boolean => Conversion.toBoolean?
  | .date => Conversion.toDate?

namespace TypeRef

/-- The characters after the last colon, or all of them if there is none. -/
def afterLastColon (characters : List Char) : List Char :=
  (characters.reverse.takeWhile (· != ':')).reverse

/-- The normalised form of a type name: without blanks around it and without a namespace, in lower
case. A name of which nothing is left declares no type. -/
def normalize (name : String) : Option String :=
  let normal := Text.lower (String.ofList (afterLastColon (Text.trimmed name.toList)))
  if normal.isEmpty then none else some normal

/-- Whether values are converted to the type of a normalised name. -/
def isKnown (name : String) : Bool :=
  (ValueType.ofName? name).isSome

end TypeRef

/-- A value that could not be converted to the type of a name. -/
structure ConversionError where
  value : Value
  typeRef : String
  /-- The quoted form of the value. -/
  quoted : String

def ConversionError.message (error : ConversionError) : String :=
  "Cannot convert " ++ error.quoted ++ " to type '" ++ error.typeRef ++ "'"

/-- Why a value is not converted: it cannot be, or that it cannot be is not even expressible. -/
inductive Refusal where
  | conversion (error : ConversionError)
  | fault (fault : Fault)

namespace Value

/-- The value that a value is converted to under a declared type, or `none` if it cannot be. -/
def convert? (typeRef : Option String) (value : Value) : Option Value :=
  match value, typeRef.bind ValueType.ofName? with
  | .null, _ => some .null
  | value, some type => type.convert? value
  | value, none => some value

def refuse (typeRef : String) (value : Value) : Refusal :=
  match value.quoted with
  | .ok quoted => .conversion ⟨value, typeRef, quoted⟩
  | .error fault => .fault fault

/-- A value brought to a declared type, which is given by its normalised name. -/
def coerce (strict : Bool) (typeRef : Option String) (value : Value) : Except Refusal Value :=
  match value.convert? typeRef with
  | some converted => .ok converted
  | none => if strict then .error (refuse (typeRef.getD "") value) else .ok value

end Value

end DecisionTables
