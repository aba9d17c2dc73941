import DecisionTables.Text.Blank

/-!
# Lists of output values

The allowed values of an output column are declared as one text. Commas separate them, except inside
quotation marks and brackets. Blanks around a value do not belong to it, and neither a comma at the
end nor blanks after it make another value.
-/

namespace DecisionTables.OutputValues

/-- How deep a place lies in brackets, and whether it is quoted. -/
structure Nesting where
  depth : Int
  quoted : Bool
  deriving DecidableEq

namespace Nesting

/-- The place before any character. -/
def outside : Nesting := ⟨0, false⟩

/-- The place after a character. -/
def after (place : Nesting) (character : Char) : Nesting :=
  if character == '"' then { place with quoted := !place.quoted }
  else if place.quoted then place
  else if character == '(' || character == '[' then { place with depth := place.depth + 1 }
  else if character == ')' || character == ']' then { place with depth := place.depth - 1 }
  else place

/-- Whether a comma at a place separates values. -/
def separates (place : Nesting) : Bool :=
  place.depth == 0 && !place.quoted

end Nesting

/-- The values in the characters from a place on, given those of the current value in reverse. -/
def splitFrom : Nesting → List Char → List Char → List (List Char)
  | _, current, [] =>
      let last := Text.trimmed current.reverse
      if last.isEmpty then [] else [last]
  | place, current, character :: rest =>
      if character == ',' && place.separates then
        Text.trimmed current.reverse :: splitFrom place [] rest
      else splitFrom (place.after character) (character :: current) rest

/-- The values that a text lists. -/
def split (text : String) : List String :=
  (splitFrom .outside [] text.toList).map String.ofList

end DecisionTables.OutputValues
