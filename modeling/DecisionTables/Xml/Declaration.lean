import DecisionTables.Text.Split
import DecisionTables.Xml.Character

/-!
# The declaration of a document

A document may begin with a declaration of its version, its encoding and whether it stands alone, in
this order. The version has to be given and may be any; an encoding is kept by name.
-/

namespace DecisionTables.Xml

/-- What a document declares about itself. -/
structure Declaration where
  encoding : Option String
  standalone : Bool

namespace Declaration

/-- The declaration of a document that has none. -/
def absent : Declaration := ⟨none, false⟩

def isValueCharacter (character : Char) : Bool :=
  character.isAlphanum || character == '.' || character == '-' || character == '_'

/-- A name, an equals sign and a quoted value at the front, with a blank before them. -/
def item? (characters : List Char) : Option ((String × String) × List Char) := do
  guard ((characters.head?.map isSpace).getD false)
  let characters := characters.dropWhile isSpace
  let name := characters.takeWhile Char.isAlpha
  let rest ← Text.after? ['='] ((characters.dropWhile Char.isAlpha).dropWhile isSpace)
  match rest.dropWhile isSpace with
  | [] => none
  | mark :: rest =>
      guard (mark == '"' || mark.toNat == 0x27)
      let rest' ← Text.after? [mark] (rest.dropWhile isValueCharacter)
      return ((String.ofList name, String.ofList (rest.takeWhile isValueCharacter)), rest')

/-- The items of a declaration, of which there are at most three. -/
def items? : (bound : Nat) → List Char → Option (List (String × String))
  | 0, characters => if characters.all isSpace then some [] else none
  | bound + 1, characters =>
      if characters.all isSpace then some []
      else do
        let (item, rest) ← item? characters
        let others ← items? bound rest
        return item :: others

/-- Whether a text may name an encoding: it starts with a letter. -/
def isEncodingName (name : String) : Bool :=
  (name.toList.head?.map Char.isAlpha).getD false

def standalone? : String → Option Bool
  | "yes" => some true
  | "no" => some false
  | _ => none

/-- The declaration that the characters between `<?xml` and `?>` make. -/
def parse? (characters : List Char) : Option Declaration := do
  match ← items? 3 characters with
  | [("version", _)] => return absent
  | [("version", _), ("encoding", name)] =>
      if isEncodingName name then return ⟨some name, false⟩ else none
  | [("version", _), ("standalone", word)] => return ⟨none, ← standalone? word⟩
  | [("version", _), ("encoding", name), ("standalone", word)] =>
      if isEncodingName name then return ⟨some name, ← standalone? word⟩ else none
  | _ => none

/-- The characters between `<?xml` and `?>` at the front of a document, if it has a declaration. -/
def body? (characters : List Char) : Option (List Char) :=
  match Text.after? ['<', '?', 'x', 'm', 'l'] characters with
  | none => none
  | some [] => none
  | some (next :: rest) =>
      if continuesName next then none
      else (Text.around? ['?', '>'] (next :: rest)).map Prod.fst

/-- The number of characters that a declaration with a body takes up. -/
def length (body : List Char) : Nat := body.length + 7

end Declaration

end DecisionTables.Xml
