import DecisionTables.Xml.Encoding
import DecisionTables.Xml.Markup

/-!
# Document type declarations

What a document defines before its content: the replacement texts of entities and the types and
defaults of attributes. Only what stands in the document itself is read. Once it refers to something
outside, later definitions do not count unless the document stands alone, and an attribute value may
refer to entities that are not known.
-/

namespace DecisionTables.Xml

/-- What an entity stands for. -/
inductive Entity where
  | internal (replacement : List Char)
  /-- Content that is kept elsewhere or that is not text. -/
  | external

/-- A declared attribute of an element. -/
structure AttributeDefinition where
  element : QualifiedName
  name : QualifiedName
  /-- Whether the value is free text, as opposed to a list of tokens. -/
  isText : Bool
  default : Option String

/-- What a document defines. -/
structure Definitions where
  entities : List (String × Entity)
  attributes : List AttributeDefinition
  /-- Whether the document refers to definitions that are not read. -/
  partly : Bool
  /-- Whether such definitions come before those that follow. -/
  interrupted : Bool
  standalone : Bool

namespace Definitions

/-- The definitions of a document that makes none. -/
def nothing (standalone : Bool) : Definitions := ⟨[], [], false, false, standalone⟩

/-- Whether a reference to an unknown entity in an attribute value is passed over. -/
def toleratesUnknown (definitions : Definitions) : Bool :=
  definitions.partly && !definitions.standalone

/-- Whether further definitions do not count. -/
def isClosed (definitions : Definitions) : Bool :=
  definitions.interrupted && !definitions.standalone

/-- The entities that are left when one is being replaced. -/
def without (name : String) (entities : List (String × Entity)) : List (String × Entity) :=
  entities.filter fun entity => entity.1 != name

theorem without_length {name : String} {entities : List (String × Entity)} {entity : Entity}
    (found : entities.lookup name = some entity) :
    (without name entities).length < entities.length := by
  induction entities with
  | nil => simp at found
  | cons first rest ih =>
      obtain ⟨key, held⟩ := first
      rw [List.lookup_cons] at found
      split at found
      · rename_i same
        have dropped : (key != name) = false := by
          rw [eq_of_beq same]
          exact bne_self_eq_false' key
        have := List.length_filter_le (fun entity : String × Entity => entity.1 != name) rest
        simp only [without, List.filter_cons, dropped, List.length_cons, Bool.false_eq_true, if_false]
        omega
      · have := ih found
        simp only [without, List.filter_cons, List.length_cons] at *
        split
        · simp only [List.length_cons]
          omega
        · omega

/-- The characters of an attribute value. White space that is written, but not referred to, becomes
spaces. An entity is not replaced inside its own replacement. -/
def expand? (definitions : Definitions) :
    (available : List (String × Entity)) → List Piece → Option (List Char)
  | _, [] => some []
  | available, .plain characters :: rest => do
      let others ← expand? definitions available rest
      return characters.map (fun character => if isSpace character then ' ' else character) ++ others
  | available, .character value :: rest => do
      let others ← expand? definitions available rest
      return value :: others
  | available, .entity name :: rest =>
      match _found : available.lookup name with
      | some (.internal replacement) => do
          let pieces ← Markup.attributeValue? replacement
          let inner ← expand? definitions (without name available) pieces
          let others ← expand? definitions available rest
          return inner ++ others
      | some .external => none
      | none =>
          if definitions.toleratesUnknown && (definitions.entities.lookup name).isNone then
            expand? definitions available rest
          else none
termination_by available pieces => (available.length, pieces.length)
decreasing_by
  all_goals first
    | exact Prod.Lex.left _ _ (without_length _found)
    | exact Prod.Lex.right _ (by simp)

/-- A list of tokens with single spaces between them. -/
def tokens (characters : List Char) : List Char :=
  let words := (Text.splitFrom ' ' [] characters).filter fun word => !word.isEmpty
  (words.intersperse [' ']).flatten

/-- The value of an attribute that is free text or a list of tokens. -/
def value? (definitions : Definitions) (isText : Bool) (pieces : List Piece) : Option String := do
  let characters ← definitions.expand? definitions.entities pieces
  return String.ofList (if isText then characters else tokens characters)

def attribute? (definitions : Definitions) (element name : QualifiedName) :
    Option AttributeDefinition :=
  definitions.attributes.find? fun declared =>
    declared.element == element && declared.name == name

/-- The defaults of the attributes of an element. -/
def defaults (definitions : Definitions) (element : QualifiedName) :
    List (QualifiedName × String) :=
  definitions.attributes.filterMap fun declared =>
    if declared.element == element then declared.default.map (declared.name, ·) else none

end Definitions

namespace Doctype

/-- The characters after at least one space. -/
def spaced? (characters : List Char) : Option (List Char) :=
  if (characters.head?.map isSpace).getD false then some (characters.dropWhile isSpace) else none

/-- A name without a colon at the front and the characters after it. -/
def name? (characters : List Char) : Option (String × List Char) :=
  let name := characters.takeWhile continuesName
  if isName name then some (String.ofList name, characters.dropWhile continuesName) else none

def qualifiedName? (characters : List Char) : Option (QualifiedName × List Char) := do
  let name ← QualifiedName.ofCharacters? (characters.takeWhile Markup.isNamePart)
  return (name, characters.dropWhile Markup.isNamePart)

def isPublicCharacter (character : Char) : Bool :=
  character.isAlphanum || character.toNat == 0x27 ||
    " \n-()+,./:=?;!*#@$_%".toList.contains character

/-- The characters after a public identifier. -/
def afterPublic? (characters : List Char) : Option (List Char) := do
  let start ← spaced? (← Text.after? "PUBLIC".toList characters)
  let (identifier, rest) ← Markup.quoted? start
  guard (identifier.all isPublicCharacter)
  return rest

/-- The characters after an identifier of content that is kept elsewhere. -/
def afterExternal? (characters : List Char) : Option (List Char) :=
  match afterPublic? characters with
  | some rest => do
      let (_, rest) ← Markup.quoted? (← spaced? rest)
      return rest
  | none => do
      let start ← spaced? (← Text.after? "SYSTEM".toList characters)
      let (_, rest) ← Markup.quoted? start
      return rest

/-- The part of an entity value that a reference with a body stands for: a character for its code,
and the reference itself for a name. -/
def referencePart? (body : List Char) : Option (List Char) :=
  match Piece.reference? body with
  | some (.character value) =>
      if body.head? == some '#' then some [value] else some ('&' :: body ++ [';'])
  | some _ => some ('&' :: body ++ [';'])
  | none => none

/-- The parts of an entity value, split at its references. -/
def replacementParts? : List Char → Option (List (List Char))
  | [] => some []
  | first :: rest =>
      if first == '&' then
        match _found : Text.around? [';'] rest with
        | none => none
        | some (body, tail) => do
            let part ← referencePart? body
            let others ← replacementParts? tail
            return part :: others
      else (replacementParts? rest).map ([first] :: ·)
termination_by characters => characters.length
decreasing_by
  · have := Text.around?_length _found
    simp only [List.length_cons]
    omega
  · simp only [List.length_cons]
    omega

/-- The replacement text that an entity value stands for: references to characters are resolved,
those to entities are kept. -/
def replacement? (characters : List Char) : Option (List Char) :=
  if characters.contains '%' then none else (replacementParts? characters).map List.flatten

/-- Definitions with one entity more. The first definition of a name counts. -/
def addEntity (name : String) (entity : Entity) (definitions : Definitions) : Definitions :=
  if definitions.isClosed || (definitions.entities.lookup name).isSome then definitions
  else { definitions with entities := definitions.entities ++ [(name, entity)] }

/-- Definitions after the declaration of an entity. A parameter entity is not kept. -/
def entity? (definitions : Definitions) (characters : List Char) : Option Definitions := do
  let start ← spaced? characters
  let parameter := (Text.after? ['%'] start).isSome
  let start ← match Text.after? ['%'] start with
    | some rest => spaced? rest
    | none => some start
  let (name, rest) ← name? start
  let rest ← spaced? rest
  match Markup.quoted? rest with
  | some (value, tail) =>
      guard (tail.all isSpace)
      let replacement ← replacement? value
      return if parameter then definitions else addEntity name (.internal replacement) definitions
  | none =>
      let tail ← afterExternal? rest
      let closed := tail.all isSpace
      guard (closed || (!parameter && (unparsed? tail).isSome))
      return if parameter then definitions else addEntity name .external definitions
where
  /-- The notation of content that is not text. -/
  unparsed? (characters : List Char) : Option String := do
    let (name, rest) ← name? (← spaced? (← Text.after? "NDATA".toList (← spaced? characters)))
    if rest.all isSpace then some name else none

/-- Whether a parenthesised group consists of parts between bars. -/
def isGroup (allowed : List Char → Bool) (characters : List Char) : Bool :=
  (Text.splitFrom '|' [] characters).all fun part =>
    allowed (((part.dropWhile isSpace).reverse.dropWhile isSpace).reverse)

/-- The type of an attribute at the front, whether it is free text, and the characters after it. -/
def attributeType? (characters : List Char) : Option (Bool × List Char) :=
  let group? (allowed : List Char → Bool) (rest : List Char) : Option (Bool × List Char) := do
    let (body, rest) ← Text.around? [')'] rest
    if isGroup allowed body then some (false, rest) else none
  match characters with
  | '(' :: rest => group? (fun token => !token.isEmpty && token.all continuesName) rest
  | _ => do
      let (name, rest) ← name? characters
      if name == "CDATA" then some (true, rest)
      else if name == "NOTATION" then
        group? isName (← Text.after? ['('] (← spaced? rest))
      else if ["ID", "IDREF", "IDREFS", "ENTITY", "ENTITIES", "NMTOKEN", "NMTOKENS"].contains name then
        some (false, rest)
      else none

/-- The default of an attribute at the front, if it has one, and the characters after it. -/
def default? (characters : List Char) : Option (Option (List Char) × List Char) :=
  match characters with
  | '#' :: rest => do
      let (name, rest) ← name? rest
      if name == "REQUIRED" || name == "IMPLIED" then some (none, rest)
      else if name == "FIXED" then
        (Markup.quoted? (← spaced? rest)).map fun (text, rest) => (some text, rest)
      else none
  | _ => (Markup.quoted? characters).map fun (text, rest) => (some text, rest)

/-- The default value that a text in a declaration stands for, if there is one. -/
def defaultValue? (definitions : Definitions) (isText : Bool) :
    Option (List Char) → Option (Option String)
  | none => some none
  | some text =>
      ((Markup.attributeValue? text).bind (definitions.value? isText)).map some

/-- Definitions with one attribute more. The first definition of an attribute counts. -/
def addAttribute (declared : AttributeDefinition) (definitions : Definitions) : Definitions :=
  if definitions.isClosed ||
      (definitions.attribute? declared.element declared.name).isSome then definitions
  else { definitions with attributes := definitions.attributes ++ [declared] }

/-- Definitions after those of the attributes of an element, of which there are fewer than `bound`. -/
def attributes? (element : QualifiedName) :
    (bound : Nat) → Definitions → List Char → Option Definitions
  | 0, _, _ => none
  | bound + 1, definitions, characters =>
      if characters.all isSpace then some definitions
      else do
        let (name, rest) ← qualifiedName? (← spaced? characters)
        let (isText, rest) ← attributeType? (← spaced? rest)
        let (text, rest) ← default? (← spaced? rest)
        let value ← defaultValue? definitions isText text
        attributes? element bound (addAttribute ⟨element, name, isText, value⟩ definitions) rest

/-- What has been read last in a description of content: a place where a part is expected, a name,
or the end of a part that cannot be repeated again. -/
inductive ModelPlace where
  | expected
  | named
  | ended

/-- Whether the characters complete groups of parts that are open, each with its separator if one has
been seen. All separators of a group are equal. -/
def completesGroups : ModelPlace → List (Option Char) → List Char → Bool
  | .expected, _, [] => false
  | _, groups, [] => groups.isEmpty
  | .expected, groups, character :: rest =>
      if isSpace character then completesGroups .expected groups rest
      else if character == '(' then completesGroups .expected (none :: groups) rest
      else startsName character && completesGroups .named groups rest
  | place, groups, character :: rest =>
      let repeated := character == '?' || character == '*' || character == '+'
      match place, groups with
      | .named, [] => repeated && rest.all isSpace || (character :: rest).all isSpace
      | _, [] => (character :: rest).all isSpace
      | place, separator :: outer =>
          if isSpace character then completesGroups .ended groups rest
          else if character == ')' then completesGroups .named outer rest
          else if character == ',' || character == '|' then
            (separator.getD character == character) &&
              completesGroups .expected (some character :: outer) rest
          else
            match place with
            | .named =>
                if repeated then completesGroups .ended groups rest
                else Markup.isNamePart character && completesGroups .named groups rest
            | _ => false

/-- Whether the names after the word for text in a mixed content, up to the closing parenthesis, are
given as they have to be. -/
def isMixed (characters : List Char) : Bool :=
  match Text.around? [')'] characters with
  | none => false
  | some (names, rest) =>
      match Text.splitFrom '|' [] names with
      | [] => false
      | first :: others =>
          let trimmed (part : List Char) : List Char :=
            ((part.dropWhile isSpace).reverse.dropWhile isSpace).reverse
          first.all isSpace &&
            (others.all fun part => (QualifiedName.ofCharacters? (trimmed part)).isSome) &&
            (match rest with
              | '*' :: rest => rest.all isSpace
              | rest => others.isEmpty && rest.all isSpace)

/-- Whether the characters describe the content of an element. -/
def isContentModel (characters : List Char) : Bool :=
  let model := (characters.reverse.dropWhile isSpace).reverse
  match model with
  | '(' :: inner =>
      match Text.after? "#PCDATA".toList (inner.dropWhile isSpace) with
      | some rest => isMixed rest
      | none => completesGroups .expected [none] inner
  | _ => model == "EMPTY".toList || model == "ANY".toList

/-- Definitions after a declaration with a body between `<!` and `>`. -/
def declaration? (definitions : Definitions) (body : List Char) : Option Definitions :=
  match Text.after? "ENTITY".toList body with
  | some rest => entity? definitions rest
  | none =>
      match Text.after? "ATTLIST".toList body with
      | some rest => do
          let (element, rest) ← qualifiedName? (← spaced? rest)
          attributes? element (rest.length + 1) definitions rest
      | none =>
          match Text.after? "ELEMENT".toList body with
          | some rest => do
              let (_, rest) ← qualifiedName? (← spaced? rest)
              let model ← spaced? rest
              if isContentModel model then some definitions else none
          | none => do
              let (_, rest) ← name? (← spaced? (← Text.after? "NOTATION".toList body))
              let identifier ← spaced? rest
              let tail ← (afterExternal? identifier) <|> (afterPublic? identifier)
              if tail.all isSpace then some definitions else none

/-- The part of a declaration in brackets, whose opening bracket has been read: the definitions, and
the characters after the closing bracket. -/
def subset? (definitions : Definitions) (characters : List Char) :
    Option (Definitions × List Char) :=
  match _trimmed : characters.dropWhile isSpace with
  | ']' :: rest => some (definitions, rest)
  | '%' :: rest =>
      match _found : Text.around? [';'] rest with
      | some (name, tail) =>
          if isName name then
            subset? { definitions with partly := true, interrupted := true } tail
          else none
      | none => none
  | '<' :: rest =>
      match _comment : Markup.afterComment? rest with
      | some tail => subset? definitions tail
      | none =>
          match _instruction : Markup.afterInstruction? rest with
          | some tail => subset? definitions tail
          | none =>
              match _body : Markup.upToEnd? none rest with
              | some ('!' :: body, tail) => do
                  subset? (← declaration? definitions body) tail
              | _ => none
  | _ => none
termination_by characters.length
decreasing_by
  all_goals
    have trimmed := Text.dropWhile_length isSpace characters
    rw [_trimmed] at trimmed
    simp only [List.length_cons] at trimmed
  · have := Text.around?_length _found
    omega
  · have := Markup.afterComment?_length _comment
    omega
  · have := Markup.afterInstruction?_length _instruction
    omega
  · have := Markup.upToEnd?_length _body
    omega

/-- The characters after blanks, comments and processing instructions. -/
def afterMisc? (characters : List Char) : Option (List Char) :=
  match _trimmed : characters.dropWhile isSpace with
  | '<' :: rest =>
      match _comment : Markup.afterComment? rest with
      | some tail => afterMisc? tail
      | none =>
          match _instruction : Markup.afterInstruction? rest with
          | some tail => afterMisc? tail
          | none => some ('<' :: rest)
  | other => some other
termination_by characters.length
decreasing_by
  all_goals
    have trimmed := Text.dropWhile_length isSpace characters
    rw [_trimmed] at trimmed
    simp only [List.length_cons] at trimmed
  · have := Markup.afterComment?_length _comment
    omega
  · have := Markup.afterInstruction?_length _instruction
    omega

/-- The definitions of a document, and the characters of its content. -/
def read? (source : Source) : Option (Definitions × List Char) := do
  let definitions := Definitions.nothing source.declaration.standalone
  let start ← afterMisc? source.characters
  match Text.after? "<!DOCTYPE".toList start with
  | none => return (definitions, start)
  | some rest =>
      let (_, rest) ← qualifiedName? (← spaced? rest)
      let external := (spaced? rest).bind afterExternal?
      let definitions := { definitions with partly := external.isSome }
      let rest := (external.getD rest).dropWhile isSpace
      let (definitions, rest) ← match Text.after? ['['] rest with
        | some inner => subset? definitions inner
        | none => some (definitions, rest)
      return (definitions, ← Text.after? ['>'] (rest.dropWhile isSpace))

end Doctype

end DecisionTables.Xml
