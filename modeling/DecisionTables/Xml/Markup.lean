import DecisionTables.Text.Split
import DecisionTables.Xml.Character

/-!
# Markup

The content of a document or entity as a flat list of tags and pieces of text. Comments and
processing instructions are checked and left out. Every construct takes characters from the front of
the input, so that reading ends.
-/

namespace DecisionTables.Xml

/-- A name as it is written: a local part, perhaps with a qualifier before a colon. -/
structure QualifiedName where
  qualifier : Option String
  localPart : String
  deriving DecidableEq

def isName : List Char → Bool
  | [] => false
  | first :: rest => startsName first && rest.all continuesName

/-- The name that characters spell. -/
def QualifiedName.ofCharacters? (characters : List Char) : Option QualifiedName :=
  match Text.splitFrom ':' [] characters with
  | [name] => if isName name then some ⟨none, String.ofList name⟩ else none
  | [qualifier, name] =>
      if isName qualifier && isName name then
        some ⟨some (String.ofList qualifier), String.ofList name⟩
      else none
  | _ => none

/-- A piece of text: characters as they are written, a character that is referred to, or a reference
to an entity. -/
inductive Piece where
  | plain (characters : List Char)
  | character (value : Char)
  | entity (name : String)

namespace Piece

/-- The value of a numeral of a base whose digits have values. -/
def codeFrom? (base : Nat) (value : Char → Option Nat) (total : Nat) : List Char → Option Nat
  | [] => some total
  | digit :: rest =>
      match value digit with
      | some amount => codeFrom? base value (total * base + amount) rest
      | none => none

def decimal? (character : Char) : Option Nat :=
  if character.isDigit then some (character.toNat - 0x30) else none

def hexadecimal? (character : Char) : Option Nat :=
  if character.isDigit then some (character.toNat - 0x30)
  else
    let lower := character.toLower.toNat
    if 0x61 ≤ lower && lower ≤ 0x66 then some (lower - 0x57) else none

/-- The character of a code point that may stand in a document. -/
def ofCode? (code : Nat) : Option Piece :=
  if code.isValidChar && isAllowed (Char.ofNat code) then some (.character (Char.ofNat code))
  else none

/-- What a reference with a body between `&` and `;` stands for. -/
def reference? : List Char → Option Piece
  | '#' :: 'x' :: [] => none
  | '#' :: 'x' :: digits => (codeFrom? 16 hexadecimal? 0 digits).bind ofCode?
  | '#' :: [] => none
  | '#' :: digits => (codeFrom? 10 decimal? 0 digits).bind ofCode?
  | name =>
      if isName name then
        match String.ofList name with
        | "amp" => some (.character '&')
        | "lt" => some (.character '<')
        | "gt" => some (.character '>')
        | "quot" => some (.character (Char.ofNat 0x22))
        | "apos" => some (.character (Char.ofNat 0x27))
        | other => some (.entity other)
      else none

def split? : List Char → Option (List Piece)
  | [] => some []
  | first :: rest =>
      if first == '&' then
        match _found : Text.around? [';'] rest with
        | none => none
        | some (body, tail) => do
            let piece ← reference? body
            return piece :: (← split? tail)
      else do
        let others ← split? (rest.dropWhile (· != '&'))
        return .plain (first :: rest.takeWhile (· != '&')) :: others
termination_by characters => characters.length
decreasing_by
  · have := Text.around?_length _found
    simp only [List.length_cons]
    omega
  · have := Text.dropWhile_length (· != '&') rest
    simp only [List.length_cons]
    omega

end Piece

/-- An attribute as it is written in a tag. -/
structure RawAttribute where
  name : QualifiedName
  value : List Piece

/-- A part of the content of a document or entity. -/
inductive Markup where
  | piece (piece : Piece)
  | verbatim (characters : List Char)
  | opening (name : QualifiedName) (attributes : List RawAttribute) (closed : Bool)
  | closing (name : QualifiedName)

namespace Markup

/-- The pieces of an attribute value. -/
def attributeValue? (characters : List Char) : Option (List Piece) :=
  if characters.contains '<' then none else Piece.split? characters

/-- A text between equal quotation marks at the front, and what comes after it. -/
def quoted? : List Char → Option (List Char × List Char)
  | [] => none
  | mark :: rest =>
      if mark.toNat == 0x22 || mark.toNat == 0x27 then Text.around? [mark] rest else none

theorem quoted?_length {characters text rest : List Char}
    (found : quoted? characters = some (text, rest)) : rest.length ≤ characters.length := by
  cases characters with
  | nil => simp [quoted?] at found
  | cons mark tail =>
      simp only [quoted?] at found
      split at found
      · have := Text.around?_length found
        simp only [List.length_cons]
        omega
      · cases found

def isNamePart (character : Char) : Bool :=
  continuesName character || character == ':'

/-- The quoted text after an equals sign at the front. -/
def assigned? (characters : List Char) : Option (List Char × List Char) :=
  match Text.after? ['='] (characters.dropWhile isSpace) with
  | some rest => quoted? (rest.dropWhile isSpace)
  | none => none

theorem assigned?_length {characters text rest : List Char}
    (found : assigned? characters = some (text, rest)) : rest.length < characters.length := by
  simp only [assigned?] at found
  split at found
  · rename_i tail cut
    have first := Text.after?_length cut
    have second := quoted?_length found
    have third := Text.dropWhile_length isSpace tail
    have fourth := Text.dropWhile_length isSpace characters
    simp only [List.length_cons, List.length_nil] at first
    omega
  · cases found

/-- The attributes in the rest of a tag, and whether it closes the element at once. -/
def attributes? (characters : List Char) : Option (List RawAttribute × Bool) :=
  match _trimmed : characters.dropWhile isSpace with
  | [] => some ([], false)
  | ['/'] => some ([], true)
  | first :: rest =>
      if (characters.head?.map isSpace).getD false then
        match _found : assigned? ((first :: rest).dropWhile isNamePart) with
        | none => none
        | some (text, tail) => do
            let name ← QualifiedName.ofCharacters? ((first :: rest).takeWhile isNamePart)
            let value ← attributeValue? text
            let (others, closed) ← attributes? tail
            return (⟨name, value⟩ :: others, closed)
      else none
termination_by characters.length
decreasing_by
  have first := assigned?_length _found
  have second := Text.dropWhile_length isSpace characters
  have third := Text.dropWhile_length isNamePart (characters.dropWhile isSpace)
  rw [_trimmed] at second third
  omega

/-- The tag with a body between `<` and `>`. -/
def tag? : List Char → Option Markup
  | '/' :: name => do
      guard ((name.dropWhile isNamePart).all isSpace)
      return .closing (← QualifiedName.ofCharacters? (name.takeWhile isNamePart))
  | body => do
      let name ← QualifiedName.ofCharacters? (body.takeWhile isNamePart)
      let (attributes, closed) ← attributes? (body.dropWhile isNamePart)
      return .opening name attributes closed

/-- The characters up to the first `>` that is not quoted, and those after it. -/
def upToEnd? : (quote : Option Char) → List Char → Option (List Char × List Char)
  | _, [] => none
  | some mark, character :: rest =>
      (upToEnd? (if character == mark then none else some mark) rest).map
        fun (body, tail) => (character :: body, tail)
  | none, character :: rest =>
      if character == '>' then some ([], rest)
      else
        let isMark := character.toNat == 0x22 || character.toNat == 0x27
        (upToEnd? (if isMark then some character else none) rest).map
          fun (body, tail) => (character :: body, tail)

theorem upToEnd?_length {quote : Option Char} {characters body rest : List Char}
    (found : upToEnd? quote characters = some (body, rest)) : rest.length ≤ characters.length := by
  induction characters generalizing quote body with
  | nil => cases quote <;> simp [upToEnd?] at found
  | cons character tail ih =>
      simp only [List.length_cons]
      cases quote with
      | some mark =>
          simp only [upToEnd?, Option.map_eq_some_iff, Prod.mk.injEq] at found
          obtain ⟨⟨first, last⟩, inner, -, rfl⟩ := found
          exact Nat.le_succ_of_le (ih inner)
      | none =>
          simp only [upToEnd?] at found
          split at found
          · cases found
            omega
          · simp only [Option.map_eq_some_iff, Prod.mk.injEq] at found
            obtain ⟨⟨first, last⟩, inner, -, rfl⟩ := found
            exact Nat.le_succ_of_le (ih inner)

/-- The characters after a comment whose `<` has been read. Two hyphens end it. -/
def afterComment? (characters : List Char) : Option (List Char) := do
  let body ← Text.after? ['!', '-', '-'] characters
  let (_, rest) ← Text.around? ['-', '-'] body
  Text.after? ['>'] rest

theorem afterComment?_length {characters rest : List Char}
    (found : afterComment? characters = some rest) : rest.length ≤ characters.length := by
  simp only [afterComment?, Option.bind_eq_bind, Option.bind_eq_some_iff] at found
  obtain ⟨body, start, ⟨inside, tail⟩, middle, stop⟩ := found
  have first := Text.after?_length start
  have second := Text.around?_length middle
  have third := Text.after?_length stop
  dsimp only at *
  omega

/-- Whether the body of a processing instruction starts with a name that is not reserved. -/
def isInstruction (body : List Char) : Bool :=
  let target := body.takeWhile continuesName
  isName target && (String.ofList target).toLower != "xml" &&
    ((body.dropWhile continuesName).head?.map isSpace).getD true

/-- The characters after a processing instruction whose `<` has been read. -/
def afterInstruction? (characters : List Char) : Option (List Char) := do
  let start ← Text.after? ['?'] characters
  let (body, rest) ← Text.around? ['?', '>'] start
  if isInstruction body then some rest else none

theorem afterInstruction?_length {characters rest : List Char}
    (found : afterInstruction? characters = some rest) : rest.length ≤ characters.length := by
  simp only [afterInstruction?, Option.bind_eq_bind, Option.bind_eq_some_iff] at found
  obtain ⟨start, begun, ⟨body, tail⟩, middle, same⟩ := found
  split at same
  · cases same
    have first := Text.after?_length begun
    have second := Text.around?_length middle
    dsimp only at *
    omega
  · cases same

/-- A verbatim section whose `<` has been read, and the characters after it. -/
def verbatim? (characters : List Char) : Option (List Char × List Char) := do
  let start ← Text.after? ['!', '[', 'C', 'D', 'A', 'T', 'A', '['] characters
  Text.around? [']', ']', '>'] start

theorem verbatim?_length {characters body rest : List Char}
    (found : verbatim? characters = some (body, rest)) : rest.length ≤ characters.length := by
  simp only [verbatim?, Option.bind_eq_bind, Option.bind_eq_some_iff] at found
  obtain ⟨start, begun, middle⟩ := found
  have first := Text.after?_length begun
  have second := Text.around?_length middle
  omega

/-- What begins at a `<`, given the characters after it: nothing that counts, or one part. -/
def construct? (characters : List Char) : Option (List Markup × List Char) :=
  match afterComment? characters with
  | some rest => some ([], rest)
  | none =>
      match afterInstruction? characters with
      | some rest => some ([], rest)
      | none =>
          match verbatim? characters with
          | some (body, rest) => some ([.verbatim body], rest)
          | none =>
              match upToEnd? none characters with
              | some (body, rest) => (tag? body).map fun tag => ([tag], rest)
              | none => none

theorem construct?_length {characters rest : List Char} {found : List Markup}
    (read : construct? characters = some (found, rest)) : rest.length ≤ characters.length := by
  simp only [construct?] at read
  split at read
  · rename_i comment
    cases read
    exact afterComment?_length comment
  · split at read
    · rename_i instruction
      cases read
      exact afterInstruction?_length instruction
    · split at read
      · rename_i section'
        cases read
        exact verbatim?_length section'
      · split at read
        · rename_i tag
          simp only [Option.map_eq_some_iff, Prod.mk.injEq] at read
          obtain ⟨_, _, _, rfl⟩ := read
          exact upToEnd?_length tag
        · cases read

/-- The parts of content. -/
def read? : List Char → Option (List Markup)
  | [] => some []
  | first :: rest =>
      if first == '<' then
        match _found : construct? rest with
        | none => none
        | some (parts, tail) => (read? tail).map (parts ++ ·)
      else
        let text := first :: rest.takeWhile (· != '<')
        if (Text.around? [']', ']', '>'] text).isSome then none
        else do
          let pieces ← Piece.split? text
          let others ← read? (rest.dropWhile (· != '<'))
          return pieces.map .piece ++ others
termination_by characters => characters.length
decreasing_by
  · have := construct?_length _found
    simp only [List.length_cons]
    omega
  · have := Text.dropWhile_length (· != '<') rest
    simp only [List.length_cons]
    omega

/-- What begins at a `<` comes before the parts of the content after it. -/
theorem read?_of_construct? {characters rest : List Char} {parts others : List Markup}
    (found : construct? characters = some (parts, rest)) (remaining : read? rest = some others) :
    read? ('<' :: characters) = some (parts ++ others) := by
  rw [read?, if_pos (beq_self_eq_true _)]
  split
  · rename_i missing
    rw [found] at missing
    cases missing
  · rename_i given
    rw [found] at given
    cases given
    rw [remaining, Option.map_some]

end Markup

end DecisionTables.Xml
