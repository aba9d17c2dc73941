import DecisionTables.Xml.Definitions
import DecisionTables.Xml.Element

/-!
# Documents

The tree of a document is built from its markup. Tags have to match, entities are replaced by their
content, in which elements that begin also end, and names are resolved to namespaces by the
declarations that are in force. Around the root element there is only white space.
-/

namespace DecisionTables.Xml

/-- The namespaces in force: each qualifier, or none for names without one, with what it stands for.
The first binding counts. -/
abbrev Scope := List (Option String × String)

namespace Scope

/-- The namespace of names whose qualifier is `xml`. -/
def xmlSpace : String := "http://www.w3.org/XML/1998/namespace"

/-- The namespace of declarations of namespaces. -/
def declarationSpace : String := "http://www.w3.org/2000/xmlns/"

def base : Scope := [(some "xml", xmlSpace)]

/-- The qualifier that an attribute declares a namespace for. -/
def declared? (name : QualifiedName) : Option (Option String) :=
  match name.qualifier, name.localPart with
  | none, "xmlns" => some none
  | some "xmlns", qualifier => some (some qualifier)
  | _, _ => none

/-- The namespaces in force after a declaration. -/
def bind? (scope : Scope) (qualifier : Option String) (space : String) : Option Scope :=
  if space.isEmpty && qualifier.isSome then none
  else if qualifier == some "xmlns" then none
  else if (qualifier == some "xml") != (space == xmlSpace) then none
  else if space == declarationSpace then none
  else if space.toList.contains '\x7d' then none
  else some ((qualifier, space) :: scope)

/-- The namespace that a qualifier stands for. A name without one belongs to the default namespace
unless that is empty. -/
def resolve? (scope : Scope) : Option String → Option (Option String)
  | some qualifier => (scope.lookup (some qualifier)).map some
  | none => some ((scope.lookup none).filter fun space => !space.isEmpty)

/-- The namespaces in force after the declarations among attributes. -/
def extend? (scope : Scope) : List (QualifiedName × String) → Option Scope
  | [] => some scope
  | (name, value) :: rest =>
      match declared? name with
      | some qualifier => do extend? (← scope.bind? qualifier value) rest
      | none => extend? scope rest

/-- The name of an attribute. One without a qualifier belongs to no namespace. -/
def attributeName? (scope : Scope) (name : QualifiedName) : Option Name :=
  match name.qualifier with
  | none => some ⟨none, name.localPart⟩
  | some qualifier => do return ⟨← scope.resolve? (some qualifier), name.localPart⟩

/-- The attributes of an element other than declarations of namespaces. -/
def attributes? (scope : Scope) : List (QualifiedName × String) → Option (List (Name × String))
  | [] => some []
  | (name, value) :: rest => do
      let others ← scope.attributes? rest
      if (declared? name).isSome then return others
      else
        let resolved ← scope.attributeName? name
        guard (!others.any fun other => other.1 == resolved)
        return (resolved, value) :: others

end Scope

/-- An element that is being read. Its children are kept in reverse. -/
structure Frame where
  written : QualifiedName
  scope : Scope
  name : Name
  attributes : List (Name × String)
  text : String
  children : List Element

namespace Frame

/-- The element that is complete. -/
def element (frame : Frame) : Element :=
  ⟨frame.name, frame.attributes, frame.text, frame.children.reverse⟩

/-- A frame after some more text. Only text before the first child is kept. -/
def addText (characters : List Char) (frame : Frame) : Frame :=
  if frame.children.isEmpty then { frame with text := frame.text ++ String.ofList characters }
  else frame

def addChild (child : Element) (frame : Frame) : Frame :=
  { frame with children := child :: frame.children }

/-- The values of the attributes of a tag. -/
def values? (definitions : Definitions) (element : QualifiedName) :
    List RawAttribute → Option (List (QualifiedName × String))
  | [] => some []
  | raw :: rest => do
      let isText := ((definitions.attribute? element raw.name).map AttributeDefinition.isText).getD true
      let value ← definitions.value? isText raw.value
      let others ← values? definitions element rest
      guard (!others.any fun other => other.1 == raw.name)
      return (raw.name, value) :: others

/-- The element that a tag begins. -/
def begin? (definitions : Definitions) (scope : Scope) (name : QualifiedName)
    (raw : List RawAttribute) : Option Frame := do
  let written ← values? definitions name raw
  let missing := (definitions.defaults name).filter fun default =>
    !written.any fun other => other.1 == default.1
  let all := written ++ missing
  let scope ← scope.extend? all
  let attributes ← scope.attributes? all
  let space ← scope.resolve? name.qualifier
  return ⟨name, scope, ⟨space, name.localPart⟩, attributes, "", []⟩

end Frame

namespace Document

/-- Read content into the innermost of the open elements. A document is read up to the end of its
root element, after which markup may be left; the replacement of an entity is read to its end, where
the element that it began in has to be the innermost one again. -/
def build? (definitions : Definitions) (replacing : Bool) :
    (available : List (String × Entity)) → (top : Frame) → (outer : List Frame) →
      List Markup → Option (Frame × List Markup)
  | _, top, outer, [] => if replacing && outer.isEmpty then some (top, []) else none
  | available, top, outer, .piece (.plain characters) :: rest =>
      build? definitions replacing available (top.addText characters) outer rest
  | available, top, outer, .piece (.character value) :: rest =>
      build? definitions replacing available (top.addText [value]) outer rest
  | available, top, outer, .verbatim characters :: rest =>
      build? definitions replacing available (top.addText characters) outer rest
  | available, top, outer, .piece (.entity name) :: rest =>
      match _found : available.lookup name with
      | some (.internal replacement) => do
          let content ← Markup.read? replacement
          let (top, _) ← build? definitions true (Definitions.without name available) top [] content
          build? definitions replacing available top outer rest
      | _ => none
  | available, top, outer, .opening name attributes closed :: rest =>
      match Frame.begin? definitions top.scope name attributes with
      | none => none
      | some frame =>
          if closed then
            build? definitions replacing available (top.addChild frame.element) outer rest
          else build? definitions replacing available frame (top :: outer) rest
  | available, top, outer, .closing name :: rest =>
      if name = top.written then
        match outer with
        | [] => if replacing then none else some (top, rest)
        | parent :: outer =>
            build? definitions replacing available (parent.addChild top.element) outer rest
      else none
termination_by available _ _ markup => (available.length, markup.length)
decreasing_by
  all_goals first
    | exact Prod.Lex.left _ _ (Definitions.without_length _found)
    | exact Prod.Lex.right _ (by simp)

/-- Whether a part of markup is white space that is written as such. -/
def isBlank : Markup → Bool
  | .piece (.plain characters) => characters.all isSpace
  | _ => false

/-- The root element of a document, given the definitions and the markup of its content. -/
def root? (definitions : Definitions) (markup : List Markup) : Option Element :=
  match markup.dropWhile isBlank with
  | .opening name attributes closed :: rest => do
      let frame ← Frame.begin? definitions Scope.base name attributes
      let (frame, rest) ←
        if closed then some (frame, rest)
        else build? definitions false definitions.entities frame [] rest
      guard (rest.all isBlank)
      return frame.element
  | _ => none

/-- The root element of a source. -/
def ofSource (source : Source) : Except ReadError Element :=
  let root? : Option Element := do
    let (definitions, characters) ← Doctype.read? source
    root? definitions (← Markup.read? characters)
  match root? with
  | some root => .ok root
  | none => .error .malformed

end Document

/-- The root element of the document that bytes hold. -/
def Element.ofBytes (bytes : Bytes) : Except ReadError Element := do
  Document.ofSource (← Source.ofBytes bytes)

/-- The root element of the document that a text holds. -/
def Element.ofText (text : String) : Except ReadError Element := do
  Document.ofSource (← Source.ofText text)

end DecisionTables.Xml
