/-!
# Elements

A document as a tree. An element has a name, attributes, the text that stands before its first
child, and its children. Text between and after children is not part of the tree, nor are comments
and processing instructions.
-/

namespace DecisionTables.Xml

/-- The name of an element or attribute: the namespace it belongs to, if any, and its local part. -/
structure Name where
  space : Option String
  localPart : String
  deriving DecidableEq

/-- An element of a document. -/
structure Element where
  name : Name
  attributes : List (Name × String)
  text : String
  children : List Element

namespace Element

/-- The local part of the name of an element, by which it is recognised in any namespace. -/
def localName (element : Element) : String := element.name.localPart

/-- The value of an attribute that belongs to no namespace. -/
def attribute? (element : Element) (name : String) : Option String :=
  element.attributes.lookup ⟨none, name⟩

def child? (element : Element) (name : String) : Option Element :=
  element.children.find? fun child => child.localName == name

def childrenNamed (element : Element) (name : String) : List Element :=
  element.children.filter fun child => child.localName == name

end Element

end DecisionTables.Xml
