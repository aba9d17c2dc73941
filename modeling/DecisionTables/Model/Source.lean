import DecisionTables.Fault
import DecisionTables.Model.Document

/-!
# Sources of models

Where a model comes from: bytes, a stream of bytes or of text, a file, or a model that has been read
before. A model is labelled with the name of its source and carries the checksum of its content.
-/

namespace DecisionTables

/-- What a stream delivers. -/
inductive StreamContent where
  | bytes (content : Bytes)
  | text (content : String)
  /-- Reading fails. -/
  | broken

/-- A source of a model. -/
inductive ModelSource where
  | bytes (content : Bytes)
  | stream (name : Option String) (content : StreamContent)
  /-- A file, with its content unless it cannot be read. -/
  | file (path : String) (content : Option Bytes)
  | model (model : Model)
  /-- A value of a type that is no source. -/
  | unsupported (typeName : String)

/-- Why no model is read from a source. -/
inductive ModelError where
  | unreadable (label : String)
  | malformed (label : String)
  | structure (label : String) (problem : Model.StructureProblem)
  | unsupported (typeName : String)
  | fault (fault : Fault)

namespace ModelError

def label? : ModelError → Option String
  | .unreadable label => some label
  | .malformed label => some label
  | .structure label _ => some label
  | _ => none

/-- The text of an error. What the system or the reader of documents has to say about a source is
left out. A fault has no text. -/
def message : ModelError → String
  | .unreadable label => "Unable to read model '" ++ label ++ "': ..."
  | .malformed label => "Unable to parse model '" ++ label ++ "': ..."
  | .structure label (.wrongRoot found) =>
      "Unable to parse model '" ++ label ++
        "': expected a <definitions> root element but found <" ++ found ++ ">."
  | .structure label .missingId =>
      "Decision without an id found in model '" ++ label ++ "'."
  | .structure label (.duplicateId id) =>
      "Duplicate decision id '" ++ id ++ "' in model '" ++ label ++ "'."
  | .unsupported typeName => "Unsupported model source type: " ++ typeName
  | .fault _ => ""

/-- The error of a document that is not read. -/
def ofReading (label : String) : Xml.ReadError → ModelError
  | .malformed => .malformed label
  | .unknownEncoding => .fault .unknownEncoding
  | .multibyteEncoding => .fault .multibyteEncoding

end ModelError

namespace Model

/-- The model that the outcome of reading a document declares. -/
def ofOutcome (label checksum : String) :
    Except Xml.ReadError Xml.Element → Except ModelError Model
  | .error error => .error (.ofReading label error)
  | .ok root =>
      match ofElement label checksum root with
      | .error problem => .error (.structure label problem)
      | .ok model => .ok model

def ofBytes (label : String) (content : Bytes) : Except ModelError Model :=
  ofOutcome label (checksumOf content) (Xml.Element.ofBytes content)

/-- The model that a text holds. Its checksum is that of its UTF-8 form. -/
def ofText (label : String) (content : String) : Except ModelError Model :=
  ofOutcome label (checksumOf content.toUTF8.toList) (Xml.Element.ofText content)

def ofSource : ModelSource → Except ModelError Model
  | .bytes content => ofBytes anonymousLabel content
  | .stream name content =>
      let label := name.getD anonymousLabel
      match content with
      | .bytes content => ofBytes label content
      | .text content => ofText label content
      | .broken => .error (.unreadable label)
  | .file path (some content) => ofBytes path content
  | .file path none => .error (.unreadable path)
  | .model model => .ok model
  | .unsupported typeName => .error (.unsupported typeName)

end Model

end DecisionTables
