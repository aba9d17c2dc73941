import DecisionTables.Checksum
import DecisionTables.Text.Split
import DecisionTables.Xml.CodePage
import DecisionTables.Xml.Declaration

/-!
# Encodings of documents

The bytes of a document are read as characters. The first bytes tell UTF-16 from encodings of single
bytes, of which UTF-8 is assumed; a declaration may then name another encoding of the same width.
Line ends become line feeds.
-/

namespace DecisionTables.Xml

/-- Why a document is not read. -/
inductive ReadError where
  | malformed
  | unknownEncoding
  | multibyteEncoding
  deriving DecidableEq

/-- An encoding of characters as bytes. -/
inductive Encoding where
  | utf8
  | utf16 (bigEndian : Bool)
  | codePage (page : CodePage)

namespace Encoding

/-- Characters of UTF-16 code units. -/
def ofUnits : List Nat → Option (List Char)
  | [] => some []
  | unit :: rest =>
      if unit < 0xD800 || 0xE000 ≤ unit then (ofUnits rest).map (Char.ofNat unit :: ·)
      else if 0xDC00 ≤ unit then none
      else
        match rest with
        | [] => none
        | low :: rest =>
            if 0xDC00 ≤ low && low < 0xE000 then
              (ofUnits rest).map
                (Char.ofNat (0x10000 + (unit - 0xD800) * 0x400 + (low - 0xDC00)) :: ·)
            else none

/-- The code units that pairs of bytes stand for. -/
def units? (bigEndian : Bool) : Bytes → Option (List Nat)
  | [] => some []
  | [_] => none
  | first :: second :: rest =>
      let unit :=
        if bigEndian then first.toNat * 256 + second.toNat
        else second.toNat * 256 + first.toNat
      (units? bigEndian rest).map (unit :: ·)

/-- The characters that bytes stand for. -/
def decode? : Encoding → Bytes → Option (List Char)
  | .utf8, bytes => (String.fromUTF8? ⟨bytes.toArray⟩).map String.toList
  | .utf16 bigEndian, bytes => (units? bigEndian bytes).bind ofUnits
  | .codePage page, bytes => page.decode? bytes

def width : Encoding → Nat
  | .utf16 _ => 2
  | _ => 1

/-- The characters that the code units of bytes stand for, each taken for itself. -/
def plain (encoding : Encoding) (bytes : Bytes) : List Char :=
  match encoding with
  | .utf16 bigEndian => ((units? bigEndian (bytes.take (bytes.length / 2 * 2))).getD []).map Char.ofNat
  | _ => bytes.map fun byte => Char.ofNat byte.toNat

/-- The encoding that the first bytes show, and the bytes after a byte order mark. -/
def detect : Bytes → Encoding × Bytes
  | 0xFE :: 0xFF :: rest => (.utf16 true, rest)
  | 0xFF :: 0xFE :: rest => (.utf16 false, rest)
  | 0xEF :: 0xBB :: 0xBF :: rest => (.utf8, rest)
  | 0 :: rest => (.utf16 true, 0 :: rest)
  | first :: 0 :: rest => (.utf16 false, first :: 0 :: rest)
  | bytes => (.utf8, bytes)

def declared (current : Encoding) (name : String) : Except ReadError Encoding :=
  match name.toLower, current with
  | "utf-8", .utf16 _ => .error .malformed
  | "utf-8", _ => .ok .utf8
  | "utf-16", .utf16 bigEndian => .ok (.utf16 bigEndian)
  | "utf-16", _ => .error .malformed
  | "utf-16be", .utf16 true => .ok (.utf16 true)
  | "utf-16be", _ => .error .malformed
  | "utf-16le", .utf16 false => .ok (.utf16 false)
  | "utf-16le", _ => .error .malformed
  | _, _ =>
      match CodePage.find? name with
      | some page =>
          match current with
          | .utf16 _ => .error .malformed
          | _ => .ok (.codePage page)
      | none =>
          let compared := CodePage.compared name
          if CodePage.foreignNames.contains compared then .error .malformed
          else if CodePage.multibyteNames.contains compared then .error .multibyteEncoding
          else .error .unknownEncoding

end Encoding

/-- The characters of a document after its declaration, and what it declares. -/
structure Source where
  declaration : Declaration
  characters : List Char

namespace Source

/-- A source of characters that may all stand in a document. -/
def ofCharacters (declaration : Declaration) (characters : List Char) : Except ReadError Source :=
  if characters.all isAllowed then .ok ⟨declaration, Text.unifyLines characters⟩
  else .error .malformed

/-- A declaration that is well formed. -/
def declarationOf (body : List Char) : Except ReadError Declaration :=
  match Declaration.parse? body with
  | some declaration => .ok declaration
  | none => .error .malformed

def decode (encoding : Encoding) (bytes : Bytes) : Except ReadError (List Char) :=
  match encoding.decode? bytes with
  | some characters => .ok characters
  | none => .error .malformed

def ofBytes (bytes : Bytes) : Except ReadError Source := do
  let (detected, content) := Encoding.detect bytes
  match Declaration.body? (detected.plain content) with
  | none => ofCharacters .absent (← decode detected content)
  | some body =>
      let declaration ← declarationOf body
      let rest := content.drop (Declaration.length body * detected.width)
      match declaration.encoding with
      | none => ofCharacters declaration (← decode detected rest)
      | some name =>
          let encoding ← detected.declared name
          ofCharacters declaration (← decode encoding rest)

/-- The source that a text holds. An encoding that it declares does not matter. -/
def ofText (text : String) : Except ReadError Source := do
  let characters := (Text.after? ['\ufeff'] text.toList).getD text.toList
  match Declaration.body? characters with
  | none => ofCharacters .absent characters
  | some body =>
      ofCharacters (← declarationOf body) (characters.drop (Declaration.length body))

end Source

end DecisionTables.Xml
