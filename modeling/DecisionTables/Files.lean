import DecisionTables.Checksum
import DecisionTables.Text.Split

/-!
# Files

What a program finds at the paths that it is given. A path is a list of parts between slashes; it
starts in the working directory unless a slash stands at its front, and two dots lead to the directory
above. Nothing is known about directories that are not below the working directory but that they exist.
-/

namespace DecisionTables

/-- What is found at a path. -/
inductive FileEntry where
  | directory
  | file (content : Bytes)

/-- The files of a program: what it finds at a path, if anything. -/
abbrev Files := String → Option FileEntry

namespace Path

def parts (path : String) : List String :=
  (Text.splitOn '/' path).filter fun part => !part.isEmpty && part != "."

/-- The slashes that a path starts with, as far as they count: two are not the same as one. -/
def root (path : String) : String :=
  match path.toList with
  | '/' :: '/' :: '/' :: _ => "/"
  | '/' :: '/' :: _ => "//"
  | '/' :: _ => "/"
  | _ => ""

/-- A path without the parts that lead nowhere. -/
def normal (path : String) : String :=
  let text := root path ++ Text.joinWith "/" (parts path)
  if text.isEmpty then "." else text

/-- Whether a path can only be that of a directory, because its last part leads nowhere. -/
def isOfDirectory (path : String) : Bool :=
  match (Text.splitOn '/' path).getLast? with
  | some last => last.isEmpty || last == "."
  | none => false

end Path

namespace Files

/-- The entries below the working directory, each with the parts of its path. -/
abbrev Tree := List (List String × FileEntry)

/-- What stands at a place below the working directory, given by the parts that lead there. A
directory need not be listed if something in it is. -/
def at? (tree : Tree) (place : List String) : Option FileEntry :=
  match tree.reverse.find? fun entry => entry.1 == place with
  | some (_, found) => some found
  | none => if tree.any fun entry => place.isPrefixOf entry.1 then some .directory else none

/-- What a path leads to from a place below the working directory, or from outside of it. The parts
of the place are reversed. -/
def follow (tree : Tree) : (place : Option (List String)) → List String → Option FileEntry
  | none, [] => some .directory
  | some [], [] => some .directory
  | some place, [] => at? tree place.reverse
  | none, part :: rest => if part == ".." then follow tree none rest else none
  | some place, part :: rest =>
      if part == ".." then follow tree (if place.isEmpty then none else some place.tail) rest
      else
        match at? tree (part :: place).reverse, rest with
        | some .directory, _ => follow tree (some (part :: place)) rest
        | found, [] => found
        | _, _ => none

/-- The files that are listed by their paths below the working directory. -/
def ofEntries (entries : List (String × FileEntry)) : Files := fun path =>
  if path.isEmpty then none
  else
    let tree := entries.map fun (name, entry) => (Path.parts name, entry)
    let start := if (Path.root path).isEmpty then some [] else none
    match follow tree start (Path.parts path) with
    | some (.file content) => if Path.isOfDirectory path then none else some (.file content)
    | found => found

end Files

end DecisionTables
