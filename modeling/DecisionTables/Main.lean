import DecisionTables.CommandLine.Run

/-!
# The program

The outer layer of the program. It looks up every path that its command line may name, hands what it
finds to the run, and writes the report.
-/

namespace DecisionTables.CommandLine

/-- The paths that a word of a command line may name: the word, what stands behind a sign of equality,
and what stands behind a dash and a letter, each of them also in its normal form. -/
def pathsOf (word : String) : List String :=
  let characters := word.toList
  let named :=
    [word, String.ofList ((characters.dropWhile (· != '=')).drop 1), String.ofList (characters.drop 2)]
  named ++ named.map Path.normal

/-- What is found at a path now. -/
def lookUp (path : String) : IO (Option FileEntry) := do
  let file : IO (Option FileEntry) := do
    return some (.file (← IO.FS.readBinFile path).toList)
  let directory : IO (Option FileEntry) := do
    if path.isEmpty then return none
    let _ ← IO.FS.withFile path .read fun _ => pure ()
    return some .directory
  file.catchExceptions fun _ => directory.catchExceptions fun _ => return none

end DecisionTables.CommandLine

open DecisionTables DecisionTables.CommandLine in
def main (words : List String) : IO UInt32 := do
  let paths := (defaultSettingsPath :: words.flatMap pathsOf).eraseDups
  let found ← paths.mapM fun path => return (path, ← lookUp path)
  let report := run (fun path => (found.lookup path).join) words
  IO.print report.output
  IO.eprint report.errors
  return UInt32.ofNat report.code
