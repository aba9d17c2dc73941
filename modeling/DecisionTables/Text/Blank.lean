/-!
# Blanks

A class of characters is described by the sorted, disjoint ranges of the code points that belong to
it. Blanks are the characters that separate tokens and that trimming removes: the Unicode characters
of bidirectional type WS, B or S, or of category Zs. `trim` and `words` are the two operations on
text that depend on them.
-/

namespace DecisionTables.Text

/-- Whether `code` lies in one of the sorted ranges, each given by its first and last member. -/
def inRanges : List (Nat × Nat) → Nat → Bool
  | [], _ => false
  | (first, last) :: rest, code =>
      if code < first then false else if code ≤ last then true else inRanges rest code

def blankRanges : List (Nat × Nat) := [
  (0x9, 0xD), (0x1C, 0x20), (0x85, 0x85), (0xA0, 0xA0), (0x1680, 0x1680),
  (0x2000, 0x200A), (0x2028, 0x2029), (0x202F, 0x202F), (0x205F, 0x205F), (0x3000, 0x3000)
]

def isBlank (character : Char) : Bool :=
  inRanges blankRanges character.toNat

/-- The characters left after removing the blanks at both ends. -/
def trimmed (characters : List Char) : List Char :=
  ((characters.dropWhile isBlank).reverse.dropWhile isBlank).reverse

/-- A text without the blanks at its two ends. -/
def trim (text : String) : String :=
  String.ofList (trimmed text.toList)

def isBlankText (text : String) : Bool :=
  text.toList.all isBlank

/-- The maximal runs of characters that are not blank, given the run read so far in reverse. -/
def wordsFrom : List Char → List Char → List String
  | current, [] => if current.isEmpty then [] else [String.ofList current.reverse]
  | current, character :: rest =>
      if isBlank character then
        if current.isEmpty then wordsFrom [] rest
        else String.ofList current.reverse :: wordsFrom [] rest
      else wordsFrom (character :: current) rest

/-- The words of a text: its maximal runs of characters that are not blank. -/
def words (text : String) : List String :=
  wordsFrom [] text.toList

end DecisionTables.Text
