/-!
# Similar words

Two words are compared by what they have in common: the longest run of characters that stands in both,
then, on either side of it, again the longest common run, and so on. They are similar if at least three
fifths of all their characters are in such runs.
-/

namespace DecisionTables.Text

/-- The number of characters that two words have in common at their fronts. -/
def commonFront : List Char → List Char → Nat
  | first :: left, second :: right => if first == second then commonFront left right + 1 else 0
  | _, _ => 0

/-- A run of characters that stands in two words: where it starts in either of them and its length. -/
structure CommonRun where
  left : Nat
  right : Nat
  length : Nat

/-- The longest common run; of several the one that starts first in the left word, then in the right
one. -/
def longestRun (left right : List Char) : CommonRun :=
  let starts := (List.range left.length).flatMap fun i => (List.range right.length).map fun j => (i, j)
  starts.foldl
    (fun best (i, j) =>
      let length := commonFront (left.drop i) (right.drop j)
      if best.length < length then ⟨i, j, length⟩ else best)
    ⟨0, 0, 0⟩

/-- The number of characters in common runs. -/
def sharedLength (left right : List Char) : Nat :=
  match longestRun left right with
  | ⟨first, second, length⟩ =>
      if _inside : 0 < length ∧ first < left.length then
        sharedLength (left.take first) (right.take second) + length +
          sharedLength (left.drop (first + length)) (right.drop (second + length))
      else 0
termination_by left.length
decreasing_by
  all_goals simp only [List.length_take, List.length_drop]
  all_goals omega

/-- The likeness of a word to another one as a fraction. -/
def likeness (left right : String) : Nat × Nat :=
  (2 * sharedLength left.toList right.toList, left.length + right.length)

def isSimilar (left right : String) : Bool :=
  let (shared, total) := likeness left right
  3 * total ≤ 5 * shared

/-- Whether a candidate comes before another one in the order of likeness to a word. -/
def isCloser (word first second : String) : Bool :=
  let (shared, total) := likeness first word
  let (otherShared, otherTotal) := likeness second word
  if shared * otherTotal = otherShared * total then second ≤ first
  else otherShared * total < shared * otherTotal

/-- At most three of the candidates that are similar to a word, the closest ones, in their own order. -/
def closest (word : String) (candidates : List String) : List String :=
  let similar := candidates.filter fun candidate => isSimilar candidate word
  ((similar.mergeSort (isCloser word)).take 3).mergeSort fun first second => first ≤ second

end DecisionTables.Text
