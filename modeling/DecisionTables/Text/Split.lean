/-!
# Splitting, cutting and joining

A text split at every occurrence of a separator character, and the parts joined again; the line ends of
any system made one; and a text cut at a mark. A mark is a fixed word: a text is cut behind a mark at
its front, or around the first place where a mark stands. What is left of it is never longer than what
was there.
-/

namespace DecisionTables.Text

/-- The parts between the occurrences of a separator, given the current part in reverse. -/
def splitFrom (separator : Char) : List Char → List Char → List (List Char)
  | part, [] => [part.reverse]
  | part, character :: rest =>
      if character == separator then part.reverse :: splitFrom separator [] rest
      else splitFrom separator (character :: part) rest

/-- The parts of a text between the occurrences of a separator. There is always at least one. -/
def splitOn (separator : Char) (text : String) : List String :=
  (splitFrom separator [] text.toList).map String.ofList

/-- The texts in order with `separator` between neighbours. -/
def joinWith (separator : String) : List String → String
  | [] => ""
  | [text] => text
  | text :: rest => text ++ separator ++ joinWith separator rest

/-- The text with every line end, a carriage return alone or before a line feed, as a line feed. -/
def unifyLines : List Char → List Char
  | '\r' :: '\n' :: rest => '\n' :: unifyLines rest
  | '\r' :: rest => '\n' :: unifyLines rest
  | character :: rest => character :: unifyLines rest
  | [] => []

/-! ## Marks -/

/-- The characters after a mark at the front. -/
def after? : (mark : List Char) → List Char → Option (List Char)
  | [], rest => some rest
  | _ :: _, [] => none
  | expected :: mark, character :: rest =>
      if character == expected then after? mark rest else none

theorem after?_length {mark characters rest : List Char}
    (found : after? mark characters = some rest) :
    mark.length + rest.length = characters.length := by
  induction mark generalizing characters with
  | nil => simp_all [after?]
  | cons expected mark ih =>
      cases characters with
      | nil => simp [after?] at found
      | cons character tail =>
          simp only [after?] at found
          split at found
          · have := ih found
            simp only [List.length_cons]
            omega
          · cases found

/-- The characters before the first place where a mark stands, and those after it. -/
def around? (mark : List Char) : List Char → Option (List Char × List Char)
  | [] => none
  | character :: rest =>
      match after? mark (character :: rest) with
      | some tail => some ([], tail)
      | none => (around? mark rest).map fun (before, tail) => (character :: before, tail)

theorem around?_length {mark characters before rest : List Char}
    (found : around? mark characters = some (before, rest)) :
    rest.length ≤ characters.length := by
  induction characters generalizing before with
  | nil => simp [around?] at found
  | cons character tail ih =>
      simp only [around?] at found
      split at found
      · rename_i cut
        have := after?_length cut
        simp only [Option.some.injEq, Prod.mk.injEq] at found
        rw [← found.2]
        omega
      · simp only [Option.map_eq_some_iff, Prod.mk.injEq] at found
        obtain ⟨⟨first, last⟩, inner, -, rfl⟩ := found
        have := ih inner
        simp only [List.length_cons] at *
        omega

theorem dropWhile_length (p : Char → Bool) (characters : List Char) :
    (characters.dropWhile p).length ≤ characters.length :=
  (List.dropWhile_suffix p).length_le

end DecisionTables.Text
