import Mathlib.Data.List.Basic
import Mathlib.Data.List.TakeWhile
import DecisionTables.Model.OutputValues
import DecisionTables.Text.Blank
import DecisionTables.Text.Split

/-!
# Written lists of output values

Values are written one after the other, a comma and a blank between neighbours, and reading the list
gives them again. The values must not hold what the reader goes by, which are commas, quotation marks
and brackets, and no blanks may stand at their ends.
-/

namespace DecisionTables

/-! ## Trimmed texts -/

namespace Text

/-- Whether no blank stands at either end of a text. -/
def Trimmed (text : String) : Prop :=
  trim text = text

instance (text : String) : Decidable (Trimmed text) :=
  inferInstanceAs (Decidable (trim text = text))

theorem Trimmed.toList {text : String} (clean : Trimmed text) :
    trimmed text.toList = text.toList := by
  simpa [Trimmed, trim] using congrArg String.toList clean

theorem dropBlanks_eq_self_iff {characters : List Char} :
    characters.dropWhile isBlank = characters ↔
      ∀ first ∈ characters.head?, isBlank first = false := by
  rw [List.dropWhile_eq_self_iff]
  cases characters with
  | nil => simp
  | cons first rest => simp

/-- Nothing is removed from characters that neither begin nor end with a blank. -/
theorem trimmed_eq_self_iff {characters : List Char} : trimmed characters = characters ↔
    (∀ first ∈ characters.head?, isBlank first = false) ∧
      ∀ last ∈ characters.getLast?, isBlank last = false := by
  have back : (characters.reverse.dropWhile isBlank).reverse = characters ↔
      ∀ last ∈ characters.getLast?, isBlank last = false := by
    rw [List.reverse_eq_iff, dropBlanks_eq_self_iff, List.head?_reverse]
  rw [← dropBlanks_eq_self_iff, ← back]
  constructor
  · intro same
    have short : characters.length ≤ (characters.dropWhile isBlank).length := by
      have removed := List.length_dropWhile_le isBlank (characters.dropWhile isBlank).reverse
      rw [List.length_reverse] at removed
      have shorter := (congrArg List.length same).symm.le
      simpa [trimmed] using shorter.trans (by simpa [trimmed] using removed)
    have front : characters.dropWhile isBlank = characters :=
      (List.dropWhile_sublist isBlank).eq_of_length
        (Nat.le_antisymm (List.length_dropWhile_le isBlank characters) short)
    rw [trimmed, front] at same
    exact ⟨front, same⟩
  · intro ends
    rw [trimmed, ends.1, ends.2]

/-- Blanks in front of characters are removed. -/
theorem trimmed_blanks_append {blanks characters : List Char}
    (blank : ∀ character ∈ blanks, isBlank character = true) :
    trimmed (blanks ++ characters) = trimmed characters := by
  rw [trimmed, List.dropWhile_append_of_pos blank, trimmed]

/-- Whatever stands between two trimmed texts, the whole is trimmed. -/
theorem Trimmed.surround {first last : String} (begins : Trimmed first) (ends : Trimmed last)
    (begun : first ≠ "") (ended : last ≠ "") (between : String) :
    Trimmed (first ++ between ++ last) := by
  have front : first.toList ≠ [] := by simpa using begun
  have back : last.toList ≠ [] := by simpa using ended
  have clean := trimmed_eq_self_iff.mp begins.toList
  have closed := trimmed_eq_self_iff.mp ends.toList
  have whole : trimmed (first ++ between ++ last).toList = (first ++ between ++ last).toList := by
    rw [trimmed_eq_self_iff, String.toList_append, String.toList_append,
      List.getLast?_append_of_ne_nil _ back, List.append_assoc, List.head?_append_of_ne_nil _ front]
    exact ⟨clean.1, closed.2⟩
  rw [Trimmed, trim, whole, String.ofList_toList]

end Text

namespace OutputValues

/-- The characters that the reader of a list goes by. -/
def marks : List Char := [',', '"', '(', ')', '[', ']']

/-- Whether a value can stand in a list: it is trimmed and not empty, and it holds no mark. -/
structure Plain (value : String) : Prop where
  nonempty : value ≠ ""
  trimmed : Text.Trimmed value
  unmarked : ∀ character ∈ value.toList, character ∉ marks

/-- The text that lists some values. -/
def joined (values : List String) : String :=
  Text.joinWith ", " values

theorem joined_cons (first second : String) (rest : List String) :
    joined (first :: second :: rest) = first ++ ", " ++ joined (second :: rest) := rfl

theorem joined_ne_empty {first : String} {rest : List String} (nonempty : first ≠ "") :
    joined (first :: rest) ≠ "" := by
  cases rest with
  | nil => exact nonempty
  | cons second rest => simp [joined_cons, String.append_eq_empty_iff]

/-- No blank stands at either end of a list. -/
theorem trimmed_joined {values : List String} (plain : ∀ value ∈ values, Plain value) :
    Text.Trimmed (joined values) := by
  induction values with
  | nil => rfl
  | cons first rest ih =>
      obtain ⟨clean, others⟩ := List.forall_mem_cons.mp plain
      cases rest with
      | nil => exact clean.trimmed
      | cons second rest =>
          have following := others second List.mem_cons_self
          exact clean.trimmed.surround (ih others) clean.nonempty
            (joined_ne_empty following.nonempty) ", "

/-- Characters without marks belong to the current value. -/
theorem splitFrom_unmarked {current characters rest : List Char}
    (unmarked : ∀ character ∈ characters, character ∉ marks) :
    splitFrom .outside current (characters ++ rest) =
      splitFrom .outside (characters.reverse ++ current) rest := by
  induction characters generalizing current with
  | nil => rfl
  | cons character characters ih =>
      obtain ⟨plain, others⟩ := List.forall_mem_cons.mp unmarked
      simp only [marks, List.mem_cons, List.not_mem_nil, or_false, not_or] at plain
      have inside : Nesting.outside.after character = .outside := by
        simp [Nesting.after, Nesting.outside, plain]
      rw [List.cons_append, splitFrom]
      simp [plain, inside, ih others]

/-- The value of what has been read, of which the first characters are blanks. -/
theorem Plain.read {value : String} (plain : Plain value) {current : List Char}
    (blank : ∀ character ∈ current, Text.isBlank character = true) :
    Text.trimmed (value.toList.reverse ++ current).reverse = value.toList := by
  rw [List.reverse_append, List.reverse_reverse,
    Text.trimmed_blanks_append (by simpa using blank), plain.trimmed.toList]

/-- A list is read value by value, where only blanks have been read of the current one. -/
theorem splitFrom_joined {values : List String} (plain : ∀ value ∈ values, Plain value)
    {current : List Char} (blank : ∀ character ∈ current, Text.isBlank character = true) :
    splitFrom .outside current (joined values).toList = values.map String.toList := by
  induction values generalizing current with
  | nil =>
      have nothing : Text.trimmed (current.reverse ++ []) = [] :=
        Text.trimmed_blanks_append (by simpa using blank)
      rw [List.append_nil] at nothing
      simp only [joined, Text.joinWith, String.toList_empty, splitFrom, nothing]
      rfl
  | cons first rest ih =>
      obtain ⟨clean, others⟩ := List.forall_mem_cons.mp plain
      cases rest with
      | nil =>
          have last : splitFrom .outside current (first.toList ++ []) =
              splitFrom .outside (first.toList.reverse ++ current) [] :=
            splitFrom_unmarked clean.unmarked
          rw [List.append_nil] at last
          have nonempty : first.toList.isEmpty = false := by simpa using clean.nonempty
          simp only [joined, Text.joinWith, last, splitFrom, clean.read blank, nonempty]
          rfl
      | cons second rest =>
          have blankOnly : ∀ character ∈ [' '], Text.isBlank character = true := by
            intro character member
            rw [List.mem_singleton.mp member]
            decide
          have comma : splitFrom .outside (first.toList.reverse ++ current)
              (',' :: ' ' :: (joined (second :: rest)).toList) =
                Text.trimmed (first.toList.reverse ++ current).reverse ::
                  splitFrom .outside [' '] (joined (second :: rest)).toList := rfl
          calc splitFrom .outside current (joined (first :: second :: rest)).toList
            _ = splitFrom .outside current
                  (first.toList ++ ',' :: ' ' :: (joined (second :: rest)).toList) := by
                simp [joined_cons]
            _ = first.toList :: splitFrom .outside [' '] (joined (second :: rest)).toList := by
                rw [splitFrom_unmarked clean.unmarked, comma, clean.read blank]
            _ = (first :: second :: rest).map String.toList := by
                rw [ih others blankOnly]
                rfl

/-- Values that are written as a list are read again. -/
theorem split_joined {values : List String} (plain : ∀ value ∈ values, Plain value) :
    split (joined values) = values := by
  have noBlank : ∀ character ∈ ([] : List Char), Text.isBlank character = true := nofun
  rw [split, splitFrom_joined plain noBlank, List.map_map]
  simp [Function.comp_def]

end OutputValues

end DecisionTables
