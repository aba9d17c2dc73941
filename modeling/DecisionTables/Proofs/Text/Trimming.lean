import Mathlib.Data.List.DropRight
import DecisionTables.Proofs.Model.OutputValues

/-!
# Trimming

Trimming takes blanks from both ends of characters and leaves the part between them, which neither
begins nor ends with a blank. There is only one way to take a row of characters apart like that, so
that what is left can be told from any such division.
-/

namespace DecisionTables.Text

variable {characters middle front back : List Char}

theorem trimmed_eq_rdropWhile :
    trimmed characters = (characters.dropWhile isBlank).rdropWhile isBlank := rfl

theorem trimmed_eq_nil_iff :
    trimmed characters = [] ↔ ∀ character ∈ characters, isBlank character = true := by
  rw [trimmed_eq_rdropWhile, List.rdropWhile_eq_nil_iff]
  constructor
  · intro blank character member
    rw [← List.takeWhile_append_dropWhile (p := isBlank) (l := characters)] at member
    rcases List.mem_append.mp member with member | member
    · exact List.mem_takeWhile_imp member
    · exact blank character member
  · intro blank character member
    exact blank character ((List.dropWhile_sublist isBlank).subset member)

/-- What is left has no blanks at its ends. -/
theorem trimmed_trimmed (characters : List Char) :
    trimmed (trimmed characters) = trimmed characters := by
  rw [trimmed_eq_self_iff]
  constructor
  · intro first front
    obtain ⟨back, divided⟩ : trimmed characters <+: characters.dropWhile isBlank :=
      List.rdropWhile_prefix isBlank _
    have among : first ∈ (characters.dropWhile isBlank).head? := by
      rw [← divided, List.head?_append, front]
      rfl
    exact dropBlanks_eq_self_iff.mp (List.dropWhile_idempotent isBlank _) first among
  · intro last ends
    have closed : (characters.dropWhile isBlank).reverse.dropWhile isBlank =
      (trimmed characters).reverse := (List.reverse_reverse _).symm
    have kept := List.dropWhile_idempotent isBlank (characters.dropWhile isBlank).reverse
    rw [closed, dropBlanks_eq_self_iff, List.head?_reverse] at kept
    exact kept last ends

/-- Blanks behind characters are removed. -/
theorem trimmed_append_blanks (blank : ∀ character ∈ back, isBlank character = true) :
    trimmed (characters ++ back) = trimmed characters := by
  cases solid : characters.dropWhile isBlank with
  | nil =>
      have before := List.dropWhile_eq_nil_iff.mp solid
      rw [trimmed_eq_nil_iff.mpr before, trimmed_eq_nil_iff]
      exact List.forall_mem_append.mpr ⟨before, blank⟩
  | cons first rest =>
      have backwards : ∀ character ∈ back.reverse, isBlank character = true :=
        fun character member => blank character (List.mem_reverse.mp member)
      have begun : (characters ++ back).dropWhile isBlank = first :: rest ++ back := by
        rw [List.dropWhile_append, solid]
        rfl
      rw [trimmed, trimmed, begun, solid, List.reverse_append,
        List.dropWhile_append_of_pos backwards]

/-- What trimming leaves is what stands between blanks and neither begins nor ends with one. -/
theorem trimmed_eq_iff : trimmed characters = middle ↔
    trimmed middle = middle ∧ ∃ front back, characters = front ++ (middle ++ back) ∧
      (∀ character ∈ front, isBlank character = true) ∧
      ∀ character ∈ back, isBlank character = true := by
  constructor
  · rintro rfl
    refine ⟨trimmed_trimmed characters, characters.takeWhile isBlank,
      (characters.dropWhile isBlank).rtakeWhile isBlank, ?_, ?_, ?_⟩
    · rw [trimmed_eq_rdropWhile, List.rdropWhile_append_rtakeWhile,
        List.takeWhile_append_dropWhile]
    · exact fun _ => List.mem_takeWhile_imp
    · exact fun _ => List.mem_rtakeWhile_imp
  · rintro ⟨clean, front, back, rfl, begun, ended⟩
    rw [trimmed_blanks_append begun, trimmed_append_blanks ended, clean]

end DecisionTables.Text
