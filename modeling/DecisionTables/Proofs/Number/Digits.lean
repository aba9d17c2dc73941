import Mathlib.Algebra.Group.Nat.Defs
import DecisionTables.Number.Digits

/-!
# Digits

A number written in decimal digits is read back from them, whether or not zeros are put in front of
it up to a width.
-/

namespace DecisionTables.Numeral

variable {number width : Nat} {character : Char}

theorem isAsciiDigit_of_mem_digits (among : character ∈ digits number) :
    Text.isAsciiDigit character = true := by
  have digit := Nat.isDigit_of_mem_toDigits (by decide) (by decide) among
  rw [Char.isDigit, Bool.and_eq_true, decide_eq_true_eq, decide_eq_true_eq] at digit
  exact decide_eq_true digit

theorem value_eq_ofDigitChars (characters : List Char) :
    value (characters.map Text.asciiDigitValue) = Nat.ofDigitChars 10 characters 0 := by
  simp only [value, Nat.ofDigitChars_eq_foldl, List.foldl_map, Nat.mul_comm 10]
  rfl

/-- The digits of a number denote it. -/
theorem value_digits (number : Nat) :
    value ((digits number).map Text.asciiDigitValue) = number := by
  rw [value_eq_ofDigitChars]
  exact Nat.ofDigitChars_ten_toDigits

theorem digits_ne_nil : digits number ≠ [] :=
  Nat.toDigits_ne_nil

/-! ## Zeros in front -/

theorem isAsciiDigit_of_mem_paddedDigits (among : character ∈ paddedDigits width number) :
    Text.isAsciiDigit character = true := by
  rcases List.mem_append.mp among with zero | digit
  · rw [List.eq_of_mem_replicate zero]
    rfl
  · exact isAsciiDigit_of_mem_digits digit

theorem value_paddedDigits (width number : Nat) :
    value ((paddedDigits width number).map Text.asciiDigitValue) = number := by
  rw [value_eq_ofDigitChars, paddedDigits, Nat.ofDigitChars_append, Nat.ofDigitChars_replicate_zero,
    Nat.mul_zero]
  exact Nat.ofDigitChars_ten_toDigits

/-- A number that fits into a width takes it up. -/
theorem length_paddedDigits (fits : number < 10 ^ width) (some : 0 < width) :
    (paddedDigits width number).length = width := by
  have short : (digits number).length ≤ width :=
    (Nat.length_toDigits_le_iff (by decide) some).mpr fits
  rw [paddedDigits, List.length_append, List.length_replicate, Nat.sub_add_cancel short]

end DecisionTables.Numeral
