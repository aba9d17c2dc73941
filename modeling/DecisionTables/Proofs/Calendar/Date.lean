import Mathlib.Data.String.Basic
import DecisionTables.Calendar.Date
import DecisionTables.Proofs.Model.OutputValues
import DecisionTables.Proofs.Number.Digits

/-!
# Texts of days

Every day of the calendar is read back from its extended form.
-/

namespace DecisionTables.Date

/-- A number written with zeros in front is read back where its digits are counted. -/
theorem fixedNumber?_padded {width number : Nat} (fits : number < 10 ^ width) (some : 0 < width)
    (rest : List Char) :
    fixedNumber? width (Numeral.paddedDigits width number ++ rest) = .some (number, rest) := by
  have length := Numeral.length_paddedDigits fits some
  have digits : (Numeral.paddedDigits width number).all Text.isAsciiDigit = true :=
    List.all_eq_true.mpr fun _ => Numeral.isAsciiDigit_of_mem_paddedDigits
  rw [fixedNumber?, List.take_left' length, List.drop_left' length, if_pos ⟨length, digits⟩,
    Numeral.value_paddedDigits]

/-- The characters of the extended form. -/
theorem isoText_toList (date : Date) : date.isoText.toList =
    Numeral.paddedDigits 4 date.year ++ '-' :: (Numeral.paddedDigits 2 date.month ++
      '-' :: Numeral.paddedDigits 2 date.day) := by
  simp [isoText]

theorem mem_isoText {date : Date} {character : Char} (among : character ∈ date.isoText.toList) :
    Text.isAsciiDigit character = true ∨ character = '-' := by
  simp only [isoText_toList, List.mem_append, List.mem_cons] at among
  rcases among with year | rfl | month | rfl | day
  · exact .inl (Numeral.isAsciiDigit_of_mem_paddedDigits year)
  · exact .inr rfl
  · exact .inl (Numeral.isAsciiDigit_of_mem_paddedDigits month)
  · exact .inr rfl
  · exact .inl (Numeral.isAsciiDigit_of_mem_paddedDigits day)

theorem trim_isoText (date : Date) : Text.trim date.isoText = date.isoText := by
  have solid : ∀ character ∈ date.isoText.toList, Text.isBlank character = false := by
    intro character among
    rcases mem_isoText among with digit | rfl
    · have bounds := of_decide_eq_true digit
      -- Two ranges of blanks lie below the digits, and the third lies above them.
      simp only [Text.isBlank, Text.blankRanges, Text.inRanges]
      rw [if_neg (by omega), if_neg (by omega), if_neg (by omega), if_neg (by omega),
        if_pos (by omega)]
    · decide
  rw [Text.trim, Text.trimmed_eq_self_iff.mpr, String.ofList_toList]
  exact ⟨fun first front => solid first (List.mem_of_head? front),
    fun last back => solid last (List.mem_of_getLast? back)⟩

/-- Year, month and day fit into their places of the extended form. -/
theorem fits (date : Date) : date.year < 10 ^ 4 ∧ date.month < 10 ^ 2 ∧ date.day < 10 ^ 2 := by
  obtain ⟨_, year, _, month, _, day⟩ := date.valid
  have longest : daysInMonth date.year date.month ≤ 31 := by
    unfold daysInMonth
    repeat' split
    all_goals decide
  omega

theorem length_isoText (date : Date) : date.isoText.toList.length = 10 := by
  obtain ⟨year, month, day⟩ := date.fits
  simp only [isoText_toList, List.length_append, List.length_cons]
  rw [Numeral.length_paddedDigits year (by decide), Numeral.length_paddedDigits month (by decide),
    Numeral.length_paddedDigits day (by decide)]

theorem utf8ByteSize_isoText (date : Date) : date.isoText.utf8ByteSize = 10 := by
  have narrow : ∀ characters : List Char, (∀ character ∈ characters, character.utf8Size = 1) →
      String.utf8Len characters = characters.length := by
    intro characters narrow
    induction characters with
    | nil => rfl
    | cons first rest ih =>
        obtain ⟨one, others⟩ := List.forall_mem_cons.mp narrow
        rw [String.utf8Len_cons, ih others, one, List.length_cons]
  rw [← @String.ofList_toList date.isoText, String.utf8ByteSize_ofList, narrow, length_isoText]
  intro character among
  rw [Char.utf8Size_eq_one_iff]
  rcases mem_isoText among with digit | rfl
  · have bounds := of_decide_eq_true digit
    exact Nat.le_trans bounds.2 (by decide)
  · decide

/-- A day is read back from its extended form. -/
theorem ofIso?_isoText (date : Date) : ofIso? date.isoText = some date := by
  obtain ⟨year, month, day⟩ := date.fits
  have last := fixedNumber?_padded day (by decide) []
  rw [List.append_nil] at last
  have read : monthForm? date.year true (Numeral.paddedDigits 2 date.month ++
      '-' :: Numeral.paddedDigits 2 date.day) = some date := by
    simp [monthForm?, fixedNumber?_padded month, afterSeparator?, last, of?, date.valid]
  simp only [ofIso?, utf8ByteSize_isoText, isoText_toList]
  simp [fixedNumber?_padded year, read]
  -- What follows the year is no week, because no mark of a week stands in the form.
  split
  · rename_i tail shown
    have mark : 'W' ∈ date.isoText.toList := by
      rw [isoText_toList, shown]
      simp
    exact absurd (mem_isoText mark) (by decide)
  · rfl

end DecisionTables.Date
