import Mathlib.Data.List.TakeWhile
import DecisionTables.Expression.Lexer

/-!
# The characters of lexemes

What stands at the characters that the lexical analysis takes for one lexeme. Only a quoted text
holds anything but letters, digits, underscores and points, or a symbol.
-/

namespace DecisionTables

/-- A text is read if its characters are, from the first on. -/
theorem tokenize_eq_ok_iff {text : String} {tokens : List Token} :
    tokenize text = .ok tokens ↔ Lexer.tokensFrom 0 text.toList = .ok tokens := by
  unfold tokenize
  split
  · rename_i read
    rw [read, Except.ok.injEq, Except.ok.injEq]
  · rename_i failed
    rw [failed]
    exact ⟨nofun, nofun⟩

namespace Lexer

variable {first : Char} {rest characters : List Char} {lexed : Lexed}

/-! ## Numbers -/

theorem fraction?_eq_some {fraction : List Char} (found : fraction? characters = some fraction) :
    ∃ tail, characters = '.' :: (fraction ++ tail) ∧
      ∀ character ∈ fraction, Text.isAsciiDigit character = true := by
  unfold fraction? at found
  split at found
  · rename_i digits
    simp only [Option.ite_none_left_eq_some, Option.some.injEq] at found
    obtain ⟨_, rfl⟩ := found
    refine ⟨digits.dropWhile Text.isAsciiDigit, ?_, fun character => List.mem_takeWhile_imp⟩
    rw [List.takeWhile_append_dropWhile]
  · cases found

/-- A number without a fraction begins with a digit. -/
theorem takeWhile_ne_nil_of_startsNumber (starts : startsNumber characters = true)
    (whole : fraction? (characters.dropWhile Text.isAsciiDigit) = none) :
    characters.takeWhile Text.isAsciiDigit ≠ [] := by
  cases characters with
  | nil => cases starts
  | cons first rest =>
      cases digit : Text.isAsciiDigit first with
      | true => simp [digit]
      | false =>
          rw [List.dropWhile_cons_of_neg (by simp [digit])] at whole
          simp [startsNumber, digit, whole] at starts

/-- A number is written with digits and points. -/
theorem number_extent (starts : startsNumber characters = true)
    (read : number characters = .ok lexed) :
    ((∃ value, lexed.lexeme = .integer value) ∨ ∃ value, lexed.lexeme = .double value) ∧
      lexed.further < characters.length ∧
      ∀ character ∈ characters.take (lexed.further + 1),
        Text.isAsciiDigit character = true ∨ character = '.' := by
  have whole : characters.takeWhile Text.isAsciiDigit ++
      characters.dropWhile Text.isAsciiDigit = characters := List.takeWhile_append_dropWhile
  have digits : ∀ character ∈ characters.takeWhile Text.isAsciiDigit,
      Text.isAsciiDigit character = true := fun character => List.mem_takeWhile_imp
  simp only [number] at read
  split at read
  · rename_i fraction found
    cases read
    obtain ⟨tail, split, further⟩ := fraction?_eq_some found
    generalize characters.takeWhile Text.isAsciiDigit = front at *
    obtain rfl : characters = front ++ '.' :: fraction ++ tail := by
      rw [← whole, split, List.append_assoc, List.cons_append]
    have taken : (front ++ '.' :: fraction ++ tail).take (front.length + fraction.length + 1) =
        front ++ '.' :: fraction := by
      have length : (front ++ '.' :: fraction).length = front.length + fraction.length + 1 := by
        rw [List.length_append, List.length_cons, Nat.add_assoc]
      rw [List.take_append_of_le_length (Nat.le_of_eq length.symm),
        List.take_of_length_le (Nat.le_of_eq length)]
    refine ⟨.inr ⟨_, rfl⟩, ?_, ?_⟩
    · simp only [List.length_append, List.length_cons]
      omega
    intro character among
    rw [taken, List.mem_append, List.mem_cons] at among
    rcases among with inFront | rfl | inFraction
    · exact .inl (digits character inFront)
    · exact .inr rfl
    · exact .inl (further character inFraction)
  · rename_i missing
    split at read
    · cases read
    · cases read
      have some := takeWhile_ne_nil_of_startsNumber starts missing
      have counted : (characters.takeWhile Text.isAsciiDigit).length - 1 + 1 =
          (characters.takeWhile Text.isAsciiDigit).length :=
        Nat.sub_add_cancel (List.length_pos_iff.mpr some)
      have short := (List.takeWhile_prefix (l := characters) Text.isAsciiDigit).length_le
      refine ⟨.inl ⟨_, rfl⟩, Nat.lt_of_lt_of_le (Nat.lt_of_succ_le (Nat.le_of_eq counted)) short, ?_⟩
      intro character among
      rw [counted, ← List.prefix_iff_eq_take.mp (List.takeWhile_prefix _)] at among
      exact .inl (digits character among)

/-! ## Names and texts -/

/-- A name goes on with letters, digits, underscores and points. -/
theorem nameLength_extent (characters : List Char) :
    nameLength characters ≤ characters.length ∧
      ∀ character ∈ characters.take (nameLength characters),
        continuesName character = true ∨ character = '.' := by
  fun_induction nameLength characters with
  | case1 => simp
  | case2 character continues => simp [continues]
  | case3 character stops => simp
  | case4 character next rest continues ih =>
      refine ⟨Nat.succ_le_succ ih.1, ?_⟩
      rw [List.take_succ_cons, List.forall_mem_cons]
      refine ⟨?_, ih.2⟩
      simp only [Bool.or_eq_true, Bool.and_eq_true, beq_iff_eq] at continues
      exact continues.imp id And.left
  | case5 character next rest stops => simp

/-- Without a quotation mark in its content, a quoted text ends at the first mark. -/
theorem quotedText?_extent {content : List Char} {count : Nat}
    (read : quotedText? characters = some (content, count)) (unmarked : '"' ∉ content) :
    ∃ body tail, characters = body ++ '"' :: tail ∧ count = body.length + 1 ∧ '"' ∉ body := by
  fun_induction quotedText? characters generalizing content count with
  | case1 => cases read
  | case2 next rest character escaped ih =>
      obtain ⟨⟨content, count⟩, following, same⟩ := Option.map_eq_some_iff.mp read
      cases same
      obtain ⟨body, tail, rfl, rfl, closed⟩ :=
        ih following (List.not_mem_of_not_mem_cons unmarked)
      -- The escaped character is no mark, or it would stand in the content.
      have other : next ≠ '"' := by
        rintro rfl
        cases escaped
        exact unmarked List.mem_cons_self
      refine ⟨'\\' :: next :: body, tail, rfl, rfl, ?_⟩
      simp [closed, other.symm]
  | case3 next rest plain ih =>
      obtain ⟨⟨content, count⟩, following, same⟩ := Option.map_eq_some_iff.mp read
      cases same
      obtain ⟨body, tail, split, rfl, closed⟩ :=
        ih following (List.not_mem_of_not_mem_cons unmarked)
      refine ⟨'\\' :: body, tail, by rw [split]; rfl, rfl, ?_⟩
      simp [closed]
  | case4 character rest escapes closes =>
      cases read
      rw [beq_iff_eq] at closes
      exact ⟨[], rest, by rw [closes]; rfl, rfl, List.not_mem_nil⟩
  | case5 character rest escapes opens ih =>
      obtain ⟨⟨content, count⟩, following, same⟩ := Option.map_eq_some_iff.mp read
      cases same
      obtain ⟨body, tail, rfl, rfl, closed⟩ :=
        ih following (List.not_mem_of_not_mem_cons unmarked)
      rw [beq_iff_eq] at opens
      refine ⟨character :: body, tail, rfl, rfl, ?_⟩
      rw [List.mem_cons]
      rintro (rfl | among)
      · exact opens rfl
      · exact closed among

end Lexer

end DecisionTables
