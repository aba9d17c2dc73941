import DecisionTables.Proofs.Expression.Lexemes

/-!
# How far lexemes reach

A lexeme is read from its own characters alone. What follows them matters only in that the lexeme
must not go on with it: no lexeme goes on with a blank, and a number, a text or a name does not go
on with the range symbol either. Whatever follows the characters of a lexeme can therefore be
exchanged for anything that the lexeme does not go on with.
-/

namespace DecisionTables

/-! ## Blanks -/

namespace Text

theorem mem_codes_of_inRanges {ranges : List (Nat × Nat)} {code : Nat}
    (within : inRanges ranges code = true) :
    code ∈ ranges.flatMap fun range => List.range' range.1 (range.2 + 1 - range.1) := by
  induction ranges with
  | nil => cases within
  | cons range rest ih =>
      obtain ⟨first, last⟩ := range
      rw [List.flatMap_cons, List.mem_append]
      simp only [inRanges] at within
      split at within
      · cases within
      · split at within
        · refine .inl (List.mem_range'.mpr ⟨code - first, ?_, ?_⟩)
          · omega
          · omega
        · exact .inr (ih within)

/-- A blank belongs to no name and no number, and it is part of no symbol. -/
theorem isBlank_excludes {character : Char} (blank : isBlank character = true) :
    isAlphanumeric character = false ∧ isAsciiDigit character = false ∧ character ≠ '_' ∧
      character ≠ '.' ∧ character ≠ '=' := by
  -- There are few blanks, so their codes can be looked up one by one.
  have excluded : ((blankRanges.flatMap fun range =>
      List.range' range.1 (range.2 + 1 - range.1)).all fun code =>
        !(inRanges letterRanges code || inRanges numericRanges code ||
          decide (0x30 ≤ code ∧ code ≤ 0x39) || code == '_'.toNat || code == '.'.toNat ||
          code == '='.toNat)) = true := by decide +kernel
  have other := List.all_eq_true.mp excluded _ (mem_codes_of_inRanges blank)
  simp only [Bool.not_eq_true', Bool.or_eq_false_iff, beq_eq_false_iff_ne] at other
  obtain ⟨⟨⟨⟨⟨letter, numeric⟩, digit⟩, underscore⟩, point⟩, equal⟩ := other
  refine ⟨?_, digit, ?_, ?_, ?_⟩
  · rw [isAlphanumeric, isLetter, letter, numeric]
    rfl
  · rintro rfl
    exact underscore rfl
  · rintro rfl
    exact point rfl
  · rintro rfl
    exact equal rfl

theorem isBlank_of_isAsciiDigit {character : Char} (digit : isAsciiDigit character = true) :
    isBlank character = false := by
  by_contra blank
  rw [Bool.not_eq_false] at blank
  rw [(isBlank_excludes blank).2.1] at digit
  cases digit

end Text

namespace Lexer

variable {first : Char} {rest characters tail : List Char} {lexed : Lexed}

/-! ## What ends a lexeme -/

def BeginsBlank (characters : List Char) : Prop :=
  ∀ first ∈ characters.head?, Text.isBlank first = true

theorem beginsBlank_nil : BeginsBlank [] :=
  nofun

theorem beginsBlank_cons (blank : Text.isBlank first = true) : BeginsBlank (first :: rest) := by
  intro _ front
  cases front
  exact blank

/-- Whether characters go on with neither a number nor a name. -/
structure GoesOnNothing (characters : List Char) : Prop where
  digits : characters.takeWhile Text.isAsciiDigit = []
  fraction : fraction? characters = none
  name : nameLength characters = 0

theorem GoesOnNothing.ofOther (digit : Text.isAsciiDigit first = false)
    (name : continuesName first = false) (point : first ≠ '.') :
    GoesOnNothing (first :: tail) := by
  refine ⟨?_, ?_, ?_⟩
  · simp [digit]
  · simp [fraction?, point]
  · cases tail with
    | nil => simp [nameLength, name]
    | cons next tail => simp [nameLength, name, point]

theorem GoesOnNothing.ofBlank (begins : BeginsBlank tail) : GoesOnNothing tail := by
  cases tail with
  | nil => exact ⟨rfl, rfl, rfl⟩
  | cons blank tail =>
      obtain ⟨alphanumeric, digit, underscore, point, _⟩ :=
        Text.isBlank_excludes (begins blank rfl)
      exact .ofOther digit (by simp [continuesName, alphanumeric, underscore]) point

theorem GoesOnNothing.ofRange : GoesOnNothing ('.' :: '.' :: rest) := by
  have outside : Text.isAsciiDigit '.' = false ∧ continuesName '.' = false ∧
      startsName '.' = false := by decide
  refine ⟨?_, ?_, ?_⟩
  · simp [outside.1]
  · simp [fraction?, outside.1]
  · simp [nameLength, outside.2.1, outside.2.2]

/-! ## Numbers -/

section Digits

variable {digits : List Char} (decimal : ∀ digit ∈ digits, Text.isAsciiDigit digit = true)
  (ends : tail.takeWhile Text.isAsciiDigit = [])

include decimal ends

theorem takeWhile_digits_append : (digits ++ tail).takeWhile Text.isAsciiDigit = digits := by
  rw [List.takeWhile_append_of_pos decimal, ends, List.append_nil]

theorem dropWhile_digits_append : (digits ++ tail).dropWhile Text.isAsciiDigit = tail := by
  have whole : tail.takeWhile Text.isAsciiDigit ++ tail.dropWhile Text.isAsciiDigit = tail :=
    List.takeWhile_append_dropWhile
  rw [List.dropWhile_append_of_pos decimal]
  rwa [ends, List.nil_append] at whole

end Digits

section Numbers

variable {digits fraction : List Char}
  (decimal : ∀ digit ∈ digits, Text.isAsciiDigit digit = true)

include decimal

/-- Digits that no digit and no fraction follows are a whole number. -/
theorem number_whole (nonempty : digits ≠ []) (short : digits.length ≤ Numeral.maxDigits)
    (ends : GoesOnNothing tail) :
    startsNumber (digits ++ tail) = true ∧
      number (digits ++ tail) = .ok ⟨.integer (Numeral.value (digits.map Text.asciiDigitValue)),
        digits.length - 1⟩ := by
  constructor
  · cases digits with
    | nil => exact absurd rfl nonempty
    | cons first digits => simp [startsNumber, decimal first List.mem_cons_self]
  · simp only [number, takeWhile_digits_append decimal ends.digits,
      dropWhile_digits_append decimal ends.digits, ends.fraction]
    rw [if_neg (Nat.not_lt_of_le short)]

/-- Digits around a point, of which some follow it, are a number with a fraction. -/
theorem number_fraction (further : ∀ digit ∈ fraction, Text.isAsciiDigit digit = true)
    (nonempty : fraction ≠ []) (ends : GoesOnNothing tail) :
    startsNumber (digits ++ '.' :: (fraction ++ tail)) = true ∧
      number (digits ++ '.' :: (fraction ++ tail)) =
        .ok ⟨.double (Numeral.nearestDouble false ((digits ++ fraction).map Text.asciiDigitValue)
          (-fraction.length)), digits.length + fraction.length⟩ := by
  have found : fraction? ('.' :: (fraction ++ tail)) = some fraction := by
    simp [fraction?, takeWhile_digits_append further ends.digits, nonempty]
  have point : ('.' :: (fraction ++ tail)).takeWhile Text.isAsciiDigit = [] := rfl
  constructor
  · cases digits with
    | nil => simp [startsNumber, found]
    | cons first digits => simp [startsNumber, decimal first List.mem_cons_self]
  · simp only [number, takeWhile_digits_append decimal point, dropWhile_digits_append decimal point,
      found]

end Numbers

theorem fraction?_ne_nil {fraction : List Char} (found : fraction? characters = some fraction) :
    fraction ≠ [] := by
  unfold fraction? at found
  split at found
  · simp only [Option.ite_none_left_eq_some, Option.some.injEq] at found
    obtain ⟨some, rfl⟩ := found
    simpa using some
  · cases found

/-- A number depends on its own characters alone. -/
theorem number_append (starts : startsNumber characters = true)
    (read : number characters = .ok lexed) (ends : GoesOnNothing tail) :
    startsNumber (characters.take (lexed.further + 1) ++ tail) = true ∧
      number (characters.take (lexed.further + 1) ++ tail) = .ok lexed := by
  have whole : characters.takeWhile Text.isAsciiDigit ++
      characters.dropWhile Text.isAsciiDigit = characters := List.takeWhile_append_dropWhile
  have decimal : ∀ digit ∈ characters.takeWhile Text.isAsciiDigit,
      Text.isAsciiDigit digit = true := fun digit => List.mem_takeWhile_imp
  have nonempty := takeWhile_ne_nil_of_startsNumber starts
  simp only [number] at read
  generalize characters.takeWhile Text.isAsciiDigit = digits at *
  split at read
  · rename_i fraction found
    obtain ⟨after, split, further⟩ := fraction?_eq_some found
    have some : fraction ≠ [] := fraction?_ne_nil found
    cases read
    have taken : characters.take (digits.length + fraction.length + 1) =
        digits ++ '.' :: fraction := by
      rw [← whole, split, Nat.add_assoc, List.take_length_add_append, List.take_succ_cons,
        List.take_left]
    rw [taken, List.append_assoc]
    exact number_fraction decimal further some ends
  · rename_i missing
    split at read
    · cases read
    · rename_i short
      cases read
      have taken : characters.take (digits.length - 1 + 1) = digits := by
        rw [Nat.sub_add_cancel (List.length_pos_iff.mpr (nonempty missing)), ← whole,
          List.take_left]
      rw [taken]
      exact number_whole decimal (nonempty missing) (Nat.le_of_not_lt short) ends

/-! ## Names -/

theorem continuesName_of_startsName (starts : startsName first = true) :
    continuesName first = true := by
  rw [startsName, Bool.or_eq_true] at starts
  rw [continuesName, Text.isAlphanumeric, Bool.or_eq_true, Bool.or_eq_true]
  exact starts.imp .inl id

theorem nameLength_cons (continues : continuesName first = true) :
    nameLength (first :: rest) = nameLength rest + 1 := by
  cases rest with
  | nil => simp [nameLength, continues]
  | cons next rest => simp [nameLength, continues]

theorem nameLength_point (starts : startsName first = true) :
    nameLength ('.' :: first :: rest) = nameLength (first :: rest) + 1 := by
  simp [nameLength, starts]

/-- The length of a name depends on the characters of the name alone. -/
theorem nameLength_append (characters : List Char) (ends : nameLength tail = 0) :
    nameLength (characters.take (nameLength characters) ++ tail) = nameLength characters := by
  fun_induction nameLength characters with
  | case1 => exact ends
  | case2 character continues =>
      rw [List.take_succ_cons, List.take_nil, List.cons_append, nameLength_cons continues,
        List.nil_append, ends]
  | case3 character stops => exact ends
  | case4 character next rest goes ih =>
      rw [List.take_succ_cons, List.cons_append]
      by_cases continues : continuesName character = true
      · rw [nameLength_cons continues, ih]
      · -- A point goes on with the name only before a character that is taken with it.
        simp only [continues, Bool.false_or, Bool.and_eq_true, beq_iff_eq] at goes
        obtain ⟨rfl, starts⟩ := goes
        rw [nameLength_cons (continuesName_of_startsName starts)] at ih ⊢
        rw [List.take_succ_cons, List.cons_append] at ih ⊢
        rw [nameLength_point starts, ih]
  | case5 character next rest stops => exact ends

/-! ## Texts -/

theorem quotedText?_plain (unescaped : first ≠ '\\') (opens : first ≠ '"') :
    quotedText? (first :: rest) =
      (quotedText? rest).map fun (content, count) => (first :: content, count + 1) := by
  rw [quotedText?.eq_def]
  split
  · rename_i shown
    cases shown
  · rename_i shown
    cases shown
    exact absurd rfl unescaped
  · rename_i shown
    cases shown
    rw [if_neg (by simpa using opens)]

/-- The content of a quoted text depends on the characters up to its closing mark alone. -/
theorem quotedText?_append {content : List Char} {count : Nat}
    (read : quotedText? characters = some (content, count)) (tail : List Char) :
    0 < count ∧ count ≤ characters.length ∧
      quotedText? (characters.take count ++ tail) = some (content, count) := by
  fun_induction quotedText? characters generalizing content count with
  | case1 => cases read
  | case2 next rest character escaped ih =>
      obtain ⟨⟨content, count⟩, following, same⟩ := Option.map_eq_some_iff.mp read
      cases same
      obtain ⟨_, within, again⟩ := ih following
      refine ⟨Nat.succ_pos _, Nat.succ_le_succ (Nat.succ_le_succ within), ?_⟩
      simp [quotedText?, escaped, again]
  | case3 next rest plain ih =>
      obtain ⟨⟨content, count⟩, following, same⟩ := Option.map_eq_some_iff.mp read
      cases same
      obtain ⟨positive, within, again⟩ := ih following
      refine ⟨Nat.succ_pos _, Nat.succ_le_succ within, ?_⟩
      obtain ⟨count, rfl⟩ := Nat.exists_eq_add_of_lt positive
      simp_all [quotedText?]
  | case4 character rest escapes closes =>
      cases read
      rw [beq_iff_eq] at closes
      subst closes
      exact ⟨Nat.one_pos, Nat.succ_le_succ (Nat.zero_le _), rfl⟩
  | case5 character rest escapes opens ih =>
      obtain ⟨⟨content, count⟩, following, same⟩ := Option.map_eq_some_iff.mp read
      cases same
      obtain ⟨positive, within, again⟩ := ih following
      -- A backslash would be followed by nothing, and then the text would not end.
      have plain : character ≠ '\\' := by
        rintro rfl
        cases rest with
        | nil => cases following
        | cons next rest => exact escapes next rest rfl rfl
      refine ⟨Nat.succ_pos _, Nat.succ_le_succ within, ?_⟩
      rw [List.take_succ_cons, List.cons_append, quotedText?_plain plain (by simpa using opens),
        again]
      rfl

/-! ## Symbols -/

/-- A symbol is not the beginning of a longer one unless an equality sign follows it. -/
theorem symbol?_append {symbol : Symbol} {further : Nat}
    (read : symbol? characters = some (symbol, further)) (ends : tail.head? ≠ some '=') :
    further < characters.length ∧
      symbol? (characters.take (further + 1) ++ tail) = some (symbol, further) := by
  unfold symbol? at read
  split at read
  case h_18 => cases read
  all_goals
    cases read
    refine ⟨by simp, ?_⟩
    cases tail with
    | nil => rfl
    | cons next tail =>
        have equal : next ≠ '=' := fun equal => ends (congrArg some equal)
        simp [symbol?, equal]

/-! ## Lexemes -/

/-- Whether a lexeme ends before some characters. A quoted text carries its own end. -/
def Ends : Lexeme → List Char → Prop
  | .text _, _ => True
  | .symbol _, characters => characters.head? ≠ some '='
  | _, characters => GoesOnNothing characters

theorem Ends.ofGoesOnNothing {lexeme : Lexeme} (ends : GoesOnNothing tail)
    (other : tail.head? ≠ some '=') : Ends lexeme tail := by
  cases lexeme with
  | text => trivial
  | symbol => exact other
  | _ => exact ends

/-- Every lexeme ends before a blank. -/
theorem Ends.ofBlank {lexeme : Lexeme} (begins : BeginsBlank tail) : Ends lexeme tail := by
  refine .ofGoesOnNothing (.ofBlank begins) fun front => ?_
  exact (Text.isBlank_excludes (begins '=' front)).2.2.2.2 rfl

/-- Every lexeme ends before the range symbol. -/
theorem Ends.ofRange {lexeme : Lexeme} : Ends lexeme ('.' :: '.' :: rest) :=
  .ofGoesOnNothing .ofRange (by simp)

theorem startsNumber_eq (other : first ≠ '.') :
    startsNumber (first :: rest) = Text.isAsciiDigit first := by
  simp [startsNumber, fraction?, other]

/-- What starts a name starts no number and no quoted text. -/
theorem startsName_excludes (starts : startsName first = true) :
    (∀ rest, startsNumber (first :: rest) = false) ∧ first ≠ '"' := by
  have point : first ≠ '.' := by
    rintro rfl
    cases starts
  constructor
  · intro rest
    rw [startsNumber_eq point]
    by_contra digit
    rw [Bool.not_eq_false, Text.isAsciiDigit, decide_eq_true_eq] at digit
    have letter : Text.isLetter first = false := by
      rw [Text.isLetter, Text.letterRanges, Text.inRanges, if_pos (by omega)]
    have underscore : first ≠ '_' := by
      rintro rfl
      exact absurd digit.2 (by decide)
    simp [startsName, letter, underscore] at starts
  · rintro rfl
    cases starts

/-- A symbol starts no number, no name and no quoted text. -/
theorem symbol?_excludes {symbol : Symbol} {further : Nat}
    (read : symbol? (first :: rest) = some (symbol, further)) :
    startsNumber (first :: rest) = false ∧ startsName first = false ∧ first ≠ '"' := by
  unfold symbol? at read
  split at read
  case h_18 => cases read
  all_goals
    rename_i shown
    cases shown
    exact ⟨rfl, by decide, by decide⟩

/-- What the lexical analysis takes for a lexeme, one case for each kind. -/
inductive Takes : Char → List Char → Lexed → Prop
  | number {first : Char} {rest : List Char} {lexed : Lexed} :
      startsNumber (first :: rest) = true → number (first :: rest) = .ok lexed →
      Takes first rest lexed
  | text {rest content : List Char} {count : Nat} :
      quotedText? rest = some (content, count) →
      Takes '"' rest ⟨.text (String.ofList content), count⟩
  | name {first : Char} {rest : List Char} :
      startsName first = true →
      Takes first rest
        ⟨.name (String.ofList (first :: rest.take (nameLength rest))), nameLength rest⟩
  | symbol {first : Char} {rest : List Char} {symbol : Symbol} {further : Nat} :
      symbol? (first :: rest) = some (symbol, further) →
      Takes first rest ⟨.symbol symbol, further⟩

theorem takes_of_lexeme (read : lexeme first rest = .ok lexed) : Takes first rest lexed := by
  unfold lexeme at read
  split at read
  · rename_i starts
    exact .number starts read
  · split at read
    · rename_i quoted
      rw [beq_iff_eq] at quoted
      subst quoted
      split at read
      · rename_i closes
        cases read
        exact .text closes
      · cases read
    · split at read
      · rename_i starts
        cases read
        exact .name starts
      · split at read
        · rename_i found
          cases read
          exact .symbol found
        · cases read

theorem Takes.lexeme (takes : Takes first rest lexed) : lexeme first rest = .ok lexed := by
  cases takes with
  | number starts read => rw [Lexer.lexeme, if_pos starts, read]
  | @text rest _ _ closes =>
      have number : startsNumber ('"' :: rest) = false := startsNumber_eq (by decide)
      simp [Lexer.lexeme, number, closes]
  | name starts =>
      obtain ⟨number, quoted⟩ := startsName_excludes starts
      simp [Lexer.lexeme, number, quoted, starts]
  | symbol found =>
      obtain ⟨number, name, quoted⟩ := symbol?_excludes found
      simp [Lexer.lexeme, number, quoted, name, found]

/-- A lexeme depends on its own characters alone: anything that ends it may follow them. -/
theorem lexeme_append (read : lexeme first rest = .ok lexed)
    (ends : Ends lexed.lexeme tail) :
    lexed.further ≤ rest.length ∧
      lexeme first (rest.take lexed.further ++ tail) = .ok lexed := by
  cases takes_of_lexeme read with
  | number starts read =>
      obtain ⟨kind, within, _⟩ := number_extent starts read
      have ends : GoesOnNothing tail := by
        rcases kind with ⟨_, kind⟩ | ⟨_, kind⟩
        all_goals rwa [kind] at ends
      obtain ⟨startsAgain, again⟩ := number_append starts read ends
      exact ⟨Nat.le_of_lt_succ within, (Takes.number startsAgain again).lexeme⟩
  | text closes =>
      obtain ⟨_, within, again⟩ := quotedText?_append closes tail
      exact ⟨within, (Takes.text again).lexeme⟩
  | name starts =>
      have length := nameLength_append rest (GoesOnNothing.name ends)
      have within := (nameLength_extent rest).1
      have named : Lexer.lexeme first (rest.take (nameLength rest) ++ tail) = .ok _ :=
        (Takes.name starts).lexeme
      rw [length, List.take_left' (List.length_take_of_le within)] at named
      exact ⟨within, named⟩
  | symbol found =>
      obtain ⟨within, again⟩ := symbol?_append found ends
      exact ⟨Nat.le_of_lt_succ within, (Takes.symbol again).lexeme⟩

end Lexer

end DecisionTables
