import DecisionTables.Expression.Compiled
import DecisionTables.Proofs.Breakdown

/-!
# Where reading breaks down

A text that is not of the language is refused with a syntax error, except for one thing: a whole
number of more digits than an integer may be written with. Reading breaks down exactly at such a
numeral, if the lexical analysis comes to it, that is if everything before it is made of lexemes.
-/

namespace DecisionTables

instance : Faulty ReadError := ⟨.fault⟩

namespace Lexer

/-- The characters that remain where the lexical analysis looks for a lexeme. -/
inductive ComesTo : List Char → List Char → Prop
  | here {first : Char} {rest : List Char} :
      Text.isBlank first = false → ComesTo (first :: rest) (first :: rest)
  | blank {first : Char} {rest found : List Char} :
      Text.isBlank first = true → ComesTo rest found → ComesTo (first :: rest) found
  | lexeme {first : Char} {rest found : List Char} {lexed : Lexed} :
      Text.isBlank first = false → lexeme first rest = .ok lexed →
      ComesTo (rest.drop lexed.further) found → ComesTo (first :: rest) found

/-- Whether characters begin with a whole number of too many digits. A number with a fraction may
have any number of digits. -/
def Overlong (characters : List Char) : Prop :=
  Numeral.maxDigits < (characters.takeWhile Text.isAsciiDigit).length ∧
    fraction? (characters.dropWhile Text.isAsciiDigit) = none

theorem startsNumber_of_overlong {first : Char} {rest : List Char}
    (overlong : Overlong (first :: rest)) : startsNumber (first :: rest) = true := by
  cases digit : Text.isAsciiDigit first with
  | true => simp [startsNumber, digit]
  | false =>
      have long := overlong.1
      rw [List.takeWhile_cons_of_neg (by simp [digit])] at long
      cases long

theorem number_tooLong_iff {characters : List Char} :
    number characters = .error .numeralTooLong ↔ Overlong characters := by
  simp only [number, Overlong]
  cases fraction? (characters.dropWhile Text.isAsciiDigit) with
  | some fraction => simp
  | none =>
      simp only [and_true]
      split
      · rename_i long
        simp [long]
      · rename_i short
        simp [short]

theorem lexeme_tooLong_iff {first : Char} {rest : List Char} :
    lexeme first rest = .error .numeralTooLong ↔ Overlong (first :: rest) := by
  cases starts : startsNumber (first :: rest) with
  | true => simp only [lexeme, starts, if_true, number_tooLong_iff]
  | false =>
      refine iff_of_false ?_ fun overlong => ?_
      · simp only [lexeme, starts, Bool.false_eq_true, if_false]
        split
        · split <;> simp
        · split
          · simp
          · split <;> simp
      · exact nomatch starts.symm.trans (startsNumber_of_overlong overlong)

section ComesTo

variable {first : Char} {rest found : List Char}

theorem not_comesTo_nil : ¬ComesTo [] found := nofun

theorem comesTo_blank_iff (blank : Text.isBlank first = true) :
    ComesTo (first :: rest) found ↔ ComesTo rest found := by
  refine ⟨fun comes => ?_, .blank blank⟩
  cases comes with
  | here shown | lexeme shown => exact nomatch shown.symm.trans blank
  | blank _ comes => exact comes

/-- In blanks alone there is nothing to come to. -/
theorem not_comesTo_of_blank {characters : List Char}
    (blank : characters.all Text.isBlank = true) : ¬ComesTo characters found := by
  induction characters with
  | nil => exact not_comesTo_nil
  | cons first rest ih =>
      rw [List.all_cons, Bool.and_eq_true] at blank
      rw [comesTo_blank_iff blank.1]
      exact ih blank.2

theorem comesTo_error_iff {error : LexicalError} (shown : Text.isBlank first = false)
    (failed : lexeme first rest = .error error) :
    ComesTo (first :: rest) found ↔ found = first :: rest := by
  refine ⟨fun comes => ?_, fun same => same ▸ .here shown⟩
  cases comes with
  | here => rfl
  | blank blank => exact nomatch shown.symm.trans blank
  | lexeme _ read => exact nomatch failed.symm.trans read

theorem comesTo_lexeme_iff {lexed : Lexed} (shown : Text.isBlank first = false)
    (read : lexeme first rest = .ok lexed) :
    ComesTo (first :: rest) found ↔
      found = first :: rest ∨ ComesTo (rest.drop lexed.further) found := by
  constructor
  · intro comes
    cases comes with
    | here => exact .inl rfl
    | blank blank => exact nomatch shown.symm.trans blank
    | lexeme _ other comes =>
        cases read.symm.trans other
        exact .inr comes
  · intro comes
    rcases comes with rfl | comes
    · exact .here shown
    · exact .lexeme shown read comes

end ComesTo

/-- The lexical analysis stops at a numeral that is too long exactly if it comes to one. -/
theorem tokensFrom_tooLong_iff {start : Nat} {characters : List Char} :
    (∃ position, tokensFrom start characters = .error (.numeralTooLong, position)) ↔
      ∃ found, ComesTo characters found ∧ Overlong found := by
  -- The cases are those of the analysis: no character, a blank, a lexeme that is not read, and one
  -- after which the rest fails or succeeds.
  fun_induction tokensFrom start characters with
  | case1 => simp [not_comesTo_nil]
  | case2 start first rest blank ih => simp only [ih, comesTo_blank_iff blank]
  | case3 start first rest shown error failed =>
      simp only [comesTo_error_iff (Bool.not_eq_true _ ▸ shown) failed, exists_eq_left,
        ← lexeme_tooLong_iff, failed, Except.error.injEq, Prod.mk.injEq, exists_and_left,
        exists_eq', and_true]
  | case4 start first rest shown lexed read error failed ih =>
      have short : ¬Overlong (first :: rest) := by simp [← lexeme_tooLong_iff, read]
      simp only [comesTo_lexeme_iff (Bool.not_eq_true _ ▸ shown) read, or_and_right, exists_or,
        exists_eq_left, short, false_or, ← ih, failed]
  | case5 start first rest shown lexed read tokens succeeded ih =>
      have short : ¬Overlong (first :: rest) := by simp [← lexeme_tooLong_iff, read]
      simp only [comesTo_lexeme_iff (Bool.not_eq_true _ ▸ shown) read, or_and_right, exists_or,
        exists_eq_left, short, false_or, ← ih, succeeded, reduceCtorEq]

end Lexer

/-! ## Texts -/

/-- Whether the lexical analysis of a text comes to a whole number of too many digits. -/
def Text.HasOverlongNumeral (text : String) : Prop :=
  ∃ found, Lexer.ComesTo text.toList found ∧ Lexer.Overlong found

variable {text : String}

@[simp] theorem not_breaks_invalid {α : Type} {error : SyntaxError} :
    ¬Breaks (.error (.invalid error) : Except ReadError α) := by
  intro impossible
  rcases impossible with ⟨_, ⟨⟩⟩

@[simp] theorem breaks_readFault {α : Type} {fault : Fault} :
    Breaks (.error (.fault fault) : Except ReadError α) :=
  ⟨fault, rfl⟩

theorem breaks_tokenize_iff : Breaks (tokenize text) ↔ Text.HasOverlongNumeral text := by
  rw [Text.HasOverlongNumeral, ← @Lexer.tokensFrom_tooLong_iff 0, tokenize]
  rcases Lexer.tokensFrom 0 text.toList with ⟨_ | character | _, position⟩ | tokens
  · simp [LexicalError.inText]
  · simp [LexicalError.inText]
  · simp [LexicalError.inText]
  · simp

theorem breaks_expression_iff :
    Breaks (CompiledExpression.compile text) ↔ Text.HasOverlongNumeral text := by
  rw [CompiledExpression.compile, breaks_map, Expression.parse]
  split
  · rename_i blank
    refine iff_of_false not_breaks_ok ?_
    intro overlong
    obtain ⟨_, comes, _⟩ := overlong
    exact Lexer.not_comesTo_of_blank blank comes
  · rw [← breaks_tokenize_iff]
    cases tokenize text with
    | error error => simp [Breaks]
    | ok tokens =>
        simp only [not_breaks_ok, iff_false]
        split <;> simp

theorem breaks_tests_iff : Breaks (CompiledTests.compile text) ↔ Text.HasOverlongNumeral text := by
  rw [CompiledTests.compile, breaks_map, UnaryTests.parse, ← breaks_tokenize_iff]
  cases tokenize text with
  | error error => simp [Breaks]
  | ok tokens =>
      simp only [not_breaks_ok, iff_false]
      split <;> simp

end DecisionTables
