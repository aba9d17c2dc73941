import DecisionTables.Proofs.Expression.Literals
import DecisionTables.Proofs.Value.Coercion

/-!
# Restoring values from their texts

Integers, truth values and days are written in such a way that the conversion to their own type
reads them back. An integer with more digits than are written has no text, but then it passes the
conversion to a text as it is, and so it is restored as well.
-/

namespace DecisionTables

/-! ## Integers -/

/-- The digits of ASCII are the first among the digits of all scripts. -/
theorem Text.digitValue?_of_isAsciiDigit {character : Char}
    (digit : isAsciiDigit character = true) :
    digitValue? character = some (asciiDigitValue character) := by
  have bounds := of_decide_eq_true digit
  have within :
      (decide (0x30 ≤ character.toNat) && decide (character.toNat < 0x30 + 10)) = true := by
    rw [Bool.and_eq_true, decide_eq_true_eq, decide_eq_true_eq]
    omega
  have first : zeroDigits.find?
      (fun first => decide (first ≤ character.toNat) && decide (character.toNat < first + 10)) =
        some 0x30 := List.find?_cons_of_pos within
  rw [digitValue?, first]
  rfl

namespace Numeral

variable {whole : Int} {text : String}

/-- Digits that no underscore separates are taken one by one. -/
theorem separatedDigits?_digits {characters : List Char} (afterDigit : Bool)
    (decimal : ∀ character ∈ characters, Text.isAsciiDigit character = true)
    (ended : afterDigit = true ∨ characters ≠ []) :
    separatedDigits? afterDigit characters = some (characters.map Text.asciiDigitValue) := by
  induction characters generalizing afterDigit with
  | nil => simpa [separatedDigits?] using ended
  | cons first rest ih =>
      obtain ⟨digit, others⟩ := List.forall_mem_cons.mp decimal
      have separator : (first == '_') = false := by
        rw [beq_eq_false_iff_ne]
        rintro rfl
        cases digit
      simp [separatedDigits?, separator, Text.digitValue?_of_isAsciiDigit digit,
        ih true others (.inl rfl)]

theorem mem_writtenInteger {character : Char} (among : character ∈ writtenInteger whole) :
    Text.isAsciiDigit character = true ∨ character = '-' := by
  rw [writtenInteger] at among
  split at among
  · obtain rfl | digit := List.mem_cons.mp among
    · exact .inr rfl
    · exact .inl (isAsciiDigit_of_mem_digits digit)
  · exact .inl (isAsciiDigit_of_mem_digits among)

/-- No blank stands at either end of a written integer. -/
theorem trimmed_writtenInteger : Text.trimmed (writtenInteger whole) = writtenInteger whole := by
  have solid : ∀ character ∈ writtenInteger whole, Text.isBlank character = false := by
    intro character among
    obtain digit | rfl := mem_writtenInteger among
    · exact Text.isBlank_of_isAsciiDigit digit
    · decide
  exact Text.trimmed_eq_self_iff.mpr ⟨fun first front => solid first (List.mem_of_head? front),
    fun last back => solid last (List.mem_of_getLast? back)⟩

/-- The sign of a written integer is split from its digits. -/
theorem splitSign_writtenInteger :
    splitSign (writtenInteger whole) = (decide (whole < 0), digits whole.natAbs) := by
  rw [writtenInteger]
  split
  · rename_i negative
    rw [decide_eq_true negative]
    rfl
  · rename_i natural
    obtain ⟨first, rest, shown⟩ := List.exists_cons_of_ne_nil (@digits_ne_nil whole.natAbs)
    have digit : Text.isAsciiDigit first = true :=
      isAsciiDigit_of_mem_digits (shown ▸ List.mem_cons_self)
    have minus : first ≠ '-' := by
      rintro rfl
      cases digit
    have plus : first ≠ '+' := by
      rintro rfl
      cases digit
    simp [natural, shown, splitSign, minus, plus]

theorem length_digits_le {number count : Nat} (positive : 0 < count)
    (short : number < Nat.pow 10 count) : (digits number).length ≤ count :=
  (Nat.length_toDigits_le_iff (by decide) positive).mpr short

theorem signed_natAbs (whole : Int) : signed (decide (whole < 0)) whole.natAbs = whole := by
  rw [signed]
  split
  · rename_i negative
    rw [decide_eq_true_eq] at negative
    omega
  · rename_i natural
    rw [decide_eq_true_eq] at natural
    omega

/-- An integer is read back from its text. -/
theorem integer?_integerText (written : integerText whole = .ok text) :
    integer? text = some whole := by
  rw [integerText] at written
  split at written
  · cases written
  · rename_i short
    cases written
    have counted : ¬maxDigits < (digits whole.natAbs).length := by
      rw [isTooLong, decide_eq_true_eq, Nat.not_le] at short
      exact Nat.not_lt.mpr (length_digits_le (by decide) short)
    have read := separatedDigits?_digits false
      (fun character => @isAsciiDigit_of_mem_digits whole.natAbs character) (.inr digits_ne_nil)
    rw [integer?, String.toList_ofList, trimmed_writtenInteger, splitSign_writtenInteger]
    simp only [read, List.length_map, if_neg counted, value_digits, signed_natAbs]

end Numeral

/-! ## Values -/

namespace Value

variable {whole : Int} {text : String}

/-- A value is restored if it converts to a text that converts back to it. -/
theorem restored_of_text {type : ValueType} {typeRef : Option String} {value : Value}
    (strict : Bool) (present : value ≠ .null) (known : typeRef.bind ValueType.ofName? = some type)
    (written : Conversion.toText? value = some (.text text))
    (read : type.convert? (.text text) = some value) :
    (value.coerce false (some "string") >>= coerce strict typeRef) = .ok value := by
  have named : (some "string").bind ValueType.ofName? = some .string := rfl
  have converts : value.coerce false (some "string") = .ok (.text text) :=
    coerce_of_convert? false ((convert?_known named value present).trans written)
  rw [converts]
  exact coerce_of_convert? strict ((convert?_known known (.text text) nofun).trans read)

/-- The conversion of an integer to a text is to write it. -/
theorem toText?_integer : Conversion.toText? (integer whole) =
    match Numeral.integerText whole with
    | .ok text => some (.text text)
    | .error _ => none := by
  cases written : Numeral.integerText whole with
  | ok text => simp only [Conversion.toText?, integer, plain, Number.plain, written]
  | error fault => simp only [Conversion.toText?, integer, plain, Number.plain, written]

/-- Under the types of whole numbers and of numbers an integer is read back from its text. -/
theorem convert?_integerText {type : ValueType}
    (among : type ∈ [ValueType.integer, .long, .number])
    (written : Numeral.integerText whole = .ok text) :
    type.convert? (.text text) = some (integer whole) := by
  have read := Numeral.integer?_integerText written
  simp only [List.mem_cons, List.not_mem_nil, or_false] at among
  obtain rfl | rfl | rfl := among <;>
    simp [ValueType.convert?, Conversion.toInteger?, Conversion.toNumber?, read]

theorem hasType_integer {type : ValueType} (whole : Int)
    (among : type ∈ [ValueType.integer, .long, .number]) : (integer whole).HasType type := by
  simp only [List.mem_cons, List.not_mem_nil, or_false] at among
  obtain rfl | rfl | rfl := among
  · exact .integer
  · exact .long
  · exact .whole

/-- An integer is restored, whether it has a text or passes the conversion to one. -/
theorem restored_integer {typeRef : Option String} (strict : Bool) (whole : Int)
    (named : typeRef ∈ [some "integer", some "long", some "number"]) :
    ((integer whole).coerce false (some "string") >>= coerce strict typeRef) =
      .ok (integer whole) := by
  obtain ⟨type, among, known⟩ := exists_known_number named
  cases written : Numeral.integerText whole with
  | ok text =>
      have converts : Conversion.toText? (integer whole) = some (.text text) := by
        rw [toText?_integer, written]
      exact restored_of_text strict nofun known converts (convert?_integerText among written)
  | error fault =>
      have refused : (integer whole).convert? (some "string") = none := by
        rw [convert?_known rfl (integer whole) nofun, ValueType.convert?, toText?_integer, written]
      have passes : (integer whole).coerce false (some "string") = .ok (integer whole) :=
        coerce_eq_ok_iff.mpr (.inr ⟨rfl, refused, rfl⟩)
      have settled := (hasType_integer whole among).convert?
      rw [passes]
      exact coerce_of_convert? strict ((convert?_known known (integer whole) nofun).trans settled)

theorem toBoolean?_text (truth : Bool) :
    Conversion.toBoolean? (.text (if truth then "true" else "false")) = some (.boolean truth) := by
  cases truth with
  | true =>
      have lowered : Text.lower (Text.trim "true") = "true" := by decide
      simp [Conversion.toBoolean?, lowered]
  | false =>
      have lowered : Text.lower (Text.trim "false") = "false" := by decide
      simp [Conversion.toBoolean?, lowered]

theorem toDate?_isoText (date : Date) :
    Conversion.toDate? (.text date.isoText) = some (.date date) := by
  rw [Conversion.toDate?, date.trim_isoText, date.ofIso?_isoText, Option.map_some]

theorem restored_boolean (strict truth : Bool) :
    ((Value.boolean truth).coerce false (some "string") >>= coerce strict (some "boolean")) =
      .ok (.boolean truth) :=
  restored_of_text strict nofun rfl rfl (toBoolean?_text truth)

theorem restored_date (strict : Bool) (date : Date) :
    ((Value.date date).coerce false (some "string") >>= coerce strict (some "date")) =
      .ok (.date date) :=
  restored_of_text strict nofun rfl rfl (toDate?_isoText date)

end Value

/-! ## Calls -/

/-- A function that restores what it is given as a text, if a conversion does. -/
theorem Expression.evaluate_restoring {environment : Environment} {operand : Expression}
    {value : Value} {function : Function} (restores : function ≠ .string)
    (restored : (value.coerce false (some "string") >>=
      Value.coerce true (some function.word)) = .ok value)
    (evaluates : operand.evaluate environment = .ok value) :
    (call function (.call .string operand)).evaluate environment = .ok value := by
  obtain ⟨text, converts, read⟩ := Except.bind_eq_ok_iff.mp restored
  have strictly : Value.convertStrictly function.word text = .ok value := by
    rw [Value.convertStrictly, read]
  have written : value.callFunction .string = .ok text := by
    simp only [Value.callFunction, converts]
  simp only [evaluate, evaluates, Except.ok_bind, written]
  cases function with
  | string => exact absurd rfl restores
  | date | number => exact strictly

namespace Grammar

open Lexer

variable {function : Function} {word : String}

/-- Whether a word by itself is the name of a variable. -/
structure IsVariable (word : String) : Prop where
  spells : Spells word.toList (.name word)
  /-- No constant has the name. -/
  free : Expression.constant? word = none
  /-- No members are named. -/
  undotted : '.' ∉ word.toList

/-- No name begins with the sign of equality. -/
theorem ne_equality_of_spells {first : Char} {further : List Char}
    (spells : Spells (first :: further) (.name word)) : first ≠ '=' := by
  rintro rfl
  obtain ⟨_, _, _, split, _, found, _⟩ := spells_iff.mp spells
  cases split
  have symbol : lexeme '=' further = .ok ⟨.symbol .equal, 0⟩ := (Takes.symbol rfl).lexeme
  rw [symbol] at found
  cases found

theorem IsVariable.embeds (named : IsVariable word) : Embeds word.toList (.name word) where
  front := by
    obtain ⟨first, further, split⟩ := List.exists_cons_of_ne_nil named.spells.nonempty
    exact ⟨first, by rw [split, List.head?_cons], ne_equality_of_spells (split ▸ named.spells)⟩
  reads := by
    intro start tail closing rest closed read
    have ends : GoesOnNothing (')' :: tail) := .ofOther rfl rfl (by decide)
    refine ⟨_, tokensFrom_word named.spells ends read, ?_⟩
    refine (Derives.unsigned (.name rfl named.free ?_)).expression
    simp [afterSymbol?, closed]

/-- A name without points stands for the variable of that name. -/
theorem ofName_eq_of_undotted (undotted : '.' ∉ word.toList) : Path.ofName word = ⟨word, []⟩ := by
  have whole : ∀ characters part : List Char, '.' ∉ characters →
      Text.splitFrom '.' part characters = [part.reverse ++ characters] := by
    intro characters
    induction characters with
    | nil => exact fun part _ => congrArg List.singleton (List.append_nil _).symm
    | cons first rest ih =>
        intro part absent
        rw [List.mem_cons, not_or] at absent
        obtain ⟨other, absent⟩ := absent
        have differs : (first == '.') = false := beq_eq_false_iff_ne.mpr (Ne.symm other)
        simp [Text.splitFrom, differs, ih _ absent]
  have split := whole word.toList [] undotted
  rw [Path.ofName, Text.splitOn, split, List.reverse_nil, List.nil_append, List.map_singleton,
    String.ofList_toList]

theorem IsVariable.evaluate {context : Context} {subject value : Value}
    (named : IsVariable word) (bound : context.bindings.get? word = some value) :
    (Expression.name (Path.ofName word)).evaluate ⟨context, subject⟩ = .ok value := by
  rw [ofName_eq_of_undotted named.undotted]
  simp only [Expression.evaluate, bound]
  cases value <;> rfl

/-- The text of a function of the text of a variable is compiled. -/
theorem IsVariable.compile (named : IsVariable word) (function : Function) :
    CompiledExpression.compile (function.word ++ "(string(" ++ word ++ "))") =
      .ok ⟨function.word ++ "(string(" ++ word ++ "))",
        .call function (.call .string (.name (Path.ofName word)))⟩ := by
  have shown : function.word ++ "(string(" ++ word ++ "))" =
      String.ofList (called function (called .string word.toList)) := by
    rw [← String.toList_inj, String.toList_ofList]
    simp [called, Function.word]
  obtain ⟨tokens, tokenized, derives⟩ := named.embeds.call.tokenize_call function
  rw [← shown] at tokenized
  have parsed := Expression.parse_of_derives tokenized (Derives.unsigned derives).expression
  rw [CompiledExpression.compile, parsed]
  rfl

/-- A function that restores the value of a variable from its text does so in a compiled text. -/
theorem IsVariable.compile_restores (named : IsVariable word) {context : Context} {value : Value}
    (bound : context.bindings.get? word = some value) (restores : function ≠ .string)
    (restored : (value.coerce false (some "string") >>=
      Value.coerce true (some function.word)) = .ok value) :
    ∃ compiled, CompiledExpression.compile (function.word ++ "(string(" ++ word ++ "))") =
        .ok compiled ∧ compiled.evaluate context = .ok value := by
  refine ⟨_, named.compile function, CompiledExpression.evaluate_eq_ok_iff.mpr ?_⟩
  exact Expression.evaluate_restoring restores restored (named.evaluate bound)

end Grammar

/-! ## The round trips -/

/-- What is converted to a text is restored from it. -/
structure RestoredFromText : Prop where
  /-- An integer of any size is restored by the types of whole numbers and of numbers. -/
  integer : ∀ (whole : Int) (strict : Bool),
    ∀ typeRef ∈ [some "integer", some "long", some "number"],
      ((Value.integer whole).coerce false (some "string") >>= Value.coerce strict typeRef) =
        .ok (.integer whole)
  boolean : ∀ truth strict : Bool,
    ((Value.boolean truth).coerce false (some "string") >>=
      Value.coerce strict (some "boolean")) = .ok (.boolean truth)
  /-- Every day of the calendar is restored. -/
  date : ∀ (date : Date) (strict : Bool),
    ((Value.date date).coerce false (some "string") >>= Value.coerce strict (some "date")) =
      .ok (.date date)
  /-- In the language an integer that a variable is bound to is restored by a function. -/
  number_call : ∀ (word : String) (context : Context) (whole : Int), Grammar.IsVariable word →
    context.bindings.get? word = some (.integer whole) →
    ∃ compiled, CompiledExpression.compile ("number(string(" ++ word ++ "))") = .ok compiled ∧
      compiled.evaluate context = .ok (.integer whole)
  /-- So is a day. -/
  date_call : ∀ (word : String) (context : Context) (date : Date), Grammar.IsVariable word →
    context.bindings.get? word = some (.date date) →
    ∃ compiled, CompiledExpression.compile ("date(string(" ++ word ++ "))") = .ok compiled ∧
      compiled.evaluate context = .ok (.date date)

theorem restoredFromText : RestoredFromText := by
  constructor
  · exact fun whole strict _ named => Value.restored_integer strict whole named
  · exact fun truth strict => Value.restored_boolean strict truth
  · exact fun date strict => Value.restored_date strict date
  · intro word context whole named bound
    have begins : Function.number.word ++ "(string(" = "number(string(" := by decide
    rw [← begins]
    exact named.compile_restores bound nofun (Value.restored_integer true whole (by decide))
  · intro word context date named bound
    have begins : Function.date.word ++ "(string(" = "date(string(" := by decide
    rw [← begins]
    exact named.compile_restores bound nofun (Value.restored_date true date)

theorem amount_restored :
    Grammar.IsVariable "amount" ∧
      ∃ compiled, CompiledExpression.compile "number(string(amount))" = .ok compiled ∧
        compiled.evaluate (.ofBindings [("amount", .integer (-120))]) = .ok (.integer (-120)) := by
  have named : Grammar.IsVariable "amount" :=
    ⟨(Lexer.Takes.name rfl).spells (by decide), rfl, by decide⟩
  exact ⟨named, restoredFromText.number_call "amount" _ _ named rfl⟩

end DecisionTables
