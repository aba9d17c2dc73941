import DecisionTables.Proofs.Calendar.Date
import DecisionTables.Proofs.Expression.Layout
import DecisionTables.Proofs.UnaryTest.Entries
import DecisionTables.Proofs.Value.Signals

/-!
# Literals

Every constant can be written down: null, the truth values, integers, texts and days. As an output
entry its literal has the constant as its value, and as an input entry it accepts the subjects that
equal the constant. The integers are limited only by the number of digits that is read.
-/

namespace DecisionTables

/-! ## Escapes -/

/-- What stands after a backslash for a character that cannot stand for itself in a quoted text, or
for which an escape is customary. -/
def escapeMark? : Char → Option Char
  | '"' => some '"'
  | '\\' => some '\\'
  | '\n' => some 'n'
  | '\t' => some 't'
  | '\r' => some 'r'
  | _ => none

def escape (character : Char) : List Char :=
  match escapeMark? character with
  | some mark => ['\\', mark]
  | none => [character]

def quotedLiteral (content : List Char) : List Char :=
  '"' :: (content.flatMap escape ++ ['"'])

theorem escaped?_of_escapeMark? {character mark : Char}
    (found : escapeMark? character = some mark) : Lexer.escaped? mark = some character := by
  unfold escapeMark? at found
  split at found
  all_goals first | cases found; rfl | cases found

theorem plain_of_escapeMark? {character : Char} (missing : escapeMark? character = none) :
    character ≠ '\\' ∧ character ≠ '"' := by
  constructor
  · rintro rfl
    cases missing
  · rintro rfl
    cases missing

theorem escapeMark?_of_digit {character : Char} (digit : Text.isAsciiDigit character = true) :
    escapeMark? character = none := by
  unfold escapeMark?
  split
  all_goals first | rfl | cases digit

/-- The content of a quoted text is read back from its escaped form. -/
theorem Lexer.quotedText?_escaped (content rest : List Char) :
    quotedText? (content.flatMap escape ++ '"' :: rest) =
      some (content, (content.flatMap escape).length + 1) := by
  induction content with
  | nil => rfl
  | cons character content ih =>
      rw [List.flatMap_cons, List.append_assoc]
      cases found : escapeMark? character with
      | some mark =>
          have escapes := escaped?_of_escapeMark? found
          simp only [escape, found, List.cons_append, List.nil_append, quotedText?, escapes, ih]
          rfl
      | none =>
          obtain ⟨unescaped, opens⟩ := plain_of_escapeMark? found
          simp only [escape, found, List.cons_append, List.nil_append,
            quotedText?_plain unescaped opens, ih]
          rfl

/-! ## The words of literals -/

theorem spells_digits {number : Nat} (short : (Numeral.digits number).length ≤ Numeral.maxDigits) :
    Spells (Numeral.digits number) (.integer number) := by
  have decimal : ∀ digit ∈ Numeral.digits number, Text.isAsciiDigit digit = true :=
    fun digit => Numeral.isAsciiDigit_of_mem_digits
  obtain ⟨starts, read⟩ := Lexer.number_whole decimal Numeral.digits_ne_nil short
    (.ofBlank Lexer.beginsBlank_nil)
  rw [List.append_nil, Numeral.value_digits] at read
  rw [List.append_nil] at starts
  obtain ⟨first, rest, shown⟩ := List.exists_cons_of_ne_nil (@Numeral.digits_ne_nil number)
  rw [shown] at starts read ⊢
  have solid : Text.isBlank first = false :=
    Text.isBlank_of_isAsciiDigit (decimal first (shown ▸ List.mem_cons_self))
  exact (Lexer.Takes.number starts read).spells solid

theorem spells_quotedLiteral (content : List Char) :
    Spells (quotedLiteral content) (.text (String.ofList content)) := by
  have read := Lexer.quotedText?_escaped content []
  have counted :
      (content.flatMap escape).length + 1 = (content.flatMap escape ++ ['"']).length := by
    rw [List.length_append, List.length_singleton]
  rw [counted] at read
  exact (Lexer.Takes.text read).spells (by decide)

/-! ## Texts that stand for a value -/

/-- What a text does that stands for a value. -/
structure ReadsBack (text : String) (value : Value) : Prop where
  /-- As an output entry it is read, and has the value in every context. -/
  evaluates : ∃ expression, CompiledExpression.compile text = .ok expression ∧
    ∀ context, expression.evaluate context = .ok value
  /-- As an input entry it is read, and says in every context of a subject what the language says of
  the subject being equal to the value. It has an answer unless the subject is a signaling
  not-a-number. -/
  accepts : ∃ tests, CompiledTests.compile text = .ok tests ∧ ∀ subject context,
    (∀ passes, tests.accepts subject context = .ok passes ↔
      Value.compareWith .equal subject value = .ok (.boolean passes)) ∧
    (¬subject.IsSignaling → ∃ passes, tests.accepts subject context = .ok passes)

section Derived

open Grammar

variable {text : String} {tokens : List Token} {tree : Tree}

/-- A signed phrase is an expression. -/
theorem Grammar.Derives.expression {rest : List Token}
    (derives : Derives (.phrase .signed) tree tokens rest) :
    Derives (.phrase .disjunction) tree tokens rest :=
  .loop rfl (.loop rfl (.uncompared (.loop rfl (.loop rfl derives .stop) .stop)) .stop) .stop

theorem Expression.parse_of_derives (tokenized : tokenize text = .ok tokens)
    (derives : DerivesFrom tokens tree) : Expression.parse text = .ok tree.folded := by
  have read : (Expression.read tokens).complete = .ok tree.folded :=
    read_complete_iff.mpr ⟨tree, derives, rfl⟩
  have shown : ¬Text.isBlankText text = true := by
    intro blank
    have none := Lexer.tokensFrom_gap 0 [] (List.all_eq_true.mp blank)
    rw [List.append_nil, tokenize_eq_ok_iff.mp tokenized, Lexer.tokensFrom] at none
    cases none
    obtain ⟨_, _, nonempty, _⟩ := derives.front
    cases nonempty
  rw [Expression.parse, if_neg shown]
  simp only [tokenized, read]

/-- A test that is a value accepts what equals the value. -/
theorem UnaryTests.accepts_value {environment : Environment} {expression : Expression}
    {value : Value} (evaluates : expression.evaluate environment = .ok value) :
    (UnaryTests.oneOf [.value expression false]).accepts environment =
      Evaluated.ofFault (environment.subject.equals value) := by
  simp only [UnaryTests.accepts, UnaryTests.anyAccepts, UnaryTest.accepts, evaluates,
    Except.ok_bind]
  rcases environment.subject.equals value with fault | _ | _
  all_goals rfl

/-- A text stands for the value that its expression has everywhere. -/
theorem readsBack_of_derives {value : Value} (tokenized : tokenize text = .ok tokens)
    (derives : Derives (.phrase .signed) tree tokens [])
    (plain : UnaryTests.afterNegation? tokens = none) (silent : tree.folded.usesSubject = false)
    (evaluates : ∀ environment, tree.folded.evaluate environment = .ok value)
    (settled : ∀ {subject}, Value.Signals subject value → subject.IsSignaling) :
    ReadsBack text value := by
  have parsed := Expression.parse_of_derives tokenized derives.expression
  have entry := UnaryTests.parse_eq_ok_iff.mpr
    ⟨tokens, tokenized, UnaryTests.ofTokens_of_derives derives.expression plain⟩
  rw [silent] at entry
  constructor
  · refine ⟨⟨text, tree.folded⟩, ?_, fun context => ?_⟩
    · rw [CompiledExpression.compile, parsed, Except.map_ok]
    · exact CompiledExpression.evaluate_eq_ok_iff.mpr (evaluates _)
  · refine ⟨⟨text, .oneOf [.value tree.folded false]⟩, ?_, fun subject context => ?_⟩
    · rw [CompiledTests.compile, entry, Except.map_ok]
    · have tested (passes : Bool) :
          CompiledTests.accepts ⟨text, .oneOf [.value tree.folded false]⟩ subject context =
            .ok passes ↔ subject.equals value = .ok passes := by
        rw [CompiledTests.accepts, Evaluated.ofCell_eq_ok_iff,
          UnaryTests.accepts_value (evaluates _), Evaluated.ofFault_eq_ok_iff]
      refine ⟨fun passes => (tested passes).trans Value.compareWith_equal_iff.symm, ?_⟩
      intro quiet
      cases compared : subject.equals value with
      | ok passes => exact ⟨passes, (tested passes).mpr compared⟩
      | error fault =>
          exact absurd (settled (Value.breaks_equals_iff.mp ⟨fault, compared⟩).2) quiet

end Derived

/-! ## Calls -/

def Function.word : Function → String
  | .date => "date"
  | .string => "string"
  | .number => "number"

theorem Function.ofName?_word {function : Function} :
    Function.ofName? function.word = some function := by
  cases function <;> rfl

namespace Grammar

open Lexer

variable {function : Function} {characters tail : List Char} {tree : Tree} {start : Nat}
  {tokens rest : List Token}

theorem spells_word : Spells function.word.toList (.name function.word) := by
  cases function <;> exact (Takes.name rfl).spells (by decide)

/-- A call in characters. -/
def called (function : Function) (argument : List Char) : List Char :=
  function.word.toList ++ '(' :: (argument ++ [')'])

/-- Whether characters are read as a tree where a closing parenthesis follows them. -/
structure Embeds (characters : List Char) (tree : Tree) : Prop where
  front : ∃ first, characters.head? = some first ∧ first ≠ '='
  reads : ∀ {start : Nat} {tail : List Char} {closing : Token} {rest : List Token},
    closing.lexeme = .symbol .closeParenthesis →
    tokensFrom (start + characters.length) (')' :: tail) = .ok (closing :: rest) →
    ∃ tokens, tokensFrom start (characters ++ ')' :: tail) = .ok tokens ∧
      Derives (.phrase .disjunction) tree tokens (closing :: rest)

/-- A call of an embedded argument is read, whatever follows. -/
theorem Embeds.reads_call (argument : Embeds characters tree) (other : tail.head? ≠ some '=')
    (read : tokensFrom (start + (called function characters).length) tail = .ok rest) :
    ∃ tokens, tokensFrom start (called function characters ++ tail) = .ok tokens ∧
      Derives (.phrase .primary) (.call function tree) tokens rest := by
  have opening : Spells ['('] (.symbol .openParenthesis) := (Takes.symbol rfl).spells (by decide)
  have closing : Spells [')'] (.symbol .closeParenthesis) := (Takes.symbol rfl).spells (by decide)
  have counted : start + (called function characters).length =
      start + function.word.toList.length + 1 + characters.length + 1 := by
    simp only [called, List.length_append, List.length_cons, List.length_nil]
    omega
  have spread : called function characters ++ tail =
      function.word.toList ++ ('(' :: (characters ++ ')' :: tail)) := by
    simp [called]
  rw [counted] at read
  obtain ⟨tokens, inner, derives⟩ := argument.reads rfl (tokensFrom_word closing other read)
  obtain ⟨first, front, unequal⟩ := argument.front
  have ends : Ends (.symbol .openParenthesis) (characters ++ ')' :: tail) := by
    rw [Ends, List.head?_append, front]
    simpa using unequal
  have opened := tokensFrom_word opening ends inner
  have goes : GoesOnNothing ('(' :: (characters ++ ')' :: tail)) :=
    .ofOther rfl rfl (by decide)
  rw [spread]
  exact ⟨_, tokensFrom_word spells_word goes opened,
    .call rfl Function.ofName?_word rfl derives rfl⟩

theorem Embeds.call (argument : Embeds characters tree) :
    Embeds (called function characters) (.call function tree) where
  front := by
    cases function with
    | date => exact ⟨'d', rfl, by decide⟩
    | string => exact ⟨'s', rfl, by decide⟩
    | number => exact ⟨'n', rfl, by decide⟩
  reads _ read := by
    obtain ⟨tokens, whole, derives⟩ := argument.reads_call (by simp) read
    exact ⟨tokens, whole, (Derives.unsigned derives).expression⟩

theorem embeds_quotedLiteral (content : List Char) :
    Embeds (quotedLiteral content) (.literal (.text (String.ofList content))) where
  front := ⟨'"', rfl, by decide⟩
  reads _ read :=
    ⟨_, tokensFrom_word (spells_quotedLiteral content) trivial read,
      (Derives.unsigned (.literal rfl)).expression⟩

/-- A call by itself is read. -/
theorem Embeds.tokenize_call (argument : Embeds characters tree) (function : Function) :
    ∃ tokens, tokenize (String.ofList (called function characters)) = .ok tokens ∧
      Derives (.phrase .primary) (.call function tree) tokens [] := by
  have nothing : tokensFrom (0 + (called function characters).length) [] = .ok [] := by
    rw [tokensFrom]
  have read : ∃ tokens, tokensFrom 0 (called function characters ++ []) = .ok tokens ∧
      Derives (.phrase .primary) (.call function tree) tokens [] :=
    argument.reads_call (by decide) nothing
  obtain ⟨tokens, read, derives⟩ := read
  rw [List.append_nil] at read
  exact ⟨tokens, by rw [tokenize_eq_ok_iff, String.toList_ofList, read], derives⟩

/-- No function has the name that negates an entry. -/
theorem Derives.call_not_negation
    (derives : Derives (.phrase .primary) (.call function tree) tokens rest) :
    UnaryTests.afterNegation? tokens = none := by
  cases derives with
  | loop loops => cases loops
  | call named known =>
      rw [UnaryTests.afterNegation?, if_neg]
      rw [named]
      intro negates
      cases negates
      cases known

end Grammar

/-! ## Constants -/

/-- The values that have a literal. -/
inductive Constant where
  | null
  | boolean (value : Bool)
  | integer (value : Int) (short : (Numeral.digits value.natAbs).length ≤ Numeral.maxDigits)
  | text (value : String)
  | date (value : Date)

namespace Constant

def value : Constant → Value
  | .null => .null
  | .boolean value => .boolean value
  | .integer value _ => .integer value
  | .text value => .text value
  | .date value => .date value

def literal : Constant → String
  | .null => "null"
  | .boolean true => "true"
  | .boolean false => "false"
  | .integer value _ => String.ofList (Numeral.writtenInteger value)
  | .text value => String.ofList (quotedLiteral value.toList)
  | .date value => "date(\"" ++ value.isoText ++ "\")"

open Grammar

/-- Only a signaling not-a-number cannot be compared with a number that is none. -/
theorem isSignaling_of_signals {subject value : Value} {counted : Number}
    (number : value.counted? = some counted) (quiet : counted.isSignaling = false)
    (signals : Value.Signals subject value) : subject.IsSignaling := by
  cases signals with
  | number onLeft onRight signaling =>
      cases number.symm.trans onRight
      rw [quiet, Bool.false_eq_true, or_false] at signaling
      cases subject with
      | number subject =>
          cases onLeft
          exact ⟨_, rfl, signaling⟩
      | boolean =>
          cases onLeft
          cases signaling
      | null | text | date | moment | object | list | map => cases onLeft
  | list | map => cases number

/-- A name that stands for a constant reads back as it. -/
theorem readsBack_name {word : String} {value : Value}
    (shown : Expression.constant? word = some value)
    (tokenized : tokenize word = .ok [⟨.name word, 0⟩]) (other : word ≠ "not")
    (settled : ∀ {subject}, Value.Signals subject value → subject.IsSignaling) :
    ReadsBack word value := by
  refine readsBack_of_derives tokenized (.unsigned (.literal shown)) ?_ rfl (fun _ => rfl) settled
  rw [UnaryTests.afterNegation?, if_neg]
  intro named
  cases named
  exact other rfl

theorem readsBack_natural {number : Nat}
    (short : (Numeral.digits number).length ≤ Numeral.maxDigits) :
    ReadsBack (String.ofList (Numeral.digits number)) (.integer number) :=
  readsBack_of_derives (spells_digits short).read (.unsigned (.literal rfl)) rfl rfl (fun _ => rfl)
    (isSignaling_of_signals rfl rfl)

theorem readsBack_negative {number : Nat}
    (short : (Numeral.digits number).length ≤ Numeral.maxDigits) :
    ReadsBack (String.ofList ('-' :: Numeral.digits number)) (.integer (-number)) := by
  have minus : Spells ['-'] (.symbol .minus) :=
    (Lexer.Takes.symbol rfl).spells (by decide)
  have ends : Lexer.Ends (.symbol .minus) (Numeral.digits number) := by
    intro front
    have digit := Numeral.isAsciiDigit_of_mem_digits (List.mem_of_head? front)
    cases digit
  have tokenized : tokenize (String.ofList ('-' :: Numeral.digits number)) =
      .ok [⟨.symbol .minus, 0⟩, ⟨.integer number, 1⟩] := by
    rw [tokenize_eq_ok_iff, String.toList_ofList]
    exact Lexer.tokensFrom_word minus ends (Lexer.tokensFrom_lastWord 1 (spells_digits short))
  exact readsBack_of_derives tokenized (.minus rfl (.unsigned (.literal rfl))) rfl rfl
    (fun _ => rfl) (isSignaling_of_signals rfl rfl)

theorem readsBack_text (content : List Char) :
    ReadsBack (String.ofList (quotedLiteral content)) (.text (String.ofList content)) :=
  readsBack_of_derives (spells_quotedLiteral content).read (.unsigned (.literal rfl)) rfl rfl
    (fun _ => rfl) nofun

theorem readsBack_date (date : Date) :
    ReadsBack ("date(\"" ++ date.isoText ++ "\")") (.date date) := by
  have plain : ∀ character ∈ date.isoText.toList, escape character = [character] := by
    intro character among
    rcases Date.mem_isoText among with digit | rfl
    · rw [escape, escapeMark?_of_digit digit]
    · rfl
  have quoted : '"' :: (date.isoText.toList ++ ['"']) = quotedLiteral date.isoText.toList := by
    rw [quotedLiteral, List.flatMap_congr plain, List.flatMap_singleton']
  have shown : "date(\"" ++ date.isoText ++ "\")" =
      String.ofList (called .date (quotedLiteral date.isoText.toList)) := by
    rw [← String.toList_inj, String.toList_ofList, called, ← quoted]
    simp [Function.word]
  obtain ⟨tokens, tokenized, derives⟩ :=
    (embeds_quotedLiteral date.isoText.toList).tokenize_call .date
  rw [String.ofList_toList] at derives
  rw [shown]
  refine readsBack_of_derives tokenized (.unsigned derives) derives.call_not_negation rfl
    (fun _ => ?_) nofun
  simp [Tree.folded, Expression.evaluate, Value.callFunction, Value.convertStrictly, Value.coerce,
    Value.convert?, ValueType.ofName?, ValueType.convert?, Conversion.toDate?, date.trim_isoText,
    date.ofIso?_isoText]

/-- Every constant is read back from its literal. -/
theorem literal_readsBack (constant : Constant) : ReadsBack constant.literal constant.value := by
  cases constant with
  | null =>
      refine readsBack_name rfl (by cbv) (by decide) fun signals => ?_
      cases signals with
      | number _ counted => cases counted
  | boolean value =>
      cases value with
      | true => exact readsBack_name rfl (by cbv) (by decide) (isSignaling_of_signals rfl rfl)
      | false => exact readsBack_name rfl (by cbv) (by decide) (isSignaling_of_signals rfl rfl)
  | integer value short =>
      rw [literal, Numeral.writtenInteger, Constant.value]
      split
      · have read := readsBack_negative short
        rwa [Int.ofNat_natAbs_of_nonpos (by omega), Int.neg_neg] at read
      · have read := readsBack_natural short
        rwa [Int.natAbs_of_nonneg (by omega)] at read
  | text value =>
      have read := readsBack_text value.toList
      rwa [String.ofList_toList] at read
  | date value => exact readsBack_date value

example : literal (.text "C:\\ \"now\"\n") = "\"C:\\\\ \\\"now\\\"\\n\"" := by decide

end Constant

end DecisionTables
