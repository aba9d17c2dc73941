import DecisionTables.Proofs.Expression.Fronts
import DecisionTables.Proofs.UnaryTest.Desugaring

/-!
# Expressions as input entries

An expression that uses the subject is an input entry, which passes where the expression is true.
The readers of expressions and of entries take different first decisions over the same tokens: a
comparison, a bracket or a parenthesis may begin a test of another kind, and none of them misleads,
because no expression begins with a comparison or a bracket and none has a range symbol after its
first sum. An entry that begins with `not (` is different: it is the negation of what it encloses,
and so passes where that is null.
-/

namespace DecisionTables

open Grammar

/-! ## Reading a test -/

namespace UnaryTest

variable {tree : Tree} {token : Token} {tokens rest : List Token}

theorem comparison?_of_beginsPhrase (begins : token.lexeme.beginsPhrase = true) :
    Expression.comparison? token = none := by
  rcases token with ⟨_ | _ | _ | _ | symbol, position⟩
  case symbol => cases symbol <;> first | rfl | cases begins
  all_goals rfl

theorem precedesRange_of_accepts {expression : Expression}
    (accepts : (Expression.readOperand tokens).Accepts expression rest) :
    precedesRange tokens = .ok (afterSymbol? .range rest).isSome := by
  obtain ⟨_, accepted⟩ := accepts
  rw [precedesRange, accepted]

/-- The first sum within a parenthesis at the front of an expression is not followed by the range
symbol. -/
theorem precedesRange_of_derives {level : Level}
    (derives : Derives (.phrase level) tree (token :: tokens) rest)
    (opens : token.lexeme = .symbol .openParenthesis) : precedesRange tokens = .ok false := by
  obtain ⟨inner, closing, tail, encloses, closes⟩ := derives.after_opening opens
  have separate : afterSymbol? .range (closing :: tail) = none :=
    if_neg fun range => by rw [closes] at range; cases range
  obtain ⟨sum, middle, begins, ends, separate⟩ :=
    encloses.first_sum (Level.ends_closing closes) separate
  rw [precedesRange_of_accepts (begins.accepts_readOperand ends), separate]
  rfl

/-- What begins like an expression is read as one. -/
theorem read_of_derives {level : Level} (derives : Derives (.phrase level) tree tokens rest) :
    read tokens = readValue tokens := by
  obtain ⟨token, tail, rfl, begins⟩ := derives.front
  rw [read]
  simp only [comparison?_of_beginsPhrase begins]
  rw [if_neg (by intro bracket; rw [bracket] at begins; cases begins),
    if_neg (by intro bracket; rw [bracket] at begins; cases begins)]
  split
  · rename_i opens
    rw [precedesRange_of_derives derives opens]
  · rfl

/-- An expression that no comma follows is read as a list of one test. -/
theorem readList_of_derives (derives : Derives (.phrase .disjunction) tree tokens rest)
    (ends : Level.disjunction.Ends rest) (separate : afterSymbol? .comma rest = none) :
    (readList tokens).Accepts [.value tree.folded tree.folded.usesSubject] rest := by
  have value : (readValue tokens).Accepts (.value tree.folded tree.folded.usesSubject) rest :=
    accepts_readValue.mpr ⟨_, derives.accepts_read ends, rfl⟩
  exact accepts_readList.mpr ⟨_, _, read_of_derives derives ▸ value, .inl ⟨separate, rfl, rfl⟩⟩

end UnaryTest

namespace UnaryTests

variable {tree : Tree} {tokens inner : List Token}

/-! ## Reading an entry -/

theorem not_isAnyEntry_of_derives {level : Level} {rest : List Token}
    (derives : Derives (.phrase level) tree tokens rest) : isAnyEntry tokens = false := by
  obtain ⟨token, tail, rfl, _⟩ := derives.front
  cases tail with
  | nil =>
      simp only [isAnyEntry, beq_eq_false_iff_ne]
      exact fun sign => derives.after_sign sign rfl
  | cons second tail => rfl

/-- An expression that does not begin with `not (` is read as the entry that tests it. -/
theorem ofTokens_of_derives (derives : DerivesFrom tokens tree)
    (plain : afterNegation? tokens = none) :
    ofTokens tokens = .ok (.oneOf [.value tree.folded tree.folded.usesSubject]) := by
  refine ofTokens_eq_ok_iff.mpr (.inr ⟨not_isAnyEntry_of_derives derives, .inr ?_⟩)
  exact ⟨_, plain, UnaryTest.readList_of_derives derives Level.ends_nil rfl, rfl⟩

theorem afterNegation?_eq_some_iff :
    afterNegation? tokens = some inner ↔
      ∃ word opening, tokens = word :: opening :: inner ∧ word.lexeme = .name "not" ∧
        opening.lexeme = .symbol .openParenthesis := by
  cases tokens with
  | nil => simp [afterNegation?]
  | cons word tail =>
      simp only [afterNegation?, Option.ite_none_right_eq_some, afterSymbol?_eq_some_iff]
      constructor
      · intro shown
        rcases shown with ⟨named, opening, rfl, opens⟩
        exact ⟨word, opening, rfl, named, opens⟩
      · intro shown
        rcases shown with ⟨_, opening, equal, named, opens⟩
        cases equal
        exact ⟨named, opening, rfl, opens⟩

/-- A negation that begins with `not (` is read as the negation of the entry that tests its
operand. -/
theorem ofTokens_of_negation {operand : Expression} (derives : DerivesFrom tokens tree)
    (negates : afterNegation? tokens = some inner) (folds : tree.folded = .complement operand) :
    ofTokens tokens = .ok (.noneOf [.value operand operand.usesSubject]) := by
  obtain ⟨word, opening, front, named, opens⟩ := afterNegation?_eq_some_iff.mp negates
  obtain ⟨operandTree, closing, encloses, closes, rfl⟩ := derives.negates folds front named opens
  have separate : afterSymbol? .comma [closing] = none :=
    if_neg fun comma => by rw [closes] at comma; cases comma
  refine ofTokens_eq_ok_iff.mpr (.inr ⟨not_isAnyEntry_of_derives derives, .inl ?_⟩)
  exact ⟨inner, _, closing, negates,
    UnaryTest.readList_of_derives encloses (Level.ends_closing closes) separate, closes, rfl⟩

/-! ## Passing -/

/-- Whether a text is an input entry that, wherever an expression has a value, does not fail and
passes exactly if the value is of some kind. -/
def PassesWhen (text : String) (expression : Expression) (passing : Value → Prop) : Prop :=
  ∃ entry, parse text = .ok entry ∧
    ∀ environment value, expression.evaluate environment = .ok value →
      ∃ passes, entry.accepts environment = .ok passes ∧ (passes = true ↔ passing value)

def BeginsWithNegation (text : String) : Prop :=
  ∃ tokens inner, tokenize text = .ok tokens ∧ afterNegation? tokens = some inner

/-- A text that uses the subject is not blank, and its tokens have a tree. -/
theorem derives_of_parse {text : String} {expression : Expression}
    (parsed : Expression.parse text = .ok expression) (asks : expression.usesSubject = true) :
    ∃ tokens tree, tokenize text = .ok tokens ∧ DerivesFrom tokens tree ∧
      tree.folded = expression := by
  unfold Expression.parse at parsed
  split at parsed
  · cases parsed
    cases asks
  split at parsed
  · cases parsed
  · rename_i tokens tokenized
    split at parsed
    · rename_i read
      cases parsed
      obtain ⟨tree, derives, folds⟩ := read_complete_iff.mp read
      exact ⟨tokens, tree, tokenized, derives, folds⟩
    · cases parsed

/-- The entry that tests an expression passes where that is true. -/
theorem oneOf_passes {environment : Environment} {expression : Expression} {value : Value}
    (evaluates : expression.evaluate environment = .ok value) :
    (oneOf [.value expression true]).accepts environment = .ok value.isTrue := by
  have desugars : (desugared (.value expression true) []).evaluate environment = .ok value :=
    evaluates
  exact anyAccepts_of_desugared desugars

/-- The negation of the entry that tests an expression passes where the negation of the expression
is true or null. -/
theorem noneOf_passes {environment : Environment} {operand : Expression} {value : Value}
    (evaluates : (Expression.complement operand).evaluate environment = .ok value) :
    ∃ passes, (noneOf [.value operand true]).accepts environment = .ok passes ∧
      (passes = true ↔ value = .boolean true ∨ value = .null) := by
  simp only [Expression.evaluate, Except.bind_eq_ok_iff, Except.pure_eq_ok,
    Except.ok.injEq] at evaluates
  obtain ⟨operandValue, given, truth, counts, rfl⟩ := evaluates
  have passes := oneOf_passes given
  rw [Expression.ofTruth_eq_of_truth counts, Value.isTrue_ofTruth] at passes
  refine ⟨!(truth == some true), ?_, ?_⟩
  · have tested : anyAccepts environment [.value operand true] = .ok (truth == some true) := passes
    simp only [accepts, tested, Except.map_ok]
  · rcases truth with _ | _ | _ <;> simp [Value.ofTruth]

/-- An expression that uses the subject is an input entry. Unless it begins with `not (`, the entry
passes where the expression is true; if it is as a whole what begins so, the entry passes where the
expression is true or null. -/
theorem expression_passesWhen {text : String} {expression : Expression}
    (parsed : Expression.parse text = .ok expression) (asks : expression.usesSubject = true) :
    (¬BeginsWithNegation text → PassesWhen text expression fun value => value = .boolean true) ∧
      (BeginsWithNegation text → ∀ operand, expression = .complement operand →
        PassesWhen text expression fun value => value = .boolean true ∨ value = .null) := by
  obtain ⟨tokens, tree, tokenized, derives, rfl⟩ := derives_of_parse parsed asks
  constructor
  · intro plain
    have plain : afterNegation? tokens = none :=
      Option.eq_none_iff_forall_ne_some.mpr fun inner negates =>
        plain ⟨tokens, inner, tokenized, negates⟩
    have read := ofTokens_of_derives derives plain
    rw [asks] at read
    refine ⟨_, parse_eq_ok_iff.mpr ⟨tokens, tokenized, read⟩, ?_⟩
    intro environment value evaluates
    exact ⟨_, oneOf_passes evaluates, Value.isTrue_eq_true_iff⟩
  · intro negates operand folds
    obtain ⟨_, inner, again, negates⟩ := negates
    rw [tokenized] at again
    cases again
    have read := ofTokens_of_negation derives negates folds
    have asks : operand.usesSubject = true := by rw [folds] at asks; exact asks
    rw [asks] at read
    refine ⟨_, parse_eq_ok_iff.mpr ⟨tokens, tokenized, read⟩, ?_⟩
    intro environment value evaluates
    rw [folds] at evaluates
    exact noneOf_passes evaluates

def aboveFive : Expression :=
  .compare (.relation .greater) .subject (.literal (.integer 5))

def notAboveFive : List Token :=
  [⟨.name "not", 0⟩, ⟨.symbol .openParenthesis, 3⟩, ⟨.symbol .subject, 4⟩, ⟨.symbol .greater, 5⟩,
    ⟨.integer 5, 6⟩, ⟨.symbol .closeParenthesis, 7⟩]

theorem notAboveFive_tokens : tokenize "not(?>5)" = .ok notAboveFive := by cbv

theorem notAboveFive_parse : Expression.parse "not(?>5)" = .ok (.complement aboveFive) := by
  have shown : Text.isBlankText "not(?>5)" = false := by cbv
  have read : (Expression.read notAboveFive).complete = .ok (.complement aboveFive) := by cbv
  simp only [Expression.parse, shown, notAboveFive_tokens, read]
  rfl

theorem notAboveFive_entry : parse "not(?>5)" = .ok (.noneOf [.value aboveFive true]) := by
  have read : ofTokens notAboveFive = .ok (.noneOf [.value aboveFive true]) := by cbv
  exact parse_eq_ok_iff.mpr ⟨_, notAboveFive_tokens, read⟩

theorem notAboveFive_passesWhen :
    Expression.parse "not(?>5)" = .ok (.complement aboveFive) ∧
      (Expression.complement aboveFive).usesSubject = true ∧
      (¬BeginsWithNegation "not(?>5)" →
        PassesWhen "not(?>5)" (.complement aboveFive) fun value => value = .boolean true) ∧
      (BeginsWithNegation "not(?>5)" → ∀ operand,
        Expression.complement aboveFive = .complement operand →
          PassesWhen "not(?>5)" (.complement aboveFive)
            fun value => value = .boolean true ∨ value = .null) :=
  ⟨notAboveFive_parse, rfl, expression_passesWhen notAboveFive_parse rfl⟩

/-- Not every expression that uses the subject passes only where it is true: `not(?>5)` is null for
a subject that is null, and passes. -/
theorem not_passesWhen_true :
    ¬∀ text expression, Expression.parse text = .ok expression → expression.usesSubject = true →
      PassesWhen text expression fun value => value = .boolean true := by
  intro claimed
  obtain ⟨entry, read, passing⟩ := claimed _ _ notAboveFive_parse rfl
  rw [notAboveFive_entry] at read
  cases read
  obtain ⟨passes, accepted, exactly⟩ := passing ⟨.ofBindings [], .null⟩ .null rfl
  cases accepted
  exact nomatch exactly.mp rfl

end UnaryTests

end DecisionTables
