import DecisionTables.Proofs.UnaryTest.Entries

/-!
# The grammar of input entries

The grammar of tests, lists of tests and entries is given as derivations of trees, apart from any
reader and without looking ahead. A parenthesis may begin an interval as well as an expression; that
no list of tokens has two trees is a theorem about the sums and expressions that follow it. The tree
of a value carries whether the tokens of its own expression ask for the subject.
-/

namespace DecisionTables

/-- Whether the interval that a lexeme opens includes its start. -/
def Lexeme.opensInterval? : Lexeme → Option Bool
  | .symbol .openBracket => some true
  | .symbol .closeBracket | .symbol .openParenthesis => some false
  | _ => none

/-- Whether the interval that a lexeme closes includes its end. -/
def Lexeme.closesInterval? : Lexeme → Option Bool
  | .symbol .closeBracket => some true
  | .symbol .closeParenthesis | .symbol .openBracket => some false
  | _ => none

def asksSubject (tokens : List Token) : Bool :=
  tokens.any fun token => decide (token.lexeme = .symbol .subject)

namespace Grammar

/-! ## Trees and derivations -/

/-- What a test is made of. -/
inductive TestTree where
  | comparison (comparison : Comparison) (endpoint : Tree)
  | interval (start finish : Tree) (startClosed finishClosed : Bool)
  | value (tree : Tree) (asks : Bool)

/-- The test of a tree, its signs folded into numeric literals. -/
def TestTree.test : TestTree → UnaryTest
  | .comparison operator endpoint => .comparison operator endpoint.folded
  | .interval start finish startClosed finishClosed =>
      .interval start.folded finish.folded startClosed finishClosed
  | .value tree asks => .value tree.folded asks

/-- What an entry is made of. -/
inductive EntryTree where
  | any
  | oneOf (tests : List TestTree)
  | noneOf (tests : List TestTree)

def EntryTree.entry : EntryTree → UnaryTests
  | .any => .any
  | .oneOf tests => .oneOf (tests.map TestTree.test)
  | .noneOf tests => .noneOf (tests.map TestTree.test)

/-- The derivation of a test from the tokens that stand before a rest. -/
inductive DerivesTest : TestTree → List Token → List Token → Prop where
  | comparison {comparison : Comparison} {endpoint : Tree} {token : Token}
      {tokens rest : List Token} :
      Level.comparison.operator? token.lexeme = some (.compare comparison) →
      Derives (.phrase .sum) endpoint tokens rest →
      DerivesTest (.comparison comparison endpoint) (token :: tokens) rest
  | interval {start finish : Tree} {startClosed finishClosed : Bool}
      {opening separator closing : Token} {tokens middle rest : List Token} :
      opening.lexeme.opensInterval? = some startClosed →
      Derives (.phrase .sum) start tokens (separator :: middle) →
      separator.lexeme = .symbol .range →
      Derives (.phrase .sum) finish middle (closing :: rest) →
      closing.lexeme.closesInterval? = some finishClosed →
      DerivesTest (.interval start finish startClosed finishClosed) (opening :: tokens) rest
  | value {tree : Tree} {tokens consumed rest : List Token} :
      Derives (.phrase .disjunction) tree tokens rest →
      tokens = consumed ++ rest →
      DerivesTest (.value tree (asksSubject consumed)) tokens rest

/-- The derivation of tests with commas between them from the tokens before a rest. -/
inductive DerivesList : List TestTree → List Token → List Token → Prop where
  | last {tree : TestTree} {tokens rest : List Token} :
      DerivesTest tree tokens rest →
      DerivesList [tree] tokens rest
  | more {tree : TestTree} {trees : List TestTree} {comma : Token}
      {tokens middle rest : List Token} :
      DerivesTest tree tokens (comma :: middle) →
      comma.lexeme = .symbol .comma →
      DerivesList trees middle rest →
      DerivesList (tree :: trees) tokens rest

/-- The derivation of an entry from a whole list of tokens. -/
inductive DerivesEntry : EntryTree → List Token → Prop where
  | empty : DerivesEntry .any []
  | dash {sign : Token} :
      sign.lexeme = .symbol .minus →
      DerivesEntry .any [sign]
  | noneOf {trees : List TestTree} {word opening closing : Token} {tokens : List Token} :
      word.lexeme = .name "not" →
      opening.lexeme = .symbol .openParenthesis →
      DerivesList trees tokens [closing] →
      closing.lexeme = .symbol .closeParenthesis →
      DerivesEntry (.noneOf trees) (word :: opening :: tokens)
  /-- A list of tests that does not begin with `not (`. -/
  | oneOf {trees : List TestTree} {tokens : List Token} :
      UnaryTests.afterNegation? tokens = none →
      DerivesList trees tokens [] →
      DerivesEntry (.oneOf trees) tokens

/-! ## Asking for the subject -/

@[simp] theorem asksSubject_nil : asksSubject [] = false :=
  rfl

@[simp] theorem asksSubject_cons {token : Token} {tokens : List Token} :
    asksSubject (token :: tokens) =
      (decide (token.lexeme = .symbol .subject) || asksSubject tokens) :=
  rfl

@[simp] theorem asksSubject_append {tokens others : List Token} :
    asksSubject (tokens ++ others) = (asksSubject tokens || asksSubject others) :=
  List.any_append

@[simp] theorem usesSubject_negated {operand : Expression} :
    operand.negated.usesSubject = operand.usesSubject := by
  unfold Expression.negated
  split <;> rfl

@[simp] theorem usesSubject_join {operator : Operator} {left right : Expression} :
    (operator.join left right).usesSubject = (left.usesSubject || right.usesSubject) := by
  cases operator <;> rfl

/-- No operator is the subject. -/
theorem not_subject_of_operator {level : Level} {lexeme : Lexeme} {operator : Operator}
    (found : level.operator? lexeme = some operator) : lexeme ≠ .symbol .subject := by
  intro subject
  rw [subject] at found
  cases level <;> cases found

/-- Whether the tokens before a rest ask for the subject exactly if they are said to. -/
def Asking (asks : Bool) (tokens rest : List Token) : Prop :=
  ∃ consumed, tokens = consumed ++ rest ∧ asksSubject consumed = asks

namespace Asking

variable {asks further : Bool} {token : Token} {tokens middle rest : List Token}

theorem nil : Asking false rest rest :=
  ⟨[], rfl, rfl⟩

theorem append (first : Asking asks tokens middle) (second : Asking further middle rest) :
    Asking (asks || further) tokens rest := by
  obtain ⟨before, rfl, rfl⟩ := first
  obtain ⟨after, rfl, rfl⟩ := second
  exact ⟨before ++ after, (List.append_assoc ..).symm, asksSubject_append⟩

/-- A token before them that is not the subject changes nothing. -/
theorem silent (other : token.lexeme ≠ .symbol .subject) (later : Asking asks tokens rest) :
    Asking asks (token :: tokens) rest := by
  obtain ⟨consumed, rfl, rfl⟩ := later
  exact ⟨token :: consumed, rfl, by simp [other]⟩

theorem closed (inner : Asking asks tokens (token :: rest))
    (closes : token.lexeme = .symbol .closeParenthesis) : Asking asks tokens rest := by
  have alone : Asking false (token :: rest) rest := nil.silent (by simp [closes])
  rw [← Bool.or_false asks]
  exact inner.append alone

end Asking

/-- What a derivation shows of the tokens that it takes up: those of a phrase ask for the subject
exactly if its expression uses it, and those after a phrase add to what its left operand uses. -/
def Part.Asks : Part → Tree → List Token → List Token → Prop
  | .phrase _, tree, tokens, rest => Asking tree.folded.usesSubject tokens rest
  | .more _ left, tree, tokens, rest =>
      ∃ further, Asking further tokens rest ∧
        tree.folded.usesSubject = (left.folded.usesSubject || further)

theorem Derives.asks {part : Part} {tree : Tree} {tokens rest : List Token}
    (derives : Derives part tree tokens rest) : part.Asks tree tokens rest := by
  induction derives with
  | loop _ _ _ operand further =>
      obtain ⟨_, later, uses⟩ := further
      rw [Part.Asks, uses]
      exact operand.append later
  | stop => exact ⟨false, .nil, (Bool.or_false _).symm⟩
  | extend found _ _ operand further =>
      obtain ⟨_, later, uses⟩ := further
      refine ⟨_, (operand.append later).silent (not_subject_of_operator found), ?_⟩
      rw [uses, Tree.folded, usesSubject_join, Bool.or_assoc]
  | uncompared _ sum => exact sum
  | compared _ found _ left right =>
      rw [Part.Asks, Tree.folded, usesSubject_join]
      exact left.append (right.silent (not_subject_of_operator found))
  | minus sign _ operand =>
      rw [Part.Asks, Tree.folded, usesSubject_negated]
      exact operand.silent (by simp [sign])
  | complement named opens _ closes operand =>
      exact ((operand.closed closes).silent (by simp [opens])).silent (by simp [named])
  | unsigned _ primary => exact primary
  | @literal _ token _ found =>
      have other : token.lexeme ≠ .symbol .subject := by
        intro subject
        rw [subject] at found
        cases found
      exact Asking.nil.silent other
  | name named _ _ => exact Asking.nil.silent (by simp [named])
  | call named _ opens _ closes argument =>
      exact ((argument.closed closes).silent (by simp [opens])).silent (by simp [named])
  | @subject token _ marked => exact ⟨[token], rfl, by simp [marked, Tree.folded,
      Expression.usesSubject]⟩
  | enclosed opens _ closes inner => exact (inner.closed closes).silent (by simp [opens])

/-- The expression of a derived phrase uses the subject exactly if its own tokens ask for it. -/
theorem Derives.usesSubject_eq {level : Level} {tree : Tree} {tokens consumed rest : List Token}
    (derives : Derives (.phrase level) tree tokens rest) (extent : tokens = consumed ++ rest) :
    tree.folded.usesSubject = asksSubject consumed := by
  obtain ⟨taken, taking, asks⟩ := derives.asks
  have same : taken = consumed := List.append_cancel_right (taking.symm.trans extent)
  rw [← asks, same]

/-! ## Where tests end -/

section Ends

variable {level : Level} {token : Token} {rest : List Token}

/-- A token that is no operator ends every phrase. -/
theorem Level.ends_of_inert (inert : ∀ further : Level, further.operator? token.lexeme = none) :
    level.Ends (token :: rest) := by
  intro _ front further _
  cases front
  exact inert further

theorem Level.ends_range (separates : token.lexeme = .symbol .range) :
    level.Ends (token :: rest) := by
  apply Level.ends_of_inert
  intro further
  rw [separates]
  cases further <;> rfl

theorem Level.ends_comma (separates : token.lexeme = .symbol .comma) :
    level.Ends (token :: rest) := by
  apply Level.ends_of_inert
  intro further
  rw [separates]
  cases further <;> rfl

theorem Level.ends_interval {closed : Bool} (closes : token.lexeme.closesInterval? = some closed) :
    level.Ends (token :: rest) := by
  apply Level.ends_of_inert
  intro further
  generalize token.lexeme = lexeme at closes ⊢
  unfold Lexeme.closesInterval? at closes
  split at closes
  case h_4 => cases closes
  all_goals cases further <;> rfl

/-- A sum ends where an expression may end. -/
theorem Level.Ends.sum (ends : Level.disjunction.Ends rest) : Level.sum.Ends rest :=
  ends.tighter.tighter.tighter

/-- Whether a list of tests may end before these tokens: neither an operator nor a comma stands at
their front. -/
structure EndsList (rest : List Token) : Prop where
  ends : Level.disjunction.Ends rest
  separate : afterSymbol? .comma rest = none

theorem endsList_nil : EndsList [] :=
  ⟨Level.ends_nil, rfl⟩

theorem endsList_closing (closes : token.lexeme = .symbol .closeParenthesis) :
    EndsList (token :: rest) := by
  refine ⟨Level.ends_closing closes, if_neg fun comma => ?_⟩
  rw [closes] at comma
  cases comma

end Ends

/-! ## One tree -/

section Unique

variable {token : Token} {tokens rest remaining : List Token}

/-- A token that compares neither opens an interval nor begins an expression. -/
theorem not_opensInterval_of_operator {operator : Operator}
    (found : Level.comparison.operator? token.lexeme = some operator) :
    token.lexeme.opensInterval? = none ∧ token.lexeme.beginsPhrase = false := by
  generalize token.lexeme = lexeme at found ⊢
  cases lexeme with
  | symbol symbol => cases symbol <;> first | exact ⟨rfl, rfl⟩ | cases found
  | integer | double | text | name => cases found

/-- Of the tokens that open an interval only the parenthesis begins an expression. -/
theorem openParenthesis_of_opensInterval {closed : Bool}
    (opens : token.lexeme.opensInterval? = some closed)
    (begins : token.lexeme.beginsPhrase = true) : token.lexeme = .symbol .openParenthesis := by
  generalize token.lexeme = lexeme at opens begins ⊢
  unfold Lexeme.opensInterval? at opens
  split at opens
  · cases begins
  · cases begins
  · rfl
  · cases opens

/-- What opens an interval begins no expression with these tokens: if it is a parenthesis, the first
sum of what it encloses is not followed by the range symbol. -/
theorem Derives.not_interval {level : Level} {tree start : Tree} {separator : Token}
    {middle : List Token} {closed : Bool}
    (derives : Derives (.phrase level) tree (token :: tokens) rest)
    (opens : token.lexeme.opensInterval? = some closed)
    (begins : Derives (.phrase .sum) start tokens (separator :: middle)) :
    separator.lexeme ≠ .symbol .range := by
  intro range
  obtain ⟨_, _, front, beginsPhrase⟩ := derives.front
  cases front
  have parenthesis := openParenthesis_of_opensInterval opens beginsPhrase
  -- Both readings have the first sum in common, so what follows it would be the range symbol and
  -- would not be.
  have ahead := UnaryTest.precedesRange_of_derives derives parenthesis
  have accepts := begins.accepts_readOperand (Level.ends_range range)
  rw [UnaryTest.precedesRange_of_accepts accepts, afterSymbol?_front range] at ahead
  cases ahead

/-- No expression begins with a comparison. -/
theorem Derives.not_compared {level : Level} {tree : Tree} {operator : Operator}
    (derives : Derives (.phrase level) tree (token :: tokens) rest) :
    Level.comparison.operator? token.lexeme ≠ some operator := by
  intro found
  obtain ⟨_, _, front, begins⟩ := derives.front
  cases front
  rw [(not_opensInterval_of_operator found).2] at begins
  cases begins

/-- A test that ends where no operator could go on has one tree and one end. -/
theorem DerivesTest.unique {tree other : TestTree} (first : DerivesTest tree tokens rest)
    (ends : Level.disjunction.Ends rest) (second : DerivesTest other tokens remaining)
    (also : Level.disjunction.Ends remaining) : tree = other ∧ rest = remaining := by
  cases first with
  | comparison found endpoint =>
      cases second with
      | comparison found' endpoint' =>
          rw [found] at found'
          cases found'
          obtain ⟨rfl, rfl⟩ := endpoint.unique ends.sum endpoint' also.sum
          exact ⟨rfl, rfl⟩
      | interval opens' _ _ _ _ =>
          rw [(not_opensInterval_of_operator found).1] at opens'
          cases opens'
      | value value' _ => exact absurd found value'.not_compared
  | interval opens start range finish closes =>
      cases second with
      | comparison found' _ =>
          rw [(not_opensInterval_of_operator found').1] at opens
          cases opens
      | interval opens' start' range' finish' closes' =>
          rw [opens] at opens'
          cases opens'
          obtain ⟨rfl, equal⟩ :=
            start.unique (Level.ends_range range) start' (Level.ends_range range')
          cases equal
          obtain ⟨rfl, equal⟩ :=
            finish.unique (Level.ends_interval closes) finish' (Level.ends_interval closes')
          cases equal
          rw [closes] at closes'
          cases closes'
          exact ⟨rfl, rfl⟩
      | value value' _ => exact absurd range (value'.not_interval opens start)
  | value value extent =>
      cases second with
      | comparison found' _ => exact absurd found' value.not_compared
      | interval opens' start' range' _ _ =>
          exact absurd range' (value.not_interval opens' start')
      | value value' extent' =>
          obtain ⟨rfl, rfl⟩ := value.unique ends value' also
          obtain rfl := List.append_cancel_right (extent.symm.trans extent')
          exact ⟨rfl, rfl⟩

theorem DerivesList.unique {trees others : List TestTree} (first : DerivesList trees tokens rest)
    (ends : EndsList rest) (second : DerivesList others tokens remaining)
    (also : EndsList remaining) : trees = others ∧ rest = remaining := by
  induction first generalizing others with
  | last test =>
      cases second with
      | last test' =>
          obtain ⟨rfl, rfl⟩ := test.unique ends.ends test' also.ends
          exact ⟨rfl, rfl⟩
      | more test' comma' _ =>
          obtain ⟨_, rfl⟩ := test.unique ends.ends test' (Level.ends_comma comma')
          exact absurd ends.separate (by simp [afterSymbol?_front comma'])
  | more test comma _ further =>
      cases second with
      | last test' =>
          obtain ⟨_, rfl⟩ := test.unique (Level.ends_comma comma) test' also.ends
          exact absurd also.separate (by simp [afterSymbol?_front comma])
      | more test' comma' further' =>
          obtain ⟨rfl, equal⟩ :=
            test.unique (Level.ends_comma comma) test' (Level.ends_comma comma')
          cases equal
          obtain ⟨rfl, rfl⟩ := further ends further'
          exact ⟨rfl, rfl⟩

/-- A test takes up more than a lone sign. -/
theorem DerivesTest.not_isAnyEntry {tree : TestTree} (derives : DerivesTest tree tokens rest) :
    UnaryTests.isAnyEntry tokens = false := by
  cases derives with
  | comparison _ endpoint =>
      obtain ⟨_, _, rfl, _⟩ := endpoint.front
      rfl
  | interval _ start _ _ _ =>
      obtain ⟨_, _, rfl, _⟩ := start.front
      rfl
  | value value _ => exact UnaryTests.not_isAnyEntry_of_derives value

theorem DerivesList.not_isAnyEntry {trees : List TestTree}
    (derives : DerivesList trees tokens rest) : UnaryTests.isAnyEntry tokens = false := by
  cases derives with
  | last test => exact test.not_isAnyEntry
  | more test _ _ => exact test.not_isAnyEntry

theorem isAnyEntry_iff : UnaryTests.isAnyEntry tokens = true ↔ DerivesEntry .any tokens := by
  constructor
  · intro accepts
    cases tokens with
    | nil => exact .empty
    | cons sign tail =>
        cases tail with
        | nil => exact .dash (beq_iff_eq.mp accepts)
        | cons second tail => cases accepts
  · intro derives
    cases derives with
    | empty => rfl
    | dash sign => exact beq_iff_eq.mpr sign

theorem afterNegation?_front {word opening : Token} (named : word.lexeme = .name "not")
    (opens : opening.lexeme = .symbol .openParenthesis) :
    UnaryTests.afterNegation? (word :: opening :: tokens) = some tokens :=
  UnaryTests.afterNegation?_eq_some_iff.mpr ⟨word, opening, rfl, named, opens⟩

/-- Nothing but the entry that accepts any subject is derived from no token or a lone sign. -/
theorem DerivesEntry.eq_any {tree : EntryTree} (derives : DerivesEntry tree tokens)
    (any : UnaryTests.isAnyEntry tokens = true) : tree = .any := by
  cases derives with
  | empty | dash => rfl
  | noneOf => cases any
  | oneOf _ list =>
      rw [list.not_isAnyEntry] at any
      cases any

/-- A list of tokens has at most one tree as an entry. -/
theorem DerivesEntry.unique {tree other : EntryTree} (first : DerivesEntry tree tokens)
    (second : DerivesEntry other tokens) : tree = other := by
  cases first with
  | empty => exact (second.eq_any rfl).symm
  | dash sign => exact (second.eq_any (beq_iff_eq.mpr sign)).symm
  | noneOf word opens list closes =>
      cases second with
      | noneOf _ _ list' closes' =>
          obtain ⟨rfl, _⟩ :=
            list.unique (endsList_closing closes) list' (endsList_closing closes')
          rfl
      | oneOf plain _ =>
          rw [afterNegation?_front word opens] at plain
          cases plain
  | oneOf plain list =>
      cases second with
      | empty => exact (DerivesEntry.oneOf plain list).eq_any rfl
      | dash sign => exact (DerivesEntry.oneOf plain list).eq_any (beq_iff_eq.mpr sign)
      | noneOf word opens _ _ =>
          rw [afterNegation?_front word opens] at plain
          cases plain
      | oneOf _ list' =>
          obtain ⟨rfl, _⟩ := list.unique endsList_nil list' endsList_nil
          rfl

end Unique

end Grammar

end DecisionTables
