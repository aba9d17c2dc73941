import DecisionTables.Proofs.UnaryTest.Parsing

/-!
# Looking ahead is harmless

Where a test begins with a parenthesis the reader looks ahead to a range symbol after the first sum.
A reader that is told by a guide instead, and so commits to an interval or an expression at once,
has the same outcome with the same errors. Where no sum can be read the guide may be wrong, because
an interval and an expression then fail at the same token for the same reason.
-/

namespace DecisionTables

namespace Grammar

/-! ## Rejected operands -/

section Rejected

open Expression

variable {tokens : List Token} {bound : Nat} {nested : Reader Expression bound}
  {within : tokens.length ≤ bound + 1}
  {rejection : Rejection}

/-- A level that begins with an operand is rejected with it. -/
theorem Level.reader_rejected {level : Level} (looser : level.rank < Level.signed.rank)
    (rejected : level.tighter.reader nested tokens within = .rejected rejection) :
    level.reader nested tokens within = .rejected rejection := by
  cases loops : level.loops with
  | true =>
      rw [Level.reader_loop loops, readLevel, rejected]
      rfl
  | false =>
      cases level with
      | comparison =>
          have sum : readSum nested tokens within = .rejected rejection := rejected
          rw [Level.reader, readComparison, sum]
          rfl
      | signed | primary => exact absurd looser (by decide)
      | disjunction | conjunction | sum | product => cases loops

theorem disjunction_rejected (sum : Level.sum.reader nested tokens within = .rejected rejection) :
    Level.disjunction.reader nested tokens within = .rejected rejection := by
  have comparison : Level.comparison.reader nested tokens within = .rejected rejection :=
    Level.reader_rejected (by decide) sum
  have conjunction : Level.conjunction.reader nested tokens within = .rejected rejection :=
    Level.reader_rejected (by decide) comparison
  exact Level.reader_rejected (by decide) conjunction

theorem reader_rejected {within : tokens.length ≤ bound}
    (rejected : sumReader bound tokens within = .rejected rejection) :
    reader bound tokens within = .rejected rejection := by
  cases bound with
  | zero => exact rejected
  | succ bound => exact disjunction_rejected rejected

/-- A sum that begins with a parenthesis is rejected with the expression that it encloses. -/
theorem enclosed_rejected {opening : Token} {within : (opening :: tokens).length ≤ bound + 1}
    (opens : opening.lexeme = .symbol .openParenthesis)
    (rejected : nested tokens (Nat.le_of_succ_le_succ within) = .rejected rejection) :
    Level.sum.reader nested (opening :: tokens) within = .rejected rejection := by
  have primary : Level.primary.reader nested (opening :: tokens) within = .rejected rejection := by
    rcases opening with ⟨lexeme, position⟩
    cases opens
    simp only [Level.reader, readPrimary, readEnclosed, rejected]
    rfl
  have unsigned : Unsigned (opening :: tokens) := by simp [Unsigned, opens]
  have signed : Level.signed.reader nested (opening :: tokens) within = .rejected rejection :=
    (readSigned_unsigned unsigned).trans primary
  have product : Level.product.reader nested (opening :: tokens) within = .rejected rejection :=
    Level.reader_rejected (by decide) signed
  exact Level.reader_rejected (by decide) product

end Rejected

end Grammar

/-! ## Reading without looking ahead -/

namespace UnaryTest

variable {guide : List Token → Bool} {tokens : List Token} {rejection : Rejection}

/-- One test, read without looking ahead: a guide that is shown what follows a parenthesis says
whether that is an interval. -/
def readGuided (guide : List Token → Bool) : (tokens : List Token) → Reading UnaryTest tokens.length
  | [] => readValue []
  | token :: rest =>
      match Expression.comparison? token with
      | some operator =>
          ((Expression.readOperand rest).map (.comparison operator)).widen (rest_le rest)
      | none =>
          if token.lexeme = .symbol .openBracket then
            (readInterval true rest).widen (rest_le rest)
          else if token.lexeme = .symbol .closeBracket then
            (readInterval false rest).widen (rest_le rest)
          else if token.lexeme = .symbol .openParenthesis then
            if guide rest then (readInterval false rest).widen (rest_le rest)
            else readValue (token :: rest)
          else readValue (token :: rest)

theorem shorter_of_comma {rest tail : List Token} (found : afterSymbol? .comma rest = some tail)
    (shorter : rest.length < tokens.length) : tail.length < tokens.length :=
  Nat.lt_trans (afterSymbol?_length found) shorter

/-- A list of tests that begins with a given one and goes on after each comma with what a further
reader makes of the shorter rest. -/
def listFrom {tokens : List Token} (first : Reading UnaryTest tokens.length)
    (further : (tail : List Token) → tail.length < tokens.length →
      Reading (List UnaryTest) tail.length) : Reading (List UnaryTest) tokens.length :=
  match first with
  | .rejected rejection => .rejected rejection
  | .accepted test rest shorter =>
      match found : afterSymbol? .comma rest with
      | none => .accepted [test] rest shorter
      | some tail =>
          have within := shorter_of_comma found shorter
          ((further tail within).map (test :: ·)).widen (rest_le_of_lt within)

/-- A list of tests, read without looking ahead. -/
def readListGuided (guide : List Token → Bool) (tokens : List Token) :
    Reading (List UnaryTest) tokens.length :=
  listFrom (readGuided guide tokens) fun tail _ => readListGuided guide tail
termination_by tokens.length

theorem readList_eq (tokens : List Token) :
    readList tokens = listFrom (read tokens) fun tail _ => readList tail := by
  rw [readList]
  rfl

/-- Whether a guide is right wherever a sum can be read: what follows a parenthesis is an interval
if it is derived as a sum before the range symbol. Where no sum can be read, a guide may say
anything. -/
def Guides (guide : List Token → Bool) : Prop :=
  ∀ ⦃tokens rest : List Token⦄ ⦃expression : Expression⦄,
    (Expression.readOperand tokens).Accepts expression rest →
      (guide tokens = true ↔ ∃ sum separator middle,
        Grammar.Derives (.phrase .sum) sum tokens (separator :: middle) ∧
          separator.lexeme = .symbol .range)

/-- What is read after a sum is the range symbol exactly if some sum is derived before one. -/
theorem range_ahead_iff {expression : Expression} {rest : List Token}
    (accepts : (Expression.readOperand tokens).Accepts expression rest) :
    (afterSymbol? .range rest).isSome = true ↔ ∃ sum separator middle,
      Grammar.Derives (.phrase .sum) sum tokens (separator :: middle) ∧
        separator.lexeme = .symbol .range := by
  constructor
  · intro ahead
    obtain ⟨middle, found⟩ := Option.isSome_iff_exists.mp ahead
    obtain ⟨separator, rfl, range⟩ := afterSymbol?_eq_some_iff.mp found
    obtain ⟨sum, derives, _⟩ := Grammar.sumReader_sound _ accepts
    exact ⟨sum, separator, middle, derives, range⟩
  · intro shown
    rcases shown with ⟨sum, separator, middle, derives, range⟩
    have same := derives.accepts_readOperand (Grammar.Level.ends_range range)
    obtain ⟨_, rfl⟩ := accepts.unique same
    rw [Grammar.afterSymbol?_front range]
    rfl

/-- Looking ahead is one way to guide. -/
theorem guides_lookingAhead :
    Guides fun tokens => (precedesRange tokens).toOption.getD false := by
  intro tokens rest expression accepts
  simp only [precedesRange_of_accepts accepts]
  exact range_ahead_iff accepts

/-! ### Where no sum can be read -/

theorem readInterval_rejected {startClosed : Bool}
    (rejected : Expression.readOperand tokens = .rejected rejection) :
    readInterval startClosed tokens = .rejected rejection := by
  rw [readInterval, rejected]
  rfl

/-- An expression that begins with a parenthesis is rejected with the sum that the parenthesis
encloses first. -/
theorem readValue_rejected {opening : Token} (opens : opening.lexeme = .symbol .openParenthesis)
    (rejected : Expression.readOperand tokens = .rejected rejection) :
    readValue (opening :: tokens) = .rejected rejection := by
  have read : Expression.read (opening :: tokens) = .rejected rejection :=
    Grammar.disjunction_rejected
      (Grammar.enclosed_rejected opens (Grammar.reader_rejected rejected))
  rw [readValue, read]
  rfl

/-- What follows a parenthesis is read with the same outcome with a guide that is right. -/
theorem readGuided_opening {opening : Token} {rest : List Token} (guides : Guides guide)
    (opens : opening.lexeme = .symbol .openParenthesis) :
    readGuided guide (opening :: rest) = read (opening :: rest) := by
  rcases opening with ⟨lexeme, position⟩
  cases opens
  simp only [readGuided, read, Expression.comparison?, reduceCtorEq, Lexeme.symbol.injEq,
    if_false, if_true]
  cases ahead : Expression.readOperand rest with
  | accepted expression middle shorter =>
      have accepts : (Expression.readOperand rest).Accepts expression middle := ⟨shorter, ahead⟩
      have told : guide rest = (afterSymbol? .range middle).isSome :=
        Bool.eq_iff_iff.mpr ((guides accepts).trans (range_ahead_iff accepts).symm)
      rw [precedesRange_of_accepts accepts, told]
      cases (afterSymbol? .range middle).isSome <;> rfl
  | rejected rejection =>
      -- Whatever the guide says, the reading stops where looking ahead stops.
      have stops : precedesRange rest = .error rejection := by rw [precedesRange, ahead]
      rw [stops, readInterval_rejected ahead, readValue_rejected rfl ahead]
      cases guide rest <;> rfl

/-- A reader with a guide that is right has the outcome of the reader that looks ahead. -/
theorem readGuided_eq (guides : Guides guide) (tokens : List Token) :
    readGuided guide tokens = read tokens := by
  cases tokens with
  | nil => rfl
  | cons token rest =>
      by_cases opens : token.lexeme = .symbol .openParenthesis
      · exact readGuided_opening guides opens
      · cases compares : Expression.comparison? token with
        | some operator => simp only [readGuided, read, compares]
        | none => simp only [readGuided, read, compares, opens, if_false]

theorem readListGuided_eq (guides : Guides guide) (tokens : List Token) :
    readListGuided guide tokens = readList tokens := by
  have further : ∀ tail : List Token, tail.length < tokens.length →
      readListGuided guide tail = readList tail := by
    intro tail within
    exact readListGuided_eq guides tail
  rw [readListGuided, readList_eq, readGuided_eq guides]
  apply congrArg
  funext tail within
  exact further tail within
termination_by tokens.length

end UnaryTest

namespace UnaryTests

/-- The input entry that a list of tokens forms, read without looking ahead. -/
def ofTokensGuided (guide : List Token → Bool) (tokens : List Token) :
    Except Rejection UnaryTests :=
  if isAnyEntry tokens then .ok .any
  else
    match afterNegation? tokens with
    | some inner =>
        (((UnaryTest.readListGuided guide inner).closedBy .closeParenthesis).complete).map .noneOf
    | none => ((UnaryTest.readListGuided guide tokens).complete).map .oneOf

/-- The input entry that a text denotes, read without looking ahead. -/
def parseGuided (guide : List Token → Bool) (text : String) : Except ReadError UnaryTests :=
  match tokenize text with
  | .error error => .error error
  | .ok tokens =>
      match ofTokensGuided guide tokens with
      | .ok tests => .ok tests
      | .error rejection => .error (.invalid (.ofRejection text rejection))

theorem ofTokensGuided_eq {guide : List Token → Bool} (guides : UnaryTest.Guides guide)
    (tokens : List Token) : ofTokensGuided guide tokens = ofTokens tokens := by
  unfold ofTokensGuided ofTokens
  cases afterNegation? tokens with
  | some inner => simp only [UnaryTest.readListGuided_eq guides]
  | none => simp only [UnaryTest.readListGuided_eq guides]

/-- Committing to intervals and expressions as a guide says that is right gives the same entries
and the same errors as looking ahead. -/
theorem parseGuided_eq {guide : List Token → Bool} (guides : UnaryTest.Guides guide)
    (text : String) : parseGuided guide text = parse text := by
  cases tokenized : tokenize text with
  | error error => simp only [parseGuided, parse, tokenized]
  | ok tokens =>
      cases read : ofTokens tokens with
      | ok entry => simp only [parseGuided, parse, tokenized, ofTokensGuided_eq guides, read]
      | error rejection =>
          simp only [parseGuided, parse, tokenized, ofTokensGuided_eq guides, read]

/-! ## Entries of a text -/

/-- What makes the parsing of a text with these tokens follow the grammar of entries. -/
structure ReadsGrammar (text : String) (tokens : List Token) : Prop where
  /-- The entries that parsing yields are those of the derived trees, whose intervals are closed as
  their brackets say and whose values are marked by their own tokens. -/
  parses : ∀ entry, parse text = .ok entry ↔
    ∃ tree, Grammar.DerivesEntry tree tokens ∧ tree.entry = entry
  /-- Without a derived tree the text is invalid. -/
  rejects : (¬∃ tree, Grammar.DerivesEntry tree tokens) →
    ∃ error, parse text = .error (.invalid error)
  /-- There is at most one derived tree. -/
  unique : ∀ tree other, Grammar.DerivesEntry tree tokens → Grammar.DerivesEntry other tokens →
    tree = other
  /-- Looking ahead changes neither the entry nor the error: they are those of a reader that commits
  to one kind of test at once. -/
  commits : ∀ guide, UnaryTest.Guides guide → parseGuided guide text = parse text

/-- Parsing succeeds exactly on the derivable lists of tokens, which have one tree each, and looking
ahead has no effect on its outcome. -/
theorem parse_readsGrammar {text : String} {tokens : List Token}
    (tokenized : tokenize text = .ok tokens) : ReadsGrammar text tokens := by
  constructor
  · intro entry
    rw [parse_eq_ok_iff, tokenized, ← Grammar.ofTokens_iff_derives]
    simp
  · intro underivable
    cases read : ofTokens tokens with
    | ok entry =>
        obtain ⟨tree, derives, _⟩ := Grammar.ofTokens_iff_derives.mp read
        exact absurd ⟨tree, derives⟩ underivable
    | error rejection =>
        refine ⟨.ofRejection text rejection, ?_⟩
        simp only [parse, tokenized, read]
  · intro tree other first second
    exact first.unique second
  · intro guide guides
    exact parseGuided_eq guides text

def mixedEntry : List Token :=
  [⟨.symbol .openParenthesis, 0⟩, ⟨.integer 1, 1⟩, ⟨.symbol .range, 2⟩, ⟨.integer 5, 4⟩,
    ⟨.symbol .closeBracket, 5⟩, ⟨.symbol .comma, 6⟩, ⟨.symbol .openParenthesis, 8⟩,
    ⟨.symbol .subject, 9⟩, ⟨.symbol .greater, 11⟩, ⟨.integer 2, 13⟩,
    ⟨.symbol .closeParenthesis, 14⟩, ⟨.symbol .comma, 15⟩, ⟨.integer 7, 17⟩]

theorem mixedEntry_readsGrammar :
    tokenize "(1..5], (? > 2), 7" = .ok mixedEntry ∧
      ReadsGrammar "(1..5], (? > 2), 7" mixedEntry := by
  have tokenized : tokenize "(1..5], (? > 2), 7" = .ok mixedEntry := by cbv
  exact ⟨tokenized, parse_readsGrammar tokenized⟩

/-- Both parentheses are read as what they begin, and only the value in the middle is marked. -/
example : ofTokens mixedEntry = .ok (.oneOf [
    .interval (.literal (.number (.integer 1))) (.literal (.number (.integer 5))) false true,
    .value (.compare (.relation .greater) .subject (.literal (.number (.integer 2)))) true,
    .value (.literal (.number (.integer 7))) false]) := by
  cbv

end UnaryTests

end DecisionTables
