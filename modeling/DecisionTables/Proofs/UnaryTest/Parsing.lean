import DecisionTables.Proofs.UnaryTest.Grammar

/-!
# Parsing entries follows the grammar

The readers of tests, lists and entries accept the tests of what the grammar derives and nothing
else. The grammar does not look ahead: before the range symbol a sum ends, so that the sum the
reader looks at is the one that the interval begins with.
-/

namespace DecisionTables

/-! ## Reading intervals and comparisons -/

namespace UnaryTest

variable {token : Token} {tokens rest : List Token} {test : UnaryTest}

theorem closing?_cons : closing? (token :: tokens) =
    token.lexeme.closesInterval?.map fun closed => (closed, tokens) := by
  rcases token with ⟨_ | _ | _ | _ | symbol, position⟩
  case symbol => cases symbol <;> rfl
  all_goals rfl

theorem closing?_eq_some_iff {closed : Bool} :
    closing? tokens = some (closed, rest) ↔
      ∃ closing, tokens = closing :: rest ∧ closing.lexeme.closesInterval? = some closed := by
  cases tokens with
  | nil => simp [closing?]
  | cons closing tail =>
      simp only [closing?_cons, Option.map_eq_some_iff, Prod.mk.injEq, List.cons.injEq]
      constructor
      · intro found
        rcases found with ⟨_, closes, rfl, rfl⟩
        exact ⟨closing, ⟨rfl, rfl⟩, closes⟩
      · intro found
        rcases found with ⟨_, ⟨rfl, rfl⟩, closes⟩
        exact ⟨closed, closes, rfl, rfl⟩

theorem accepts_readInterval {startClosed : Bool} :
    (readInterval startClosed tokens).Accepts test rest ↔
      ∃ start separator middle finish closing finishClosed,
        (Expression.readOperand tokens).Accepts start (separator :: middle) ∧
        separator.lexeme = .symbol .range ∧
        (Expression.readOperand middle).Accepts finish (closing :: rest) ∧
        closing.lexeme.closesInterval? = some finishClosed ∧
        .interval start finish startClosed finishClosed = test := by
  simp only [readInterval, Reading.accepts_andThen, Reading.accepts_closedBy,
    Reading.accepts_widen]
  constructor
  · intro shown
    rcases shown with
      ⟨start, middle, _, ⟨separator, begins, range⟩, finish, tail, _, goes, accepts⟩
    split at accepts
    · rename_i finishClosed remaining found
      obtain ⟨rfl, rfl⟩ := Reading.accepts_accepted.mp accepts
      obtain ⟨closing, rfl, closes⟩ := closing?_eq_some_iff.mp found
      exact ⟨start, separator, middle, finish, closing, finishClosed, begins, range, goes, closes,
        rfl⟩
    · exact absurd accepts Reading.not_accepts_rejectAt
  · intro shown
    rcases shown with
      ⟨start, separator, middle, finish, closing, finishClosed, begins, range, goes, closes, rfl⟩
    have inside := Nat.lt_of_succ_lt begins.shorter
    refine ⟨start, middle, inside, ⟨separator, begins, range⟩, finish, closing :: rest,
      Nat.lt_trans goes.shorter inside, goes, ?_⟩
    have found : closing? (closing :: rest) = some (finishClosed, rest) :=
      closing?_eq_some_iff.mpr ⟨closing, rfl, closes⟩
    split
    · rename_i found'
      rw [found] at found'
      cases found'
      exact Reading.accepts_accepted.mpr ⟨rfl, rfl⟩
    · rename_i missing
      rw [found] at missing
      cases missing

theorem accepts_read_comparison {comparison : Comparison}
    (found : Expression.comparison? token = some comparison) :
    (read (token :: tokens)).Accepts test rest ↔
      ∃ endpoint, (Expression.readOperand tokens).Accepts endpoint rest ∧
        .comparison comparison endpoint = test := by
  simp only [read, found, Reading.accepts_widen, Reading.accepts_map]

/-- A token that opens an interval is read so, a parenthesis if the range symbol is ahead. -/
theorem read_interval {closed : Bool} (opens : token.lexeme.opensInterval? = some closed)
    (ahead : token.lexeme = .symbol .openParenthesis → precedesRange tokens = .ok true) :
    read (token :: tokens) = (readInterval closed tokens).widen (rest_le tokens) := by
  rcases token with ⟨lexeme, position⟩
  simp only at opens ahead
  unfold Lexeme.opensInterval? at opens
  split at opens
  · cases opens
    rfl
  · cases opens
    rfl
  · cases opens
    simp only [read, Expression.comparison?, ahead rfl, reduceCtorEq, if_false, if_true,
      Lexeme.symbol.injEq]
  · cases opens

end UnaryTest

namespace Grammar

variable {token : Token} {tokens rest : List Token} {test : UnaryTest}

/-! ## Only what is derived is accepted -/

theorem derivesTest_of_readInterval {startClosed : Bool}
    (opens : token.lexeme.opensInterval? = some startClosed)
    (accepts : (UnaryTest.readInterval startClosed tokens).Accepts test rest) :
    ∃ tree, DerivesTest tree (token :: tokens) rest ∧ tree.test = test := by
  obtain ⟨_, separator, middle, _, closing, finishClosed, begins, range, goes, closes, rfl⟩ :=
    UnaryTest.accepts_readInterval.mp accepts
  obtain ⟨start, startDerives, rfl⟩ := sumReader_sound _ begins
  obtain ⟨finish, finishDerives, rfl⟩ := sumReader_sound _ goes
  exact ⟨_, .interval opens startDerives range finishDerives closes, rfl⟩

theorem derivesTest_of_readValue (accepts : (UnaryTest.readValue tokens).Accepts test rest) :
    ∃ tree, DerivesTest tree tokens rest ∧ tree.test = test := by
  obtain ⟨_, reads, rfl⟩ := UnaryTest.accepts_readValue.mp accepts
  obtain ⟨tree, derives, rfl⟩ := reader_sound _ reads
  obtain ⟨consumed, extent, asks⟩ := derives.asks
  refine ⟨_, .value derives extent, ?_⟩
  rw [TestTree.test, asks]

theorem derivesTest_of_read (accepts : (UnaryTest.read tokens).Accepts test rest) :
    ∃ tree, DerivesTest tree tokens rest ∧ tree.test = test := by
  cases tokens with
  | nil => exact derivesTest_of_readValue accepts
  | cons token tail =>
      cases compares : Expression.comparison? token with
      | some comparison =>
          obtain ⟨_, reads, rfl⟩ := (UnaryTest.accepts_read_comparison compares).mp accepts
          obtain ⟨endpoint, derives, rfl⟩ := sumReader_sound _ reads
          have operator :
              Level.comparison.operator? token.lexeme = some (.compare comparison) := by
            rw [← comparison?_eq, compares]
            rfl
          exact ⟨_, .comparison operator derives, rfl⟩
      | none =>
          simp only [UnaryTest.read, compares] at accepts
          split at accepts
          · rename_i opens
            exact derivesTest_of_readInterval (by rw [opens]; rfl)
              (Reading.accepts_widen.mp accepts)
          split at accepts
          · rename_i opens
            exact derivesTest_of_readInterval (by rw [opens]; rfl)
              (Reading.accepts_widen.mp accepts)
          split at accepts
          · rename_i opens
            split at accepts
            · exact absurd accepts Reading.not_accepts_rejected
            · exact derivesTest_of_readInterval (by rw [opens]; rfl)
                (Reading.accepts_widen.mp accepts)
            · exact derivesTest_of_readValue accepts
          · exact derivesTest_of_readValue accepts

theorem derivesList_of_readList (tokens : List Token) {tests : List UnaryTest} {rest : List Token}
    (accepts : (UnaryTest.readList tokens).Accepts tests rest) :
    ∃ trees, DerivesList trees tokens rest ∧ trees.map TestTree.test = tests := by
  obtain ⟨first, middle, reads, ⟨_, rfl, rfl⟩ | ⟨tail, others, found, further, rfl⟩⟩ :=
    UnaryTest.accepts_readList.mp accepts
  · obtain ⟨tree, derives, rfl⟩ := derivesTest_of_read reads
    exact ⟨[tree], .last derives, rfl⟩
  · have shorter := Nat.lt_trans (afterSymbol?_length found) reads.shorter
    obtain ⟨tree, derives, rfl⟩ := derivesTest_of_read reads
    obtain ⟨trees, furtherDerives, rfl⟩ := derivesList_of_readList tail further
    obtain ⟨comma, rfl, separates⟩ := afterSymbol?_eq_some_iff.mp found
    exact ⟨tree :: trees, .more derives separates furtherDerives, rfl⟩
termination_by tokens.length

/-! ## Everything that is derived is accepted -/

theorem DerivesTest.accepts_read {tree : TestTree} (derives : DerivesTest tree tokens rest)
    (ends : Level.disjunction.Ends rest) : (UnaryTest.read tokens).Accepts tree.test rest := by
  cases derives with
  | comparison found endpoint =>
      rw [← comparison?_eq] at found
      obtain ⟨_, compares, equal⟩ := Option.map_eq_some_iff.mp found
      cases equal
      exact (UnaryTest.accepts_read_comparison compares).mpr
        ⟨_, endpoint.accepts_readOperand ends.sum, rfl⟩
  | interval opens start range finish closes =>
      have begins := start.accepts_readOperand (Level.ends_range range)
      have goes := finish.accepts_readOperand (Level.ends_interval closes)
      rw [UnaryTest.read_interval opens, Reading.accepts_widen]
      · exact UnaryTest.accepts_readInterval.mpr
          ⟨_, _, _, _, _, _, begins, range, goes, closes, rfl⟩
      · intro _
        rw [UnaryTest.precedesRange_of_accepts begins, afterSymbol?_front range]
        rfl
  | value value extent =>
      rw [UnaryTest.read_of_derives value]
      refine UnaryTest.accepts_readValue.mpr ⟨_, value.accepts_read ends, ?_⟩
      rw [value.usesSubject_eq extent]
      rfl

theorem DerivesList.accepts_readList {trees : List TestTree}
    (derives : DerivesList trees tokens rest) (ends : EndsList rest) :
    (UnaryTest.readList tokens).Accepts (trees.map TestTree.test) rest := by
  induction derives with
  | last test =>
      exact UnaryTest.accepts_readList.mpr
        ⟨_, _, test.accepts_read ends.ends, .inl ⟨ends.separate, rfl, rfl⟩⟩
  | more test comma _ further =>
      exact UnaryTest.accepts_readList.mpr
        ⟨_, _, test.accepts_read (Level.ends_comma comma),
          .inr ⟨_, _, afterSymbol?_front comma, further ends, rfl⟩⟩

/-- The entries that are read from a whole list of tokens are those of its trees. -/
theorem ofTokens_iff_derives {entry : UnaryTests} :
    UnaryTests.ofTokens tokens = .ok entry ↔
      ∃ tree, DerivesEntry tree tokens ∧ tree.entry = entry := by
  rw [UnaryTests.ofTokens_eq_ok_iff]
  constructor
  · intro shown
    rcases shown with ⟨any, rfl⟩ |
      ⟨_, ⟨inner, tests, closing, negates, accepts, closes, rfl⟩ | ⟨tests, plain, accepts, rfl⟩⟩
    · exact ⟨.any, isAnyEntry_iff.mp any, rfl⟩
    · obtain ⟨word, opening, rfl, named, opens⟩ :=
        UnaryTests.afterNegation?_eq_some_iff.mp negates
      obtain ⟨trees, derives, rfl⟩ := derivesList_of_readList inner accepts
      exact ⟨_, .noneOf named opens derives closes, rfl⟩
    · obtain ⟨trees, derives, rfl⟩ := derivesList_of_readList tokens accepts
      exact ⟨_, .oneOf plain derives, rfl⟩
  · intro shown
    rcases shown with ⟨tree, derives, rfl⟩
    cases derives with
    | empty => exact .inl ⟨rfl, rfl⟩
    | dash sign => exact .inl ⟨beq_iff_eq.mpr sign, rfl⟩
    | noneOf named opens list closes =>
        have accepts := list.accepts_readList (endsList_closing closes)
        exact .inr ⟨rfl, .inl ⟨_, _, _, afterNegation?_front named opens, accepts, closes, rfl⟩⟩
    | oneOf plain list =>
        exact .inr ⟨list.not_isAnyEntry, .inr ⟨_, plain, list.accepts_readList endsList_nil, rfl⟩⟩

end Grammar

end DecisionTables
