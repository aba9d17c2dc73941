import DecisionTables.Proofs.Expression.Readers

/-!
# Parsing follows the grammar

The reader of a level accepts the folded expression of every phrase of that level that ends where no
operator could go on, and accepts nothing else. Parsing a text therefore succeeds exactly on the
derivable lists of tokens.
-/

namespace DecisionTables

namespace Grammar

open Expression

/-! ## Every phrase is accepted -/

/-- Whether the readers accept what is derived from a part, if it ends where no operator could go
on. What follows a phrase is read as the chain that goes on from the expression of the phrase. -/
def Part.Reads : Part → Tree → List Token → List Token → Prop
  | .phrase level, tree, tokens, rest =>
      level.Ends rest → ∀ (bound : Nat) (within : tokens.length ≤ bound + 1),
        (level.reader (reader bound) tokens within).Accepts tree.folded rest
  | .more level left, tree, tokens, rest =>
      level.loops = true → level.Ends rest → ∀ (bound : Nat) (within : tokens.length ≤ bound + 1),
        (readChain (level.tighter.reader (reader bound)) level.operation? left.folded tokens
          within).Accepts tree.folded rest

/-- The nested reader accepts a phrase within parentheses. -/
theorem Part.Reads.enclosed {inner : Tree} {tokens rest : List Token} {closing : Token}
    (reads : (Part.phrase .disjunction).Reads inner tokens (closing :: rest))
    (closes : closing.lexeme = .symbol .closeParenthesis) {bound : Nat}
    (within : tokens.length ≤ bound) :
    (readEnclosed (reader bound) tokens within).Accepts inner.folded rest := by
  have ends : Level.disjunction.Ends (closing :: rest) := Level.ends_closing closes
  cases bound with
  | zero =>
      -- A phrase takes up a token, so it does not fit into a bound of none.
      have shorter := (reads ends tokens.length (Nat.le_succ _)).shorter
      exact absurd within (Nat.not_le_of_gt (Nat.lt_of_le_of_lt (Nat.zero_le _) shorter))
  | succ bound =>
      exact accepts_readEnclosed.mpr ⟨closing, reads ends bound within, closes⟩

theorem accepts_operator {level : Level} {token : Token} {operator : Operator}
    (found : level.operator? token.lexeme = some operator) :
    level.operation? token = some operator.join := by
  rw [Level.operation?, found]
  rfl

theorem Level.Ends.accepts_chain {level : Level} {rest : List Token} (ends : level.Ends rest)
    {bound : Nat} {operand : Reader Expression bound} {left : Expression}
    {within : rest.length ≤ bound} :
    (readChain operand level.operation? left rest within).Accepts left rest := by
  cases rest with
  | nil => exact accepts_readChain_nil.mpr ⟨rfl, rfl⟩
  | cons token rest =>
      have stops : level.operation? token = none := by
        rw [Level.operation?, ends token rfl level (Nat.le_refl _)]
        rfl
      exact (accepts_readChain_stop stops).mpr ⟨rfl, rfl⟩

/-- An operator that a comparison may hold is the comparison it stands for. -/
theorem compared?_of_operator {token : Token} {operator : Operator} {rest : List Token}
    (found : Level.comparison.operator? token.lexeme = some operator) :
    ∃ comparison, compared? (token :: rest) = some (comparison, rest) ∧
      operator = .compare comparison := by
  rw [← comparison?_eq] at found
  obtain ⟨comparison, stands, rfl⟩ := Option.map_eq_some_iff.mp found
  exact ⟨comparison, by rw [compared?, stands]; rfl, rfl⟩

theorem Level.Ends.not_compared {rest : List Token} (ends : Level.comparison.Ends rest) :
    compared? rest = none := by
  cases rest with
  | nil => rfl
  | cons token rest =>
      have missing := ends token rfl .comparison (Nat.le_refl _)
      rw [← comparison?_eq] at missing
      rw [compared?, Option.map_eq_none_iff.mp missing]
      rfl

theorem Derives.starts_unsigned {tree : Tree} {tokens rest : List Token}
    (derives : Derives (.phrase .primary) tree tokens rest) : Unsigned tokens := by
  cases tokens with
  | nil => trivial
  | cons token tail =>
      refine ⟨derives.no_sign, fun complement => ?_⟩
      cases found : afterSymbol? .openParenthesis tail with
      | none => rfl
      | some inner =>
          obtain ⟨opening, rfl, opens⟩ := afterSymbol?_eq_some_iff.mp found
          exact absurd complement (derives.no_complement opens)

/-- The readers accept the folded expression of every phrase. -/
theorem Derives.reads {part : Part} {tree : Tree} {tokens rest : List Token}
    (derives : Derives part tree tokens rest) : part.Reads tree tokens rest := by
  induction derives with
  | loop loops _ further operandReads furtherReads =>
      intro ends bound within
      rw [Level.reader_loop loops]
      have first := operandReads (further.ends_before ends) bound within
      have inside := Nat.le_trans (Nat.le_of_lt first.shorter) within
      exact accepts_readLevel.mpr ⟨_, _, inside, first, furtherReads loops ends bound inside⟩
  | stop =>
      intro _ ends bound within
      exact ends.accepts_chain
  | extend found _ further operandReads furtherReads =>
      intro loops ends bound within
      have inside := Nat.le_of_succ_le within
      have right := operandReads (further.ends_before ends) bound inside
      have beyond := Nat.le_trans (Nat.le_of_lt right.shorter) inside
      exact (accepts_readChain_go (accepts_operator found)).mpr
        ⟨_, _, inside, beyond, right, furtherReads loops ends bound beyond⟩
  | uncompared _ sumReads =>
      intro ends bound within
      exact accepts_readComparison.mpr
        ⟨_, _, sumReads ends.tighter bound within, .inl ⟨ends.not_compared, rfl, rfl⟩⟩
  | compared _ found _ leftReads rightReads =>
      intro ends bound within
      have left := leftReads (Level.ends_of_operator found) bound within
      have inside := Nat.le_trans (Nat.le_of_lt (Nat.lt_of_succ_lt left.shorter)) within
      obtain ⟨comparison, stands, rfl⟩ := compared?_of_operator found
      exact accepts_readComparison.mpr
        ⟨_, _, left, .inr ⟨comparison, _, _, inside, stands,
          rightReads ends.tighter bound inside, rfl⟩⟩
  | minus sign _ operandReads =>
      intro ends bound within
      rw [accepts_readSigned_minus sign]
      exact ⟨_, operandReads ends bound _, rfl⟩
  | complement word opens _ closes operandReads =>
      intro _ bound within
      have inside := Nat.le_of_succ_le_succ (Nat.le_of_succ_le within)
      rw [accepts_readSigned_complement word opens]
      exact ⟨_, inside, operandReads.enclosed closes inside, rfl⟩
  | unsigned primary primaryReads =>
      intro ends bound within
      rw [readSigned_unsigned primary.starts_unsigned]
      exact primaryReads ends.tighter bound within
  | literal found =>
      intro _ bound within
      rw [accepts_readPrimary_literal found]
      exact ⟨rfl, rfl⟩
  | name named fresh separate =>
      intro _ bound within
      rw [accepts_readPrimary_name named fresh, accepts_readNamed_path separate]
      exact ⟨rfl, rfl⟩
  | call named function opens _ closes argumentReads =>
      intro _ bound within
      have inside := Nat.le_of_succ_le (Nat.le_of_succ_le_succ within)
      rw [accepts_readPrimary_name named (constant?_of_function function),
        accepts_readNamed_call opens]
      exact ⟨_, _, inside, function, argumentReads.enclosed closes inside, rfl⟩
  | subject marked =>
      intro _ bound within
      rw [accepts_readPrimary_subject marked]
      exact ⟨rfl, rfl⟩
  | enclosed opens _ closes innerReads =>
      intro _ bound within
      rw [accepts_readPrimary_enclosed opens]
      exact innerReads.enclosed closes _

/-! ## Only phrases are accepted -/

/-- Whether a reader accepts nothing but folded expressions of phrases of a level. -/
def Level.Sound (level : Level) {bound : Nat} (read : Reader Expression bound) : Prop :=
  ∀ ⦃tokens rest : List Token⦄ ⦃within : tokens.length ≤ bound⦄ ⦃expression : Expression⦄,
    (read tokens within).Accepts expression rest →
      ∃ tree, Derives (.phrase level) tree tokens rest ∧ tree.folded = expression

section Sound

variable {bound : Nat} {nested : Reader Expression bound}

/-- A chain goes on from the folded expression of a tree to that of a tree that holds it. -/
theorem Level.Sound.chain {level : Level} {operand : Reader Expression bound}
    (sound : level.tighter.Sound operand) :
    ∀ (tokens : List Token) {within : tokens.length ≤ bound} (left : Tree)
      {expression : Expression} {rest : List Token},
      (readChain operand level.operation? left.folded tokens within).Accepts expression rest →
        ∃ tree, Derives (.more level left) tree tokens rest ∧ tree.folded = expression
  | [], _, left, expression, rest, accepts => by
      obtain ⟨rfl, rfl⟩ := accepts_readChain_nil.mp accepts
      exact ⟨left, .stop, rfl⟩
  | token :: tokens, within, left, expression, rest, accepts => by
      cases found : level.operator? token.lexeme with
      | none =>
          have stops : level.operation? token = none := by rw [Level.operation?, found]; rfl
          obtain ⟨rfl, rfl⟩ := (accepts_readChain_stop stops).mp accepts
          exact ⟨left, .stop, rfl⟩
      | some operator =>
          obtain ⟨right, middle, inside, beyond, first, further⟩ :=
            (accepts_readChain_go (accepts_operator found)).mp accepts
          obtain ⟨rightTree, rightDerives, rfl⟩ := sound first
          have shorter := first.shorter
          obtain ⟨tree, furtherDerives, folds⟩ :=
            Level.Sound.chain sound middle (.binary operator left rightTree) further
          exact ⟨tree, .extend found rightDerives furtherDerives, folds⟩
termination_by tokens => tokens.length
decreasing_by exact Nat.lt_succ_of_lt shorter

theorem Level.Sound.loop {level : Level} (loops : level.loops = true)
    (sound : level.tighter.Sound (level.tighter.reader nested)) :
    level.Sound (level.reader nested) := by
  intro tokens rest within expression accepts
  rw [Level.reader_loop loops] at accepts
  obtain ⟨left, middle, inside, first, further⟩ := accepts_readLevel.mp accepts
  obtain ⟨leftTree, leftDerives, rfl⟩ := sound first
  obtain ⟨tree, furtherDerives, folds⟩ := sound.chain middle leftTree further
  exact ⟨tree, .loop loops leftDerives furtherDerives, folds⟩

theorem Level.Sound.enclosed (sound : Level.disjunction.Sound nested) {tokens rest : List Token}
    {within : tokens.length ≤ bound} {expression : Expression}
    (accepts : (readEnclosed nested tokens within).Accepts expression rest) :
    ∃ tree closing, Derives (.phrase .disjunction) tree tokens (closing :: rest) ∧
      closing.lexeme = .symbol .closeParenthesis ∧ tree.folded = expression := by
  obtain ⟨closing, inner, closes⟩ := accepts_readEnclosed.mp accepts
  obtain ⟨tree, derives, folds⟩ := sound inner
  exact ⟨tree, closing, derives, closes, folds⟩

theorem Level.Sound.primary (sound : Level.disjunction.Sound nested) :
    Level.primary.Sound (Level.primary.reader nested) := by
  intro tokens rest within expression accepts
  obtain ⟨token, tail, rfl, ⟨value, found⟩ | ⟨word, named, fresh⟩ | marked | opens⟩ :=
    readPrimary_front accepts
  · rw [accepts_readPrimary_literal found] at accepts
    rcases accepts with ⟨rfl, rfl⟩
    exact ⟨_, .literal found, rfl⟩
  · rw [accepts_readPrimary_name named fresh] at accepts
    cases separate : afterSymbol? .openParenthesis tail with
    | none =>
        obtain ⟨rfl, rfl⟩ := (accepts_readNamed_path separate).mp accepts
        exact ⟨_, .name named fresh separate, rfl⟩
    | some inner =>
        obtain ⟨opening, rfl, opens⟩ := afterSymbol?_eq_some_iff.mp separate
        obtain ⟨function, argument, inside, known, encloses, rfl⟩ :=
          (accepts_readNamed_call opens).mp accepts
        obtain ⟨tree, closing, derives, closes, rfl⟩ := sound.enclosed encloses
        exact ⟨_, .call named known opens derives closes, rfl⟩
  · rw [accepts_readPrimary_subject marked] at accepts
    rcases accepts with ⟨rfl, rfl⟩
    exact ⟨_, .subject marked, rfl⟩
  · rw [accepts_readPrimary_enclosed opens] at accepts
    obtain ⟨tree, closing, derives, closes, rfl⟩ := sound.enclosed accepts
    exact ⟨_, .enclosed opens derives closes, rfl⟩

/-- The signs before a phrase are read one after the other. -/
theorem Level.Sound.signed (sound : Level.disjunction.Sound nested) :
    Level.signed.Sound (Level.signed.reader nested) := by
  intro tokens
  induction tokens with
  | nil =>
      intro rest within expression accepts
      obtain ⟨tree, derives, folds⟩ := sound.primary accepts
      exact ⟨tree, .unsigned derives, folds⟩
  | cons token tail signedSound =>
      intro rest within expression accepts
      by_cases minus : token.lexeme = .symbol .minus
      · rw [accepts_readSigned_minus minus] at accepts
        rcases accepts with ⟨operand, reads, rfl⟩
        obtain ⟨tree, derives, rfl⟩ := signedSound reads
        exact ⟨_, .minus minus derives, rfl⟩
      by_cases complement :
          token.lexeme = .name "not" ∧ ∃ inner, afterSymbol? .openParenthesis tail = some inner
      · rcases complement with ⟨word, inner, found⟩
        obtain ⟨opening, rfl, opens⟩ := afterSymbol?_eq_some_iff.mp found
        rw [accepts_readSigned_complement word opens] at accepts
        rcases accepts with ⟨operand, inside, encloses, rfl⟩
        obtain ⟨tree, closing, derives, closes, rfl⟩ := sound.enclosed encloses
        exact ⟨_, .complement word opens derives closes, rfl⟩
      · have unsigned : Unsigned (token :: tail) := by
          refine ⟨minus, fun word => ?_⟩
          rw [Option.eq_none_iff_forall_ne_some]
          intro inner found
          exact complement ⟨word, inner, found⟩
        rw [readSigned_unsigned unsigned] at accepts
        obtain ⟨tree, derives, folds⟩ := sound.primary accepts
        exact ⟨tree, .unsigned derives, folds⟩

theorem Level.Sound.comparison (sound : Level.sum.Sound (Level.sum.reader nested)) :
    Level.comparison.Sound (Level.comparison.reader nested) := by
  intro tokens rest within expression accepts
  obtain ⟨left, middle, first, ⟨_, rfl, rfl⟩ |
    ⟨comparison, tail, right, inside, found, second, rfl⟩⟩ := accepts_readComparison.mp accepts
  · obtain ⟨tree, derives, folds⟩ := sound first
    exact ⟨tree, .uncompared derives, folds⟩
  · obtain ⟨leftTree, leftDerives, rfl⟩ := sound first
    obtain ⟨rightTree, rightDerives, rfl⟩ := sound second
    cases middle with
    | nil => cases found
    | cons token middle =>
        obtain ⟨_, stands, equal⟩ := Option.map_eq_some_iff.mp found
        cases equal
        have operator : Level.comparison.operator? token.lexeme = some (.compare comparison) := by
          rw [← comparison?_eq, stands]
          rfl
        exact ⟨_, .compared leftDerives operator rightDerives, rfl⟩

theorem Level.Sound.sum (sound : Level.disjunction.Sound nested) :
    Level.sum.Sound (Level.sum.reader nested) := by
  have product : Level.product.Sound (Level.product.reader nested) :=
    Level.Sound.loop rfl sound.signed
  exact Level.Sound.loop rfl product

theorem Level.Sound.disjunction (sound : Level.disjunction.Sound nested) :
    Level.disjunction.Sound (Level.disjunction.reader nested) := by
  have conjunction : Level.conjunction.Sound (Level.conjunction.reader nested) :=
    Level.Sound.loop rfl sound.sum.comparison
  exact Level.Sound.loop rfl conjunction

end Sound

/-- The reader of expressions accepts nothing but phrases of the loosest level, whatever its
bound. -/
theorem reader_sound (bound : Nat) : Level.disjunction.Sound (reader bound) := by
  induction bound with
  | zero =>
      intro _ _ _ _ accepts
      exact absurd accepts Reading.not_accepts_rejectAt
  | succ bound sound => exact sound.disjunction

/-- The reader of sums accepts nothing but sums. -/
theorem sumReader_sound (bound : Nat) : Level.sum.Sound (sumReader bound) := by
  cases bound with
  | zero =>
      intro _ _ _ _ accepts
      exact absurd accepts Reading.not_accepts_rejectAt
  | succ bound => exact (reader_sound bound).sum

/-! ## Parsing -/

/-- Whether a tree is derived from a list of tokens as an expression. -/
def DerivesFrom (tokens : List Token) (tree : Tree) : Prop :=
  Derives (.phrase .disjunction) tree tokens []

/-- Reading a whole list of tokens yields the folded expression of a tree derived from it. -/
theorem read_complete_iff {tokens : List Token} {expression : Expression} :
    (read tokens).complete = .ok expression ↔
      ∃ tree, DerivesFrom tokens tree ∧ tree.folded = expression := by
  rw [Reading.complete_eq_ok_iff]
  constructor
  · intro accepts
    exact reader_sound tokens.length accepts
  · intro shown
    rcases shown with ⟨tree, derives, rfl⟩
    cases tokens with
    | nil =>
        have shorter := (derives.reads Level.ends_nil 0 (Nat.zero_le _)).shorter
        exact absurd shorter (Nat.lt_irrefl 0)
    | cons token tail => exact derives.reads Level.ends_nil tail.length (Nat.le_refl _)

/-- What makes the parsing of a text with these tokens follow the grammar. -/
structure FollowsGrammar (text : String) (tokens : List Token) : Prop where
  /-- The expressions that parsing yields are the folded expressions of the derived trees. -/
  parses : ∀ expression, parse text = .ok expression ↔
    ∃ tree, DerivesFrom tokens tree ∧ tree.folded = expression
  /-- Without a derived tree the text is invalid. -/
  rejects : (¬∃ tree, DerivesFrom tokens tree) → ∃ error, parse text = .error (.invalid error)
  /-- There is at most one derived tree. -/
  unique : ∀ tree other, DerivesFrom tokens tree → DerivesFrom tokens other → tree = other
  /-- The operations of a derived tree nest to the left. -/
  nested : ∀ tree, DerivesFrom tokens tree → tree.LeftNested
  /-- Folding signs into the literals of a derived tree changes its value in no environment. -/
  folding : ∀ tree environment, DerivesFrom tokens tree →
    tree.folded.evaluate environment = tree.plain.evaluate environment

/-- Parsing succeeds exactly on the derivable lists of tokens, which have one tree each, and yields
the expression of that tree with its signs folded into numeric literals. -/
theorem parse_followsGrammar {text : String} {tokens : List Token}
    (shown : Text.isBlankText text = false) (tokenized : tokenize text = .ok tokens) :
    FollowsGrammar text tokens := by
  have parsed : parse text =
      (read tokens).complete.mapError fun rejection => .invalid (.ofRejection text rejection) := by
    simp only [parse, shown, tokenized, Bool.false_eq_true, if_false]
    cases (read tokens).complete <;> rfl
  constructor
  · intro expression
    rw [← read_complete_iff, parsed]
    cases (read tokens).complete with
    | ok read =>
        change Except.ok read = Except.ok expression ↔ _
        simp only [Except.ok.injEq]
    | error rejection =>
        change Except.error _ = Except.ok expression ↔ _
        simp only [reduceCtorEq]
  · intro underivable
    rw [parsed]
    cases read : (Expression.read tokens).complete with
    | ok expression =>
        obtain ⟨tree, derives, _⟩ := read_complete_iff.mp read
        exact absurd ⟨tree, derives⟩ underivable
    | error rejection => exact ⟨_, rfl⟩
  · intro tree other first second
    exact (first.unique Level.ends_nil second Level.ends_nil).1
  · intro tree derives
    exact derives.shapes.2
  · intro tree environment _
    exact tree.evaluate_folded environment

def signedProduct : List Token :=
  [⟨.name "a", 0⟩, ⟨.symbol .minus, 2⟩, ⟨.symbol .minus, 4⟩, ⟨.integer 2, 5⟩, ⟨.symbol .times, 7⟩,
    ⟨.symbol .openParenthesis, 9⟩, ⟨.integer 3, 10⟩, ⟨.symbol .closeParenthesis, 11⟩]

theorem signedProduct_followsGrammar :
    Text.isBlankText "a - -2 * (3)" = false ∧ tokenize "a - -2 * (3)" = .ok signedProduct ∧
      FollowsGrammar "a - -2 * (3)" signedProduct := by
  have shown : Text.isBlankText "a - -2 * (3)" = false := by cbv
  have tokenized : tokenize "a - -2 * (3)" = .ok signedProduct := by cbv
  exact ⟨shown, tokenized, parse_followsGrammar shown tokenized⟩

end Grammar

end DecisionTables
