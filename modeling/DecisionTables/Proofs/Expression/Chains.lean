import DecisionTables.Proofs.Expression.Connectives
import DecisionTables.Proofs.Expression.Literals

/-!
# Chains

Operands that stand in a row with `and`, or with `or`, between them are read as a chain, nested to
the left. What the chain says follows three-valued logic. It does not matter in which order the
operands are written and how parentheses group them, and the negation of a chain says what the chain
of the negated operands under the other connective says.
-/

namespace DecisionTables

namespace Grammar

/-- Whether a tree joins the operands of a grouping, with or without more parentheses than needed.
-/
inductive Tree.Groups (connective : Connective) : Tree → Grouping Tree → Prop
  | single {operand : Tree} : Groups connective operand (.single operand)
  | join {left right : Tree} {leftGrouping rightGrouping : Grouping Tree} :
      Groups connective left leftGrouping → Groups connective right rightGrouping →
      Groups connective (.binary connective.operator left right) (.join leftGrouping rightGrouping)
  | enclosed {inner : Tree} {grouping : Grouping Tree} :
      Groups connective inner grouping → Groups connective (.enclosed inner) grouping

variable {connective : Connective} {tree : Tree} {tokens rest : List Token}

def chain (connective : Connective) (first : Tree) (others : List Tree) : Tree :=
  others.foldl (.binary connective.operator) first

theorem Tree.Groups.chain {grouping : Grouping Tree} (groups : tree.Groups connective grouping)
    (others : List Tree) :
    (Grammar.chain connective tree others).Groups connective (grouping.extend others) := by
  induction others generalizing tree grouping with
  | nil => exact groups
  | cons second others ih => exact ih (.join groups .single)

/-- Parentheses leave no trace in the expression. -/
theorem Tree.Groups.folded_eq {grouping : Grouping Tree}
    (groups : tree.Groups connective grouping) :
    tree.folded = (grouping.map Tree.folded).expression connective := by
  induction groups with
  | single => rfl
  | join _ _ left right => rw [Tree.folded, left, right, Grouping.map, Grouping.expression]
  | enclosed _ inner => exact inner

/-- Operands with the word of a connective between any two of them, before a rest. -/
inductive Chained (connective : Connective) :
    Tree → List Tree → List Token → List Token → Prop
  | last {operand : Tree} {tokens rest : List Token} :
      Derives (.phrase connective.operator.level.tighter) operand tokens rest →
      Chained connective operand [] tokens rest
  | next {operand second : Tree} {others : List Tree} {word : Token}
      {tokens middle rest : List Token} :
      Derives (.phrase connective.operator.level.tighter) operand tokens (word :: middle) →
      word.lexeme = .name connective.word →
      Chained connective second others middle rest →
      Chained connective operand (second :: others) tokens rest

theorem Chained.exists_derives {first : Tree} {others : List Tree}
    (chained : Chained connective first others tokens rest) :
    ∃ middle, Derives (.phrase connective.operator.level.tighter) first tokens middle ∧
      ∀ left, Derives (.more connective.operator.level left) (chain connective left others)
        middle rest := by
  induction chained with
  | last operand => exact ⟨_, operand, fun _ => .stop⟩
  | next operand named _ ih =>
      obtain ⟨middle, second, further⟩ := ih
      refine ⟨_, operand, fun left => .extend ?_ second (further _)⟩
      rw [named]
      cases connective <;> rfl

/-- Operands that stand in a row are read as a chain. -/
theorem Chained.derives {first : Tree} {others : List Tree}
    (chained : Chained connective first others tokens rest) :
    Derives (.phrase .disjunction) (chain connective first others) tokens rest := by
  obtain ⟨middle, operand, further⟩ := chained.exists_derives
  cases connective with
  | conjunction => exact .loop rfl (.loop rfl operand (further _)) .stop
  | disjunction => exact .loop rfl operand (further _)

/-- Whether a text is read as a tree. -/
def ReadAs (text : String) (tree : Tree) : Prop :=
  ∃ tokens, tokenize text = .ok tokens ∧ DerivesFrom tokens tree

/-- What the expression of a chain of operands says. -/
structure JoinsOperands (connective : Connective) (first : Tree) (others : List Tree)
    (expression : Expression) : Prop where
  /-- Its outcome follows three-valued logic. -/
  threeValued : ∀ environment, Grouping.ThreeValued connective environment
    ((first :: others).map Tree.folded) (expression.evaluate environment)
  /-- A text of the same operands, in whatever order they stand and parentheses group them, has the
  same value if there is one. -/
  regrouped : ∀ text tree grouping, ReadAs text tree → tree.Groups connective grouping →
    grouping.operands.Perm (first :: others) → ∃ other, Expression.parse text = .ok other ∧
      ∀ environment value, expression.evaluate environment = .ok value →
        other.evaluate environment = .ok value
  /-- A text for the negation of the whole and one for the negated operands under the dual
  connective have the same values. -/
  negated : ∀ whole parts, ReadAs whole (.complement (chain connective first others)) →
    ReadAs parts (chain connective.dual (.complement first) (others.map .complement)) →
    ∃ negation negations, Expression.parse whole = .ok negation ∧
      Expression.parse parts = .ok negations ∧
      ∀ environment value, negation.evaluate environment = .ok value ↔
        negations.evaluate environment = .ok value

/-- The expression of a chain groups its operands one after the other. -/
theorem folded_chain (connective : Connective) (first : Tree) (others : List Tree) :
    ∃ grouping : Grouping Expression,
      (chain connective first others).folded = grouping.expression connective ∧
        grouping.operands = (first :: others).map Tree.folded := by
  have alone : first.Groups connective (.single first) := .single
  refine ⟨_, (alone.chain others).folded_eq, ?_⟩
  rw [Grouping.operands_map, Grouping.operands_extend]
  rfl

theorem ReadAs.parse {text : String} (read : ReadAs text tree) :
    Expression.parse text = .ok tree.folded := by
  obtain ⟨tokens, tokenized, derives⟩ := read
  exact Expression.parse_of_derives tokenized derives

/-- A text of at least two operands that are joined by a connective is read, and follows
three-valued logic whatever the operands are. -/
theorem chained_joinsOperands {text : String} {first second : Tree} {others : List Tree}
    (tokenized : tokenize text = .ok tokens)
    (chained : Chained connective first (second :: others) tokens []) :
    ∃ expression, Expression.parse text = .ok expression ∧
      JoinsOperands connective first (second :: others) expression := by
  obtain ⟨grouping, folds, operands⟩ := folded_chain connective first (second :: others)
  have joins : grouping.Joins := by
    rw [Grouping.Joins, operands, List.length_map]
    exact Nat.le_add_left 2 others.length
  refine ⟨_, ReadAs.parse ⟨tokens, tokenized, chained.derives⟩, ?_⟩
  rw [folds]
  constructor
  · intro environment
    rw [← operands]
    exact Grouping.threeValued joins
  · intro other tree otherGrouping read groups perm
    refine ⟨_, read.parse, fun environment value evaluates => ?_⟩
    rw [groups.folded_eq]
    refine Grouping.evaluate_expression_perm joins ?_ evaluates
    rw [Grouping.operands_map, operands]
    exact perm.map _
  · intro whole parts wholeRead partsRead
    refine ⟨_, _, wholeRead.parse, partsRead.parse, fun environment value => ?_⟩
    obtain ⟨negated, negatedFolds, negatedOperands⟩ :=
      folded_chain connective.dual (.complement first) ((second :: others).map .complement)
    rw [Tree.folded, folds, negatedFolds]
    refine Grouping.evaluate_complement_expression joins (List.Perm.of_eq ?_)
    rw [negatedOperands, operands, ← List.map_cons, List.map_map, List.map_map]
    rfl

def openRank : List Token :=
  [⟨.name "open", 0⟩, ⟨.name "and", 5⟩, ⟨.name "null", 9⟩, ⟨.name "and", 14⟩, ⟨.name "rank", 18⟩,
    ⟨.symbol .greater, 23⟩, ⟨.integer 1, 25⟩]

def rankAboveOne : Tree :=
  .binary (.compare (.relation .greater)) (.name "rank") (.literal (.integer 1))

theorem openRank_joinsOperands :
    tokenize "open and null and rank > 1" = .ok openRank ∧
      Chained .conjunction (.name "open") [.literal .null, rankAboveOne] openRank [] ∧
      ∃ expression, Expression.parse "open and null and rank > 1" = .ok expression ∧
        JoinsOperands .conjunction (.name "open") [.literal .null, rankAboveOne] expression := by
  have tokenized : tokenize "open and null and rank > 1" = .ok openRank := by cbv
  have sum {tree : Tree} {tokens rest : List Token}
      (primary : Derives (.phrase .primary) tree tokens rest) :
      Derives (.phrase .sum) tree tokens rest :=
    .loop rfl (.loop rfl (.unsigned primary) .stop) .stop
  have chained : Chained .conjunction (.name "open") [.literal .null, rankAboveOne] openRank [] :=
    .next (.uncompared (sum (.name rfl rfl rfl))) rfl
      (.next (.uncompared (sum (.literal rfl))) rfl
        (.last (.compared (sum (.name rfl rfl rfl)) rfl (sum (.literal rfl)))))
  exact ⟨tokenized, chained, chained_joinsOperands tokenized chained⟩

end Grammar

end DecisionTables
