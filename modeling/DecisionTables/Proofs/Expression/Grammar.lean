import DecisionTables.Expression.Eval
import DecisionTables.Expression.Parser

/-!
# The grammar of expressions

The grammar is given apart from any reader of it, as derivations of trees from lists of tokens. A
derivation names the tokens that stand after the derived phrase, because a name is not followed by
an opening parenthesis and a phrase in the middle of a text says nothing about where it stops. A
tree records every sign and every pair of parentheses; two expressions belong to it, one that keeps
each sign as a negation and one in which the signs before numeric literals are folded into them.
-/

namespace DecisionTables

namespace Grammar

/-! ## Operators and levels -/

/-- The binary operators. -/
inductive Operator where
  | disjunction
  | conjunction
  | compare (comparison : Comparison)
  | arithmetic (operation : Arithmetic)

/-- The expression that an operator makes of two. -/
def Operator.join : Operator → Expression → Expression → Expression
  | .disjunction => .disjunction
  | .conjunction => .conjunction
  | .compare comparison => .compare comparison
  | .arithmetic operation => .arithmetic operation

/-- The levels of the grammar, from the loosest to the tightest. -/
inductive Level where
  | disjunction | conjunction | comparison | sum | product | signed | primary
  deriving DecidableEq

namespace Level

/-- The place of a level, which grows with its tightness. -/
def rank : Level → Nat
  | .disjunction => 0
  | .conjunction => 1
  | .comparison => 2
  | .sum => 3
  | .product => 4
  | .signed => 5
  | .primary => 6

def tighter : Level → Level
  | .disjunction => .conjunction
  | .conjunction => .comparison
  | .comparison => .sum
  | .sum => .product
  | .product => .signed
  | .signed => .primary
  | .primary => .primary

/-- Whether any number of operands may be joined at a level. -/
def loops : Level → Bool
  | .disjunction | .conjunction | .sum | .product => true
  | .comparison | .signed | .primary => false

/-- The operator that a lexeme stands for between the operands of a level. -/
def operator? : Level → Lexeme → Option Operator
  | .disjunction, .name word => if word = "or" then some .disjunction else none
  | .conjunction, .name word => if word = "and" then some .conjunction else none
  | .comparison, .symbol .less => some (.compare (.relation .less))
  | .comparison, .symbol .atMost => some (.compare (.relation .atMost))
  | .comparison, .symbol .greater => some (.compare (.relation .greater))
  | .comparison, .symbol .atLeast => some (.compare (.relation .atLeast))
  | .comparison, .symbol .equal => some (.compare .equal)
  | .comparison, .symbol .notEqual => some (.compare .notEqual)
  | .sum, .symbol .plus => some (.arithmetic .add)
  | .sum, .symbol .minus => some (.arithmetic .sub)
  | .product, .symbol .times => some (.arithmetic .mul)
  | .product, .symbol .over => some (.arithmetic .div)
  | _, _ => none

end Level

/-- The level whose operands an operator joins. -/
def Operator.level : Operator → Level
  | .disjunction => .disjunction
  | .conjunction => .conjunction
  | .compare _ => .comparison
  | .arithmetic .add | .arithmetic .sub => .sum
  | .arithmetic .mul | .arithmetic .div => .product

theorem Level.operator?_level {level : Level} {lexeme : Lexeme} {operator : Operator}
    (found : level.operator? lexeme = some operator) : operator.level = level := by
  unfold operator? at found
  split at found
  all_goals first | split at found | skip
  all_goals first | cases found; rfl | cases found

/-! ## Trees -/

/-- The value that a lexeme alone stands for: a number, a text, a truth value or null. -/
def literal? : Lexeme → Option Value
  | .integer value => some (.number (.integer value))
  | .double value => some (.number (.double value))
  | .text value => some (.text value)
  | .name word => Expression.constant? word
  | .symbol _ => none

/-- What a phrase of the grammar is made of, with its signs and parentheses. -/
inductive Tree where
  | literal (value : Value)
  | name (word : String)
  | subject
  | enclosed (inner : Tree)
  | call (function : Function) (argument : Tree)
  | complement (operand : Tree)
  | minus (operand : Tree)
  | binary (operator : Operator) (left right : Tree)

namespace Tree

/-- The expression of a tree in which every sign is a negation. -/
def plain : Tree → Expression
  | .literal value => .literal value
  | .name word => .name (Path.ofName word)
  | .subject => .subject
  | .enclosed inner => inner.plain
  | .call function argument => .call function argument.plain
  | .complement operand => .complement operand.plain
  | .minus operand => .negate operand.plain
  | .binary operator left right => operator.join left.plain right.plain

/-- The expression of a tree in which the signs before a numeric literal are folded into it, also
those before its parentheses. -/
def folded : Tree → Expression
  | .literal value => .literal value
  | .name word => .name (Path.ofName word)
  | .subject => .subject
  | .enclosed inner => inner.folded
  | .call function argument => .call function argument.folded
  | .complement operand => .complement operand.folded
  | .minus operand => Expression.negated operand.folded
  | .binary operator left right => operator.join left.folded right.folded

/-- The tightness of what stands at the root of a tree. -/
def rank : Tree → Nat
  | .binary operator _ _ => operator.level.rank
  | .complement _ | .minus _ => Level.signed.rank
  | .literal _ | .name _ | .subject | .enclosed _ | .call _ _ => Level.primary.rank

/-- Whether operations nest to the left: a right operand binds tighter than its operator, and a left
operand binds no looser, or tighter as well if the operator takes no further operand. -/
def LeftNested : Tree → Prop
  | .literal _ | .name _ | .subject => True
  | .enclosed inner => inner.LeftNested
  | .call _ argument => argument.LeftNested
  | .complement operand => operand.LeftNested
  | .minus operand => Level.signed.rank ≤ operand.rank ∧ operand.LeftNested
  | .binary operator left right =>
      operator.level.rank ≤ left.rank ∧
      (operator.level.loops = false → operator.level.rank < left.rank) ∧
      operator.level.rank < right.rank ∧ left.LeftNested ∧ right.LeftNested

end Tree

/-! ## Derivations -/

/-- What is derived: a phrase of a level, or what follows a phrase of a level, where further
operands may be joined to the tree on the left. -/
inductive Part where
  | phrase (level : Level)
  | more (level : Level) (left : Tree)

/-- The derivation of a tree from the tokens that stand before a rest. -/
inductive Derives : Part → Tree → List Token → List Token → Prop where
  /-- A first operand, and operators with further ones. -/
  | loop {level : Level} {first tree : Tree} {tokens middle rest : List Token} :
      level.loops = true →
      Derives (.phrase level.tighter) first tokens middle →
      Derives (.more level first) tree middle rest →
      Derives (.phrase level) tree tokens rest
  | stop {level : Level} {left : Tree} {rest : List Token} :
      Derives (.more level left) left rest rest
  | extend {level : Level} {left right tree : Tree} {operator : Operator} {token : Token}
      {tokens middle rest : List Token} :
      level.operator? token.lexeme = some operator →
      Derives (.phrase level.tighter) right tokens middle →
      Derives (.more level (.binary operator left right)) tree middle rest →
      Derives (.more level left) tree (token :: tokens) rest
  /-- A sum that is compared with nothing. -/
  | uncompared {tree : Tree} {tokens rest : List Token} :
      Derives (.phrase .sum) tree tokens rest →
      Derives (.phrase .comparison) tree tokens rest
  | compared {left right : Tree} {operator : Operator} {token : Token}
      {tokens middle rest : List Token} :
      Derives (.phrase .sum) left tokens (token :: middle) →
      Level.comparison.operator? token.lexeme = some operator →
      Derives (.phrase .sum) right middle rest →
      Derives (.phrase .comparison) (.binary operator left right) tokens rest
  | minus {operand : Tree} {sign : Token} {tokens rest : List Token} :
      sign.lexeme = .symbol .minus →
      Derives (.phrase .signed) operand tokens rest →
      Derives (.phrase .signed) (.minus operand) (sign :: tokens) rest
  | complement {operand : Tree} {word opening closing : Token} {tokens rest : List Token} :
      word.lexeme = .name "not" →
      opening.lexeme = .symbol .openParenthesis →
      Derives (.phrase .disjunction) operand tokens (closing :: rest) →
      closing.lexeme = .symbol .closeParenthesis →
      Derives (.phrase .signed) (.complement operand) (word :: opening :: tokens) rest
  /-- A phrase without a sign. -/
  | unsigned {tree : Tree} {tokens rest : List Token} :
      Derives (.phrase .primary) tree tokens rest →
      Derives (.phrase .signed) tree tokens rest
  | literal {value : Value} {token : Token} {rest : List Token} :
      literal? token.lexeme = some value →
      Derives (.phrase .primary) (.literal value) (token :: rest) rest
  /-- A name that is no constant and is not followed by an opening parenthesis. -/
  | name {word : String} {token : Token} {rest : List Token} :
      token.lexeme = .name word →
      Expression.constant? word = none →
      afterSymbol? .openParenthesis rest = none →
      Derives (.phrase .primary) (.name word) (token :: rest) rest
  | call {function : Function} {argument : Tree} {word : String} {token opening closing : Token}
      {tokens rest : List Token} :
      token.lexeme = .name word →
      Function.ofName? word = some function →
      opening.lexeme = .symbol .openParenthesis →
      Derives (.phrase .disjunction) argument tokens (closing :: rest) →
      closing.lexeme = .symbol .closeParenthesis →
      Derives (.phrase .primary) (.call function argument) (token :: opening :: tokens) rest
  | subject {token : Token} {rest : List Token} :
      token.lexeme = .symbol .subject →
      Derives (.phrase .primary) .subject (token :: rest) rest
  | enclosed {inner : Tree} {opening closing : Token} {tokens rest : List Token} :
      opening.lexeme = .symbol .openParenthesis →
      Derives (.phrase .disjunction) inner tokens (closing :: rest) →
      closing.lexeme = .symbol .closeParenthesis →
      Derives (.phrase .primary) (.enclosed inner) (opening :: tokens) rest

/-! ## Where phrases end -/

/-- Whether a phrase of a level may end before these tokens: no operator of the level or of a
tighter one stands at their front. -/
def Level.Ends (level : Level) (rest : List Token) : Prop :=
  ∀ token ∈ rest.head?, ∀ further : Level, level.rank ≤ further.rank →
    further.operator? token.lexeme = none

namespace Level

variable {level : Level} {token : Token} {rest : List Token}

theorem rank_le_tighter : level.rank ≤ level.tighter.rank := by
  cases level <;> decide

theorem rank_lt_tighter (loops : level.loops = true) : level.rank < level.tighter.rank := by
  cases level <;> first | decide | cases loops

theorem Ends.tighter (ends : level.Ends rest) : level.tighter.Ends rest := by
  intro token front further above
  exact ends token front further (Nat.le_trans rank_le_tighter above)

theorem Ends.no_operator {operator : Operator} (ends : level.Ends (token :: rest)) :
    level.operator? token.lexeme ≠ some operator := by
  rw [ends token rfl level (Nat.le_refl _)]
  intro shown
  cases shown

theorem ends_nil : level.Ends [] := by
  intro _ shown
  cases shown

/-- An operator ends the operands of its level. -/
theorem ends_of_operator {operator : Operator}
    (found : level.operator? token.lexeme = some operator) :
    level.tighter.Ends (token :: rest) := by
  intro _ shown further above
  cases shown
  generalize token.lexeme = lexeme at found ⊢
  unfold operator? at found
  split at found
  · split at found
    · rename_i disjunction
      subst disjunction
      cases further <;> first | rfl | exact absurd above (by decide)
    · cases found
  · cases further <;> first | rfl | exact absurd above (by decide)
  all_goals cases further <;> first | rfl | exact absurd above (by decide) | cases found

/-- A closing parenthesis ends every phrase. -/
theorem ends_closing (closing : token.lexeme = .symbol .closeParenthesis) :
    level.Ends (token :: rest) := by
  intro _ shown further _
  cases shown
  rw [closing]
  cases further <;> rfl

end Level

/-! ## One tree -/

theorem literal?_name {word : String} : literal? (.name word) = Expression.constant? word :=
  rfl

/-- The name of a function is no constant. -/
theorem constant?_of_function {word : String} {function : Function}
    (found : Function.ofName? word = some function) : Expression.constant? word = none := by
  unfold Function.ofName? at found
  split at found
  all_goals first | rfl | cases found

theorem afterSymbol?_front {symbol : Symbol} {token : Token} {rest : List Token}
    (front : token.lexeme = .symbol symbol) : afterSymbol? symbol (token :: rest) = some rest :=
  if_pos front

/-- The level whose operators may follow a part. -/
def Part.level : Part → Level
  | .phrase level => level
  | .more level _ => level

theorem Derives.ends_before {level : Level} {left tree : Tree} {tokens rest : List Token}
    (derives : Derives (.more level left) tree tokens rest) (ends : level.Ends rest) :
    level.tighter.Ends tokens := by
  cases derives with
  | stop => exact ends.tighter
  | extend found _ _ => exact Level.ends_of_operator found

/-- No primary expression starts with a sign. -/
theorem Derives.no_sign {tree : Tree} {token : Token} {tokens rest : List Token}
    (derives : Derives (.phrase .primary) tree (token :: tokens) rest) :
    token.lexeme ≠ .symbol .minus := by
  intro sign
  cases derives with
  | loop loops _ _ => cases loops
  | literal found => rw [sign] at found; cases found
  | name named _ _ => rw [sign] at named; cases named
  | call named _ _ _ _ => rw [sign] at named; cases named
  | subject marked => rw [sign] at marked; cases marked
  | enclosed opens _ _ => rw [sign] at opens; cases opens

/-- No primary expression starts with `not` and an opening parenthesis. -/
theorem Derives.no_complement {tree : Tree} {word opening : Token} {tokens rest : List Token}
    (derives : Derives (.phrase .primary) tree (word :: opening :: tokens) rest)
    (opens : opening.lexeme = .symbol .openParenthesis) : word.lexeme ≠ .name "not" := by
  intro complement
  cases derives with
  | loop loops _ _ => cases loops
  | literal found => rw [complement] at found; cases found
  | name _ _ separate => rw [afterSymbol?_front opens] at separate; cases separate
  | call named function _ _ _ =>
      rw [complement] at named
      cases named
      cases function
  | subject marked => rw [complement] at marked; cases marked
  | enclosed encloses _ _ => rw [complement] at encloses; cases encloses

/-- A phrase that ends where no operator could go on has one tree and one end. -/
theorem Derives.unique {part : Part} {tree other : Tree} {tokens rest remaining : List Token}
    (first : Derives part tree tokens rest) (ends : part.level.Ends rest)
    (second : Derives part other tokens remaining) (also : part.level.Ends remaining) :
    tree = other ∧ rest = remaining := by
  induction first generalizing other remaining with
  | loop loops operand further operandUnique furtherUnique =>
      cases second with
      | loop _ operand' further' =>
          obtain ⟨rfl, rfl⟩ := operandUnique (further.ends_before ends) operand'
            (further'.ends_before also)
          exact furtherUnique ends further' also
      | _ => cases loops
  | stop =>
      cases second with
      | stop => exact ⟨rfl, rfl⟩
      | extend found _ _ => exact absurd found ends.no_operator
  | extend found operand further operandUnique furtherUnique =>
      cases second with
      | stop => exact absurd found also.no_operator
      | extend found' operand' further' =>
          rw [found] at found'
          cases found'
          obtain ⟨rfl, rfl⟩ := operandUnique (further.ends_before ends) operand'
            (further'.ends_before also)
          exact furtherUnique ends further' also
  | uncompared sum sumUnique =>
      cases second with
      | loop loops _ _ => cases loops
      | uncompared sum' => exact sumUnique ends.tighter sum' also.tighter
      | compared left found _ =>
          obtain ⟨_, rfl⟩ := sumUnique ends.tighter left (Level.ends_of_operator found)
          exact absurd found ends.no_operator
  | compared left found right leftUnique rightUnique =>
      cases second with
      | loop loops _ _ => cases loops
      | uncompared sum =>
          obtain ⟨_, rfl⟩ := leftUnique (Level.ends_of_operator found) sum also.tighter
          exact absurd found also.no_operator
      | compared left' found' right' =>
          obtain ⟨rfl, equal⟩ := leftUnique (Level.ends_of_operator found) left'
            (Level.ends_of_operator found')
          cases equal
          rw [found] at found'
          cases found'
          obtain ⟨rfl, rfl⟩ := rightUnique ends.tighter right' also.tighter
          exact ⟨rfl, rfl⟩
  | minus sign operand operandUnique =>
      cases second with
      | loop loops _ _ => cases loops
      | minus _ operand' =>
          obtain ⟨rfl, rfl⟩ := operandUnique ends operand' also
          exact ⟨rfl, rfl⟩
      | complement word _ _ _ => rw [sign] at word; cases word
      | unsigned primary => exact absurd sign primary.no_sign
  | complement word opens operand closes operandUnique =>
      cases second with
      | loop loops _ _ => cases loops
      | minus sign _ => rw [word] at sign; cases sign
      | complement _ _ operand' closes' =>
          obtain ⟨rfl, equal⟩ := operandUnique (Level.ends_closing closes) operand'
            (Level.ends_closing closes')
          cases equal
          exact ⟨rfl, rfl⟩
      | unsigned primary => exact absurd word (primary.no_complement opens)
  | unsigned primary primaryUnique =>
      cases second with
      | loop loops _ _ => cases loops
      | minus sign _ => exact absurd sign primary.no_sign
      | complement word opens _ _ => exact absurd word (primary.no_complement opens)
      | unsigned primary' => exact primaryUnique ends.tighter primary' also.tighter
  | literal found =>
      cases second with
      | loop loops _ _ => cases loops
      | literal found' =>
          rw [found] at found'
          cases found'
          exact ⟨rfl, rfl⟩
      | name named fresh _ => rw [named, literal?_name, fresh] at found; cases found
      | call named function _ _ _ =>
          rw [named, literal?_name, constant?_of_function function] at found
          cases found
      | subject marked => rw [marked] at found; cases found
      | enclosed opens _ _ => rw [opens] at found; cases found
  | name named fresh separate =>
      cases second with
      | loop loops _ _ => cases loops
      | literal found => rw [named, literal?_name, fresh] at found; cases found
      | name named' _ _ =>
          rw [named] at named'
          cases named'
          exact ⟨rfl, rfl⟩
      | call _ _ opens _ _ => rw [afterSymbol?_front opens] at separate; cases separate
      | subject marked => rw [named] at marked; cases marked
      | enclosed opens _ _ => rw [named] at opens; cases opens
  | call named function opens argument closes argumentUnique =>
      cases second with
      | loop loops _ _ => cases loops
      | literal found =>
          rw [named, literal?_name, constant?_of_function function] at found
          cases found
      | name _ _ separate => rw [afterSymbol?_front opens] at separate; cases separate
      | call named' function' _ argument' closes' =>
          rw [named] at named'
          cases named'
          rw [function] at function'
          cases function'
          obtain ⟨rfl, equal⟩ := argumentUnique (Level.ends_closing closes) argument'
            (Level.ends_closing closes')
          cases equal
          exact ⟨rfl, rfl⟩
      | subject marked => rw [named] at marked; cases marked
      | enclosed encloses _ _ => rw [named] at encloses; cases encloses
  | subject marked =>
      cases second with
      | loop loops _ _ => cases loops
      | literal found => rw [marked] at found; cases found
      | name named _ _ => rw [marked] at named; cases named
      | call named _ _ _ _ => rw [marked] at named; cases named
      | subject _ => exact ⟨rfl, rfl⟩
      | enclosed opens _ _ => rw [marked] at opens; cases opens
  | enclosed opens inner closes innerUnique =>
      cases second with
      | loop loops _ _ => cases loops
      | literal found => rw [opens] at found; cases found
      | name named _ _ => rw [opens] at named; cases named
      | call named _ _ _ _ => rw [opens] at named; cases named
      | subject marked => rw [opens] at marked; cases marked
      | enclosed _ inner' closes' =>
          obtain ⟨rfl, equal⟩ := innerUnique (Level.ends_closing closes) inner'
            (Level.ends_closing closes')
          cases equal
          exact ⟨rfl, rfl⟩

/-! ## Nesting -/

/-- What a derived tree shows of the part it is derived from: its root binds no looser than the
level of the part, and its operations nest to the left. Of further operands this holds if it holds
of the tree on their left. -/
def Part.Shapes : Part → Tree → Prop
  | .phrase level, tree => level.rank ≤ tree.rank ∧ tree.LeftNested
  | .more level left, tree =>
      level.loops = true → level.rank ≤ left.rank → left.LeftNested →
        level.rank ≤ tree.rank ∧ tree.LeftNested

theorem Derives.shapes {part : Part} {tree : Tree} {tokens rest : List Token}
    (derives : Derives part tree tokens rest) : part.Shapes tree := by
  induction derives with
  | loop loops _ _ operand further =>
      exact further loops (Nat.le_trans Level.rank_le_tighter operand.1) operand.2
  | stop =>
      intro _ above nested
      exact ⟨above, nested⟩
  | @extend level left _ _ operator _ _ _ _ found _ _ operand further =>
      intro loops above nested
      have stands : operator.level = level := Level.operator?_level found
      apply further loops
      · exact Nat.le_of_eq (congrArg Level.rank stands).symm
      · refine ⟨?_, ?_, ?_, nested, operand.2⟩
        · rw [stands]
          exact above
        · rw [stands, loops]
          intro shown
          cases shown
        · rw [stands]
          exact Nat.lt_of_lt_of_le (Level.rank_lt_tighter loops) operand.1
  | uncompared _ sum => exact ⟨Nat.le_trans (by decide) sum.1, sum.2⟩
  | compared _ found _ left right =>
      have stands := Level.operator?_level found
      refine ⟨Nat.le_of_eq (congrArg Level.rank stands).symm, ?_, ?_, ?_, left.2, right.2⟩
      · rw [stands]
        exact Nat.le_trans (by decide) left.1
      · intro _
        rw [stands]
        exact Nat.lt_of_lt_of_le (by decide) left.1
      · rw [stands]
        exact Nat.lt_of_lt_of_le (by decide) right.1
  | minus _ _ operand => exact ⟨Nat.le_refl _, operand⟩
  | complement _ _ _ _ operand => exact ⟨Nat.le_refl _, operand.2⟩
  | unsigned _ primary => exact ⟨Nat.le_trans (by decide) primary.1, primary.2⟩
  | literal _ => exact ⟨Nat.le_refl _, trivial⟩
  | name _ _ _ => exact ⟨Nat.le_refl _, trivial⟩
  | call _ _ _ _ _ argument => exact ⟨Nat.le_refl _, argument.2⟩
  | subject _ => exact ⟨Nat.le_refl _, trivial⟩
  | enclosed _ _ _ inner => exact ⟨Nat.le_refl _, inner.2⟩

/-! ## Folding signs -/

/-- Folding a sign into a literal is its negation in every environment. -/
theorem evaluate_negated (environment : Environment) (operand : Expression) :
    operand.negated.evaluate environment = (Expression.negate operand).evaluate environment := by
  unfold Expression.negated
  split
  all_goals rfl

theorem evaluate_join (environment : Environment) {operator : Operator}
    {left left' right right' : Expression}
    (sameLeft : left.evaluate environment = left'.evaluate environment)
    (sameRight : right.evaluate environment = right'.evaluate environment) :
    (operator.join left right).evaluate environment =
      (operator.join left' right').evaluate environment := by
  cases operator <;> simp only [Operator.join, Expression.evaluate, sameLeft, sameRight]

/-- Folding signs changes the value of a tree in no environment. -/
theorem Tree.evaluate_folded (environment : Environment) (tree : Tree) :
    tree.folded.evaluate environment = tree.plain.evaluate environment := by
  induction tree with
  | literal | name | subject => rfl
  | enclosed inner same => exact same
  | call function argument same => simp only [folded, plain, Expression.evaluate, same]
  | complement operand same => simp only [folded, plain, Expression.evaluate, same]
  | minus operand same =>
      rw [folded, evaluate_negated]
      simp only [plain, Expression.evaluate, same]
  | binary operator left right sameLeft sameRight =>
      exact evaluate_join environment sameLeft sameRight

end Grammar

end DecisionTables
