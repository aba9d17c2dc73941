import DecisionTables.Proofs.Expression.Parsing

/-!
# How phrases begin

Every phrase begins with a signed one, whatever its level, and that tells what may stand at its
front: a sign needs something after it, a parenthesis encloses an expression, and an expression
begins with a sum that an operator of a looser level or nothing follows. A phrase that begins with
`not (` and is a negation as a whole ends where that parenthesis is closed.
-/

namespace DecisionTables

def Lexeme.beginsPhrase : Lexeme → Bool
  | .integer _ | .double _ | .text _ | .name _ => true
  | .symbol .minus | .symbol .subject | .symbol .openParenthesis => true
  | .symbol _ => false

namespace Grammar

open Expression

variable {level : Level} {tree : Tree} {token : Token} {tokens rest : List Token}

/-! ## The first signed phrase -/

/-- What a derivation shows of the front of its tokens: a phrase begins with a signed one. -/
def Part.Begins : Part → List Token → Prop
  | .phrase _, tokens => ∃ first middle, Derives (.phrase .signed) first tokens middle
  | .more _ _, _ => True

theorem Derives.begins {part : Part} (derives : Derives part tree tokens rest) :
    part.Begins tokens := by
  induction derives with
  | loop _ _ _ operand _ => exact operand
  | stop | extend => trivial
  | uncompared _ sum => exact sum
  | compared _ _ _ left _ => exact left
  | minus sign operand _ => exact ⟨_, _, .minus sign operand⟩
  | complement word opens operand closes _ => exact ⟨_, _, .complement word opens operand closes⟩
  | unsigned primary _ => exact ⟨_, _, .unsigned primary⟩
  | literal found => exact ⟨_, _, .unsigned (.literal found)⟩
  | name named fresh separate => exact ⟨_, _, .unsigned (.name named fresh separate)⟩
  | call named function opens argument closes _ =>
      exact ⟨_, _, .unsigned (.call named function opens argument closes)⟩
  | subject marked => exact ⟨_, _, .unsigned (.subject marked)⟩
  | enclosed opens inner closes _ => exact ⟨_, _, .unsigned (.enclosed opens inner closes)⟩

theorem Derives.primary_front (derives : Derives (.phrase .primary) tree tokens rest) :
    ∃ token tail, tokens = token :: tail ∧ token.lexeme.beginsPhrase = true := by
  cases derives with
  | loop loops _ _ => cases loops
  | @literal _ token _ found =>
      refine ⟨_, _, rfl, ?_⟩
      cases lexeme : token.lexeme with
      | symbol => rw [lexeme] at found; cases found
      | integer | double | text | name => rfl
  | name named _ _ => exact ⟨_, _, rfl, by rw [named]; rfl⟩
  | call named _ _ _ _ => exact ⟨_, _, rfl, by rw [named]; rfl⟩
  | subject marked => exact ⟨_, _, rfl, by rw [marked]; rfl⟩
  | enclosed opens _ _ => exact ⟨_, _, rfl, by rw [opens]; rfl⟩

/-- A phrase takes up a token that a phrase may begin with. -/
theorem Derives.front (derives : Derives (.phrase level) tree tokens rest) :
    ∃ token tail, tokens = token :: tail ∧ token.lexeme.beginsPhrase = true := by
  obtain ⟨first, middle, signed⟩ := derives.begins
  cases signed with
  | loop loops _ _ => cases loops
  | minus sign _ => exact ⟨_, _, rfl, by rw [sign]; rfl⟩
  | complement word _ _ _ => exact ⟨_, _, rfl, by rw [word]; rfl⟩
  | unsigned primary => exact primary.primary_front

/-- A sign does not stand alone. -/
theorem Derives.after_sign (derives : Derives (.phrase level) tree (token :: tokens) rest)
    (sign : token.lexeme = .symbol .minus) : tokens ≠ [] := by
  obtain ⟨first, middle, signed⟩ := derives.begins
  cases signed with
  | loop loops _ _ => cases loops
  | minus _ operand =>
      obtain ⟨_, _, rfl, _⟩ := operand.front
      exact List.cons_ne_nil _ _
  | complement word _ _ _ => rw [sign] at word; cases word
  | unsigned primary => exact absurd sign primary.no_sign

/-- A parenthesis at the front of a phrase encloses an expression. -/
theorem Derives.after_opening (derives : Derives (.phrase level) tree (token :: tokens) rest)
    (opens : token.lexeme = .symbol .openParenthesis) :
    ∃ inner closing tail, Derives (.phrase .disjunction) inner tokens (closing :: tail) ∧
      closing.lexeme = .symbol .closeParenthesis := by
  obtain ⟨first, middle, signed⟩ := derives.begins
  cases signed with
  | loop loops _ _ => cases loops
  | minus sign _ => rw [opens] at sign; cases sign
  | complement word _ _ _ => rw [opens] at word; cases word
  | unsigned primary =>
      cases primary with
      | loop loops _ _ => cases loops
      | literal found => rw [opens] at found; cases found
      | name named _ _ => rw [opens] at named; cases named
      | call named _ _ _ _ => rw [opens] at named; cases named
      | subject marked => rw [opens] at marked; cases marked
      | enclosed _ inner closes => exact ⟨_, _, _, inner, closes⟩

/-! ## The first sum -/

theorem not_range_of_operator {operator : Operator}
    (found : level.operator? token.lexeme = some operator) :
    afterSymbol? .range (token :: rest) = none := by
  refine if_neg fun range => ?_
  rw [range] at found
  cases level <;> cases found

/-- Before further operands there stands no range symbol unless there stands one after them. -/
theorem Derives.not_range {left : Tree} (derives : Derives (.more level left) tree tokens rest)
    (separate : afterSymbol? .range rest = none) : afterSymbol? .range tokens = none := by
  cases derives with
  | stop => exact separate
  | extend found _ _ => exact not_range_of_operator found

/-- An expression begins with a sum that ends before a looser operator or with the expression, so
that no range symbol follows the sum unless one follows the expression. -/
theorem Derives.first_sum (derives : Derives (.phrase .disjunction) tree tokens rest)
    (ends : Level.disjunction.Ends rest) (separate : afterSymbol? .range rest = none) :
    ∃ sum middle, Derives (.phrase .sum) sum tokens middle ∧ Level.sum.Ends middle ∧
      afterSymbol? .range middle = none := by
  cases derives with
  | loop _ conjunction disjunctions =>
      have conjunctionEnds := disjunctions.ends_before ends
      have separate := disjunctions.not_range separate
      cases conjunction with
      | loop _ comparison conjunctions =>
          have comparisonEnds := conjunctions.ends_before conjunctionEnds
          have separate := conjunctions.not_range separate
          cases comparison with
          | loop loops _ _ => cases loops
          | uncompared sum => exact ⟨_, _, sum, comparisonEnds.tighter, separate⟩
          | compared sum found _ =>
              exact ⟨_, _, sum, Level.ends_of_operator found, not_range_of_operator found⟩

/-! ## Negations -/

theorem Operator.join_ne_complement {operator : Operator} {left right operand : Expression} :
    operator.join left right ≠ .complement operand := by
  cases operator <;> exact nofun

/-- What a derivation of a negation shows if its tokens begin with `not (`: the operand is derived
from what is enclosed, and nothing of the phrase follows. Further operands would make the whole no
negation. -/
def Part.Negates : Part → Tree → List Token → List Token → Prop
  | .phrase _, tree, tokens, rest =>
      ∀ {operand : Expression} {word opening : Token} {inner : List Token},
        tree.folded = .complement operand → tokens = word :: opening :: inner →
          word.lexeme = .name "not" → opening.lexeme = .symbol .openParenthesis →
            ∃ operandTree closing, Derives (.phrase .disjunction) operandTree inner
              (closing :: rest) ∧ closing.lexeme = .symbol .closeParenthesis ∧
                operandTree.folded = operand
  | .more _ left, tree, tokens, rest =>
      ∀ {operand : Expression}, tree.folded = .complement operand → tree = left ∧ tokens = rest

theorem Derives.negates {part : Part} (derives : Derives part tree tokens rest) :
    part.Negates tree tokens rest := by
  induction derives with
  | loop _ _ _ operand further =>
      intro _ _ _ _ folds
      obtain ⟨rfl, rfl⟩ := further folds
      exact operand folds
  | stop =>
      intro _ _
      exact ⟨rfl, rfl⟩
  | extend _ _ _ _ further =>
      intro _ folds
      obtain ⟨rfl, _⟩ := further folds
      exact absurd folds Operator.join_ne_complement
  | uncompared _ sum => exact sum
  | compared => intro _ _ _ _ folds; exact absurd folds Operator.join_ne_complement
  | minus sign =>
      intro _ _ _ _ _ front word
      cases front
      rw [sign] at word
      cases word
  | complement _ _ operand closes =>
      intro _ _ _ _ folds front _ _
      cases front
      cases folds
      exact ⟨_, _, operand, closes, rfl⟩
  | unsigned _ primary => exact primary
  | literal | name | subject | call => intro _ _ _ _ folds; cases folds
  | enclosed opens =>
      intro _ _ _ _ _ front word
      cases front
      rw [opens] at word
      cases word

/-! ## Reading from the front -/

theorem Derives.accepts_read (derives : Derives (.phrase .disjunction) tree tokens rest)
    (ends : Level.disjunction.Ends rest) : (read tokens).Accepts tree.folded rest := by
  obtain ⟨token, tail, rfl, _⟩ := derives.front
  exact derives.reads ends tail.length (Nat.le_refl _)

theorem Derives.accepts_readOperand (derives : Derives (.phrase .sum) tree tokens rest)
    (ends : Level.sum.Ends rest) : (readOperand tokens).Accepts tree.folded rest := by
  obtain ⟨token, tail, rfl, _⟩ := derives.front
  exact derives.reads ends tail.length (Nat.le_refl _)

end Grammar

end DecisionTables
