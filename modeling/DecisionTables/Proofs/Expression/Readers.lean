import DecisionTables.Proofs.Expression.Accepting
import DecisionTables.Proofs.Expression.Grammar

/-!
# The readers of the levels of the grammar

Each level of the grammar has a reader. The levels with a loop are read alike; for the others this
module says what their readers accept by what stands at the front.
-/

namespace DecisionTables

namespace Grammar

open Expression

/-! ## Readers of levels -/

def Level.reader {bound : Nat} (nested : Reader Expression bound) :
    Level → Reader Expression (bound + 1)
  | .disjunction => readDisjunction nested
  | .conjunction => readConjunction nested
  | .comparison => readComparison nested
  | .sum => readSum nested
  | .product => readProduct nested
  | .signed => readSigned nested
  | .primary => readPrimary nested

/-- The operation that a token stands for between the operands of a level. -/
def Level.operation? (level : Level) (token : Token) :
    Option (Expression → Expression → Expression) :=
  (level.operator? token.lexeme).map Operator.join

theorem disjunctionOperator?_eq : disjunctionOperator? = Level.disjunction.operation? := by
  funext token
  rcases token with ⟨lexeme, position⟩
  simp only [disjunctionOperator?, Level.operation?]
  cases lexeme with
  | name word =>
      by_cases same : word = "or"
      · subst same; rfl
      · simp [Level.operator?, same]
  | _ => rfl

theorem conjunctionOperator?_eq : conjunctionOperator? = Level.conjunction.operation? := by
  funext token
  rcases token with ⟨lexeme, position⟩
  simp only [conjunctionOperator?, Level.operation?]
  cases lexeme with
  | name word =>
      by_cases same : word = "and"
      · subst same; rfl
      · simp [Level.operator?, same]
  | _ => rfl

theorem sumOperator?_eq : sumOperator? = Level.sum.operation? := by
  funext token
  rcases token with ⟨_ | _ | _ | _ | symbol, position⟩
  case symbol => cases symbol <;> rfl
  all_goals rfl

theorem productOperator?_eq : productOperator? = Level.product.operation? := by
  funext token
  rcases token with ⟨_ | _ | _ | _ | symbol, position⟩
  case symbol => cases symbol <;> rfl
  all_goals rfl

theorem comparison?_eq (token : Token) :
    (comparison? token).map Operator.compare = Level.comparison.operator? token.lexeme := by
  rcases token with ⟨_ | _ | _ | _ | symbol, position⟩
  case symbol => cases symbol <;> rfl
  all_goals rfl

/-- A level with a loop is read as its operands with its operations between them. -/
theorem Level.reader_loop {bound : Nat} {nested : Reader Expression bound} {level : Level}
    (loops : level.loops = true) :
    level.reader nested = readLevel (level.tighter.reader nested) level.operation? := by
  cases level with
  | disjunction => rw [← disjunctionOperator?_eq]; rfl
  | conjunction => rw [← conjunctionOperator?_eq]; rfl
  | sum => rw [← sumOperator?_eq]; rfl
  | product => rw [← productOperator?_eq]; rfl
  | comparison | signed | primary => cases loops

/-- What holds of a level if it holds of the tighter one holds of all levels. -/
theorem Level.ofTighter {motive : Level → Prop} (primary : motive .primary)
    (signed : motive .primary → motive .signed)
    (comparison : motive .sum → motive .comparison)
    (loop : ∀ level : Level, level.loops = true → motive level.tighter → motive level)
    (level : Level) : motive level := by
  have signed := signed primary
  have product := loop .product rfl signed
  have sum := loop .sum rfl product
  have comparison := comparison sum
  have conjunction := loop .conjunction rfl comparison
  have disjunction := loop .disjunction rfl conjunction
  cases level <;> assumption

/-! ## What the readers without a loop accept -/

section Accepts

variable {bound : Nat} {nested : Reader Expression bound} {expression : Expression}
  {tokens rest : List Token}

theorem accepts_readEnclosed {within : tokens.length ≤ bound} :
    (readEnclosed nested tokens within).Accepts expression rest ↔
      ∃ closing, (nested tokens within).Accepts expression (closing :: rest) ∧
        closing.lexeme = .symbol .closeParenthesis :=
  Reading.accepts_closedBy

theorem readNamed_path {token : Token} {word : String} {within : tokens.length ≤ bound}
    (separate : afterSymbol? .openParenthesis tokens = none) :
    readNamed nested token word tokens within =
      .accepted (.name (Path.ofName word)) tokens (rest_lt tokens) := by
  unfold readNamed
  split
  · rfl
  · rename_i found
    rw [separate] at found
    cases found

theorem accepts_readNamed_path {token : Token} {word : String} {within : tokens.length ≤ bound}
    (separate : afterSymbol? .openParenthesis tokens = none) :
    (readNamed nested token word tokens within).Accepts expression rest ↔
      .name (Path.ofName word) = expression ∧ tokens = rest := by
  rw [readNamed_path separate]
  exact Reading.accepts_accepted

theorem readNamed_call {token opening : Token} {word : String}
    {within : (opening :: tokens).length ≤ bound}
    (opens : opening.lexeme = .symbol .openParenthesis) :
    readNamed nested token word (opening :: tokens) within =
      match Function.ofName? word with
      | none => .rejected ⟨.unknownFunction word, some token⟩
      | some function =>
          ((readEnclosed nested tokens (Nat.le_of_succ_le within)).map (.call function)).widen
            (Nat.le_succ_of_le (Nat.le_succ _)) := by
  unfold readNamed
  split
  · rename_i separate
    rw [afterSymbol?_front opens] at separate
    cases separate
  · rename_i inner found
    rw [afterSymbol?_front opens] at found
    cases found
    rfl

theorem accepts_readNamed_call {token opening : Token} {word : String}
    {within : (opening :: tokens).length ≤ bound}
    (opens : opening.lexeme = .symbol .openParenthesis) :
    (readNamed nested token word (opening :: tokens) within).Accepts expression rest ↔
      ∃ function argument, ∃ inside : tokens.length ≤ bound, Function.ofName? word = some function ∧
        (readEnclosed nested tokens inside).Accepts argument rest ∧
        .call function argument = expression := by
  rw [readNamed_call opens]
  split
  · rename_i unknown
    simp [unknown]
  · rename_i function known
    simp only [Reading.accepts_widen, Reading.accepts_map, known]
    constructor
    · intro shown
      rcases shown with ⟨argument, accepts, rfl⟩
      exact ⟨function, argument, Nat.le_of_succ_le within, rfl, accepts, rfl⟩
    · intro shown
      rcases shown with ⟨_, argument, _, ⟨⟩, accepts, rfl⟩
      exact ⟨argument, accepts, rfl⟩

theorem accepts_readPrimary_literal {token : Token} {value : Value}
    {within : (token :: tokens).length ≤ bound + 1} (found : literal? token.lexeme = some value) :
    (Level.primary.reader nested (token :: tokens) within).Accepts expression rest ↔
      .literal value = expression ∧ tokens = rest := by
  rcases token with ⟨lexeme, position⟩
  cases lexeme with
  | integer | double | text =>
      cases found
      exact Reading.accepts_accepted
  | name word =>
      have constant : constant? word = some value := found
      simp only [Level.reader, readPrimary, constant, Reading.accepts_accepted]
  | symbol => cases found

theorem accepts_readPrimary_name {token : Token} {word : String}
    {within : (token :: tokens).length ≤ bound + 1} (named : token.lexeme = .name word)
    (fresh : constant? word = none) :
    (Level.primary.reader nested (token :: tokens) within).Accepts expression rest ↔
      (readNamed nested token word tokens (Nat.le_of_succ_le_succ within)).Accepts
        expression rest := by
  rcases token with ⟨lexeme, position⟩
  cases named
  simp only [Level.reader, readPrimary, fresh]

theorem accepts_readPrimary_subject {token : Token}
    {within : (token :: tokens).length ≤ bound + 1} (marked : token.lexeme = .symbol .subject) :
    (Level.primary.reader nested (token :: tokens) within).Accepts expression rest ↔
      .subject = expression ∧ tokens = rest := by
  rcases token with ⟨lexeme, position⟩
  cases marked
  exact Reading.accepts_accepted

theorem accepts_readPrimary_enclosed {token : Token}
    {within : (token :: tokens).length ≤ bound + 1}
    (opens : token.lexeme = .symbol .openParenthesis) :
    (Level.primary.reader nested (token :: tokens) within).Accepts expression rest ↔
      (readEnclosed nested tokens (Nat.le_of_succ_le_succ within)).Accepts expression rest := by
  rcases token with ⟨lexeme, position⟩
  cases opens
  simp only [Level.reader, readPrimary, Reading.accepts_widen]

/-- A primary expression starts with a literal, a name, the subject or an opening parenthesis. -/
theorem readPrimary_front {within : tokens.length ≤ bound + 1}
    (accepts : (Level.primary.reader nested tokens within).Accepts expression rest) :
    ∃ token tail, tokens = token :: tail ∧
      ((∃ value, literal? token.lexeme = some value) ∨
        (∃ word, token.lexeme = .name word ∧ constant? word = none) ∨
        token.lexeme = .symbol .subject ∨ token.lexeme = .symbol .openParenthesis) := by
  cases tokens with
  | nil => exact absurd accepts Reading.not_accepts_rejectAt
  | cons token tail =>
      refine ⟨token, tail, rfl, ?_⟩
      rcases token with ⟨lexeme, position⟩
      cases lexeme with
      | integer | double | text => exact .inl ⟨_, rfl⟩
      | name word =>
          cases found : constant? word with
          | some value => exact .inl ⟨value, found⟩
          | none => exact .inr (.inl ⟨word, rfl, found⟩)
      | symbol symbol =>
          cases symbol with
          | subject => exact .inr (.inr (.inl rfl))
          | openParenthesis => exact .inr (.inr (.inr rfl))
          | _ => exact absurd accepts Reading.not_accepts_rejectAt

theorem accepts_readSigned_minus {sign : Token} {within : (sign :: tokens).length ≤ bound + 1}
    (minus : sign.lexeme = .symbol .minus) :
    (Level.signed.reader nested (sign :: tokens) within).Accepts expression rest ↔
      ∃ operand,
        (Level.signed.reader nested tokens (Nat.le_of_succ_le within)).Accepts operand rest ∧
        operand.negated = expression := by
  rw [Level.reader, readSigned]
  simp only [minus, if_true, Reading.accepts_widen, Reading.accepts_map]

theorem readSigned_complement {word opening : Token}
    {within : (word :: opening :: tokens).length ≤ bound + 1}
    (complement : word.lexeme = .name "not")
    (opens : opening.lexeme = .symbol .openParenthesis) :
    readSigned nested (word :: opening :: tokens) within =
      ((readEnclosed nested tokens (Nat.le_of_succ_le (Nat.le_of_succ_le_succ within))).map
        .complement).widen (Nat.le_succ_of_le (Nat.le_succ _)) := by
  rw [readSigned, if_neg (by rw [complement]; rintro ⟨⟩), if_pos complement]
  split
  · rename_i inner found
    rw [afterSymbol?_front opens] at found
    cases found
    rfl
  · rename_i missing
    rw [afterSymbol?_front opens] at missing
    cases missing

theorem accepts_readSigned_complement {word opening : Token}
    {within : (word :: opening :: tokens).length ≤ bound + 1}
    (complement : word.lexeme = .name "not")
    (opens : opening.lexeme = .symbol .openParenthesis) :
    (Level.signed.reader nested (word :: opening :: tokens) within).Accepts expression rest ↔
      ∃ operand, ∃ inside : tokens.length ≤ bound,
        (readEnclosed nested tokens inside).Accepts operand rest ∧
        .complement operand = expression := by
  rw [Level.reader, readSigned_complement complement opens]
  simp only [Reading.accepts_widen, Reading.accepts_map]
  constructor
  · intro shown
    rcases shown with ⟨operand, accepts⟩
    exact ⟨operand, _, accepts⟩
  · intro shown
    rcases shown with ⟨operand, _, accepts⟩
    exact ⟨operand, accepts⟩

/-- Whether a list of tokens begins neither with a sign nor with `not` and a parenthesis. -/
def Unsigned : List Token → Prop
  | [] => True
  | token :: rest =>
      token.lexeme ≠ .symbol .minus ∧
        (token.lexeme = .name "not" → afterSymbol? .openParenthesis rest = none)

theorem readSigned_unsigned {within : tokens.length ≤ bound + 1} (unsigned : Unsigned tokens) :
    Level.signed.reader nested tokens within = Level.primary.reader nested tokens within := by
  cases tokens with
  | nil => rfl
  | cons token tail =>
      rw [Level.reader, readSigned, if_neg unsigned.1]
      split
      · rename_i complement
        split
        · rename_i found
          rw [unsigned.2 complement] at found
          cases found
        · rfl
      · rfl

/-- The comparison at the front of a list of tokens, and the tokens after it. -/
def compared? : List Token → Option (Comparison × List Token)
  | [] => none
  | token :: rest => (comparison? token).map fun comparison => (comparison, rest)

theorem accepts_readComparison {within : tokens.length ≤ bound + 1} :
    (readComparison nested tokens within).Accepts expression rest ↔
      ∃ left middle, (readSum nested tokens within).Accepts left middle ∧
        ((compared? middle = none ∧ left = expression ∧ middle = rest) ∨
          ∃ comparison tail right, ∃ inside : tail.length ≤ bound + 1,
            compared? middle = some (comparison, tail) ∧
            (readSum nested tail inside).Accepts right rest ∧
            .compare comparison left right = expression) := by
  simp only [readComparison, Reading.accepts_andThen]
  constructor
  · intro shown
    rcases shown with ⟨left, middle, shorter, first, accepts⟩
    refine ⟨left, middle, first, ?_⟩
    cases middle with
    | nil => exact .inl ⟨rfl, Reading.accepts_accepted.mp accepts⟩
    | cons token tail =>
        simp only at accepts
        split at accepts
        · rename_i missing
          exact .inl ⟨by simp [compared?, missing], Reading.accepts_accepted.mp accepts⟩
        · rename_i comparison found
          simp only [Reading.accepts_widen, Reading.accepts_map] at accepts
          rcases accepts with ⟨right, accepts, rfl⟩
          exact .inr ⟨comparison, tail, right, _, by simp [compared?, found], accepts, rfl⟩
  · intro shown
    rcases shown with ⟨left, middle, first, ends⟩
    refine ⟨left, middle, first.shorter, first, ?_⟩
    cases middle with
    | nil =>
        rcases ends with ⟨_, rfl, rfl⟩ | ⟨_, _, _, _, ⟨⟩, _⟩
        exact Reading.accepts_accepted.mpr ⟨rfl, rfl⟩
    | cons token tail =>
        simp only
        split
        · rename_i missing
          rcases ends with ⟨_, rfl, rfl⟩ | ⟨_, _, _, _, found, _⟩
          · exact Reading.accepts_accepted.mpr ⟨rfl, rfl⟩
          · simp [compared?, missing] at found
        · rename_i comparison found
          rcases ends with ⟨missing, _⟩ | ⟨_, _, right, inside, found', accepts, rfl⟩
          · simp [compared?, found] at missing
          · simp only [compared?, found, Option.map_some, Option.some.injEq,
              Prod.mk.injEq] at found'
            obtain ⟨rfl, rfl⟩ := found'
            simp only [Reading.accepts_widen, Reading.accepts_map]
            exact ⟨right, accepts, rfl⟩

end Accepts

end Grammar

end DecisionTables
