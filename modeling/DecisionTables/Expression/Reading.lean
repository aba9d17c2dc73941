import DecisionTables.Expression.SyntaxError

/-!
# Reading from a list of tokens

A reader takes tokens from the front of a list. It either accepts a value and leaves a strictly
shorter rest, or rejects at a token. Readers of nested parts are only ever applied to lists below a
bound, which is what makes the recursion of a grammar end.
-/

namespace DecisionTables

/-! ## Lengths of rests -/

theorem rest_lt (rest : List Token) : rest.length < rest.length + 1 :=
  Nat.lt_succ_self rest.length

theorem rest_le (rest : List Token) : rest.length ≤ rest.length + 1 :=
  Nat.le_succ rest.length

theorem rest_le_of_lt {rest tokens : List Token} (shorter : rest.length < tokens.length) :
    rest.length ≤ tokens.length :=
  Nat.le_of_lt shorter

theorem rest_le_succ_of_lt {rest tokens : List Token} (shorter : rest.length < tokens.length) :
    rest.length ≤ tokens.length + 1 :=
  Nat.le_succ_of_le (Nat.le_of_lt shorter)

theorem rest_le_bound {rest tokens : List Token} {bound : Nat}
    (shorter : rest.length < tokens.length) (within : tokens.length ≤ bound) :
    rest.length ≤ bound :=
  Nat.le_trans (Nat.le_of_lt shorter) within

/-! ## Readings -/

/-- The outcome of reading from a list of tokens that is shorter than `bound`. -/
inductive Reading (α : Type) (bound : Nat) where
  | accepted (value : α) (rest : List Token) (shorter : rest.length < bound)
  | rejected (rejection : Rejection)

namespace Reading

variable {α β : Type} {bound : Nat}

/-- The same outcome under a larger bound. -/
def widen {larger : Nat} (smaller : bound ≤ larger) : Reading α bound → Reading α larger
  | .accepted value rest shorter => .accepted value rest (Nat.lt_of_lt_of_le shorter smaller)
  | .rejected rejection => .rejected rejection

def map (image : α → β) : Reading α bound → Reading β bound
  | .accepted value rest shorter => .accepted (image value) rest shorter
  | .rejected rejection => .rejected rejection

/-- Go on reading after an accepted value. -/
def andThen (first : Reading α bound)
    (next : α → (rest : List Token) → rest.length < bound → Reading β bound) : Reading β bound :=
  match first with
  | .accepted value rest shorter => next value rest shorter
  | .rejected rejection => .rejected rejection

/-- The value of a reading that leaves no token. -/
def complete : Reading α bound → Except Rejection α
  | .accepted value [] _ => .ok value
  | .accepted _ (token :: _) _ => .error ⟨.trailingInput, some token⟩
  | .rejected rejection => .error rejection

end Reading

/-- A reader of lists of at most `bound` tokens. -/
abbrev Reader (α : Type) (bound : Nat) :=
  (tokens : List Token) → tokens.length ≤ bound → Reading α tokens.length

/-- Reject where an expected symbol does not stand. -/
def rejectAt {α : Type} {bound : Nat} (cause : SyntaxCause) (tokens : List Token) :
    Reading α bound :=
  .rejected ⟨cause, tokens.head?⟩

/-- The tokens after a symbol at the front. -/
def afterSymbol? (symbol : Symbol) : List Token → Option (List Token)
  | [] => none
  | token :: rest => if token.lexeme = .symbol symbol then some rest else none

theorem afterSymbol?_length {symbol : Symbol} {tokens rest : List Token}
    (found : afterSymbol? symbol tokens = some rest) : rest.length < tokens.length := by
  cases tokens with
  | nil => simp [afterSymbol?] at found
  | cons token tail =>
      simp only [afterSymbol?] at found
      split at found
      · cases found; simp
      · cases found

/-- Read a symbol after an accepted value. -/
def Reading.closedBy {α : Type} {bound : Nat} (symbol : Symbol) (reading : Reading α bound) :
    Reading α bound :=
  reading.andThen fun value rest shorter =>
    match found : afterSymbol? symbol rest with
    | some tail => .accepted value tail (Nat.lt_trans (afterSymbol?_length found) shorter)
    | none => rejectAt (.expectedSymbol symbol) rest

/-- Extend a left operand by operators and operands for as long as an operator stands at the front.
Operations of one level group to the left. -/
def readChain {α : Type} {bound : Nat} (operand : Reader α bound)
    (operator? : Token → Option (α → α → α)) (left : α) :
    (tokens : List Token) → tokens.length ≤ bound → Reading α (tokens.length + 1)
  | [], _ => .accepted left [] (rest_lt [])
  | token :: rest, within =>
      match operator? token with
      | none => .accepted left (token :: rest) (rest_lt (token :: rest))
      | some operation =>
          match operand rest (Nat.le_of_succ_le within) with
          | .rejected rejection => .rejected rejection
          | .accepted right tail shorter =>
              (readChain operand operator? (operation left right) tail
                (Nat.le_trans (Nat.le_of_lt shorter) (Nat.le_of_succ_le within))).widen
                (by simp only [List.length_cons]; omega)
termination_by tokens => tokens.length
decreasing_by simp only [List.length_cons]; omega

/-- Read operands separated by the operators of one level. -/
def readLevel {α : Type} {bound : Nat} (operand : Reader α bound)
    (operator? : Token → Option (α → α → α)) : Reader α bound :=
  fun tokens within =>
    (operand tokens within).andThen fun left rest shorter =>
      (readChain operand operator? left rest (rest_le_bound shorter within)).widen shorter

end DecisionTables
