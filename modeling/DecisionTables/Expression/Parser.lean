import DecisionTables.Expression.Basic
import DecisionTables.Expression.Lexer
import DecisionTables.Expression.Reading

/-!
# Reading expressions

The levels of the grammar from the loosest to the tightest: `or`, `and`, one comparison, sums,
products, signs and `not`, and primary expressions. A level that has an operator groups its operands
to the left, a comparison takes at most one operator. A primary expression may hold an expression of
the loosest level again, always after an opening parenthesis.
-/

namespace DecisionTables

namespace Expression

/-- The loosest operator. -/
def disjunctionOperator? (token : Token) : Option (Expression → Expression → Expression) :=
  if token.lexeme = .name "or" then some .disjunction else none

/-- The operator between comparisons. -/
def conjunctionOperator? (token : Token) : Option (Expression → Expression → Expression) :=
  if token.lexeme = .name "and" then some .conjunction else none

def comparison? (token : Token) : Option Comparison :=
  match token.lexeme with
  | .symbol .less => some (.relation .less)
  | .symbol .atMost => some (.relation .atMost)
  | .symbol .greater => some (.relation .greater)
  | .symbol .atLeast => some (.relation .atLeast)
  | .symbol .equal => some .equal
  | .symbol .notEqual => some .notEqual
  | _ => none

/-- The operators between products. -/
def sumOperator? (token : Token) : Option (Expression → Expression → Expression) :=
  match token.lexeme with
  | .symbol .plus => some (.arithmetic .add)
  | .symbol .minus => some (.arithmetic .sub)
  | _ => none

/-- The operators between signed expressions. -/
def productOperator? (token : Token) : Option (Expression → Expression → Expression) :=
  match token.lexeme with
  | .symbol .times => some (.arithmetic .mul)
  | .symbol .over => some (.arithmetic .div)
  | _ => none

def constant? : String → Option Value
  | "true" => some (.boolean true)
  | "false" => some (.boolean false)
  | "null" => some .null
  | _ => none

/-- An expression within parentheses of which the opening one has been read. -/
def readEnclosed {bound : Nat} (nested : Reader Expression bound) : Reader Expression bound :=
  fun tokens within => (nested tokens within).closedBy .closeParenthesis

/-- What a name that is no constant stands for: a call if a parenthesis follows, else a path. -/
def readNamed {bound : Nat} (nested : Reader Expression bound) (token : Token) (word : String)
    (tokens : List Token) (within : tokens.length ≤ bound) :
    Reading Expression (tokens.length + 1) :=
  match found : afterSymbol? .openParenthesis tokens with
  | none => .accepted (.name (Path.ofName word)) tokens (rest_lt tokens)
  | some inner =>
      match Function.ofName? word with
      | none => .rejected ⟨.unknownFunction word, some token⟩
      | some function =>
          have shorter := afterSymbol?_length found
          ((readEnclosed nested inner (rest_le_bound shorter within)).map
            (.call function)).widen (rest_le_succ_of_lt shorter)

/-- A primary expression. The nested reader serves what stands within parentheses. -/
def readPrimary {bound : Nat} (nested : Reader Expression bound) : Reader Expression (bound + 1)
  | [], _ => rejectAt .expectedValue []
  | token :: rest, within =>
      have inside : rest.length ≤ bound := Nat.le_of_succ_le_succ within
      match token.lexeme with
      | .integer value =>
          .accepted (.literal (.number (.integer value))) rest (rest_lt rest)
      | .double value => .accepted (.literal (.number (.double value))) rest (rest_lt rest)
      | .text value => .accepted (.literal (.text value)) rest (rest_lt rest)
      | .name word =>
          match constant? word with
          | some value => .accepted (.literal value) rest (rest_lt rest)
          | none => readNamed nested token word rest inside
      | .symbol .subject => .accepted .subject rest (rest_lt rest)
      | .symbol .openParenthesis =>
          (readEnclosed nested rest inside).widen (rest_le rest)
      | _ => rejectAt .expectedValue (token :: rest)

/-- An expression with signs before it, a negation of the form `not (…)`, or a primary
expression. -/
def readSigned {bound : Nat} (nested : Reader Expression bound) : Reader Expression (bound + 1)
  | [], within => readPrimary nested [] within
  | token :: rest, within =>
      have inside : rest.length ≤ bound := Nat.le_of_succ_le_succ within
      if token.lexeme = .symbol .minus then
        ((readSigned nested rest (Nat.le_succ_of_le inside)).map negated).widen (rest_le rest)
      else if token.lexeme = .name "not" then
        match found : afterSymbol? .openParenthesis rest with
        | some inner =>
            have shorter := afterSymbol?_length found
            ((readEnclosed nested inner (rest_le_bound shorter inside)).map
              .complement).widen (rest_le_succ_of_lt shorter)
        | none => readPrimary nested (token :: rest) within
      else readPrimary nested (token :: rest) within

def readProduct {bound : Nat} (nested : Reader Expression bound) : Reader Expression (bound + 1) :=
  readLevel (readSigned nested) productOperator?

def readSum {bound : Nat} (nested : Reader Expression bound) : Reader Expression (bound + 1) :=
  readLevel (readProduct nested) sumOperator?

/-- A sum, or the comparison of two. -/
def readComparison {bound : Nat} (nested : Reader Expression bound) :
    Reader Expression (bound + 1) :=
  fun tokens within =>
    (readSum nested tokens within).andThen fun left rest shorter =>
      match rest, shorter with
      | [], shorter => .accepted left [] shorter
      | token :: tail, shorter =>
          match comparison? token with
          | none => .accepted left (token :: tail) shorter
          | some comparison =>
              have inside : tail.length < tokens.length := Nat.lt_of_succ_lt shorter
              ((readSum nested tail (rest_le_bound inside within)).map
                (.compare comparison left)).widen (rest_le_of_lt inside)

def readConjunction {bound : Nat} (nested : Reader Expression bound) :
    Reader Expression (bound + 1) :=
  readLevel (readComparison nested) conjunctionOperator?

/-- A disjunction of conjunctions, the loosest level. -/
def readDisjunction {bound : Nat} (nested : Reader Expression bound) :
    Reader Expression (bound + 1) :=
  readLevel (readConjunction nested) disjunctionOperator?

/-- An expression from lists of at most `bound` tokens. -/
def reader : (bound : Nat) → Reader Expression bound
  | 0 => fun tokens _ => rejectAt .expectedValue tokens
  | bound + 1 => readDisjunction (reader bound)

/-- A sum from lists of at most `bound` tokens. -/
def sumReader : (bound : Nat) → Reader Expression bound
  | 0 => fun tokens _ => rejectAt .expectedValue tokens
  | bound + 1 => readSum (reader bound)

def read (tokens : List Token) : Reading Expression tokens.length :=
  reader tokens.length tokens (Nat.le_refl _)

def readOperand (tokens : List Token) : Reading Expression tokens.length :=
  sumReader tokens.length tokens (Nat.le_refl _)

/-- The expression that a text denotes. A text of blanks denotes null. -/
def parse (text : String) : Except ReadError Expression :=
  if Text.isBlankText text then .ok (.literal .null)
  else
    match tokenize text with
    | .error error => .error error
    | .ok tokens =>
        match (read tokens).complete with
        | .ok expression => .ok expression
        | .error rejection => .error (.invalid (.ofRejection text rejection))

end Expression

end DecisionTables
