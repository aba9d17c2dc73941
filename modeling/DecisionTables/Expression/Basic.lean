import DecisionTables.Text.Split
import DecisionTables.Value.Basic

/-!
# Expressions

The abstract form of the expressions in the cells of a table. A name is a path: the variable it
starts from and the members that are followed from there. The subject is the value of the column an
input entry belongs to.
-/

namespace DecisionTables

/-- A variable and the members followed from its value. -/
structure Path where
  head : String
  members : List String
  deriving DecidableEq

namespace Path

/-- The path of a name in which points separate the steps. -/
def ofName (name : String) : Path :=
  match Text.splitOn '.' name with
  | [] => ⟨name, []⟩
  | head :: members => ⟨head, members⟩

def text (path : Path) : String :=
  Text.joinWith "." (path.head :: path.members)

end Path

/-- The comparisons of the language. -/
inductive Comparison where
  | equal
  | notEqual
  | relation (relation : Relation)
  deriving DecidableEq

/-- The functions of the language. -/
inductive Function where
  | date | string | number
  deriving DecidableEq

def Function.ofName? : String → Option Function
  | "date" => some .date
  | "string" => some .string
  | "number" => some .number
  | _ => none

/-- An expression. -/
inductive Expression where
  | literal (value : Value)
  | subject
  | name (path : Path)
  | negate (operand : Expression)
  | complement (operand : Expression)
  | arithmetic (operation : Arithmetic) (left right : Expression)
  | compare (comparison : Comparison) (left right : Expression)
  | conjunction (left right : Expression)
  | disjunction (left right : Expression)
  | call (function : Function) (argument : Expression)

namespace Expression

def usesSubject : Expression → Bool
  | .literal _ => false
  | .subject => true
  | .name _ => false
  | .negate operand => operand.usesSubject
  | .complement operand => operand.usesSubject
  | .arithmetic _ left right => left.usesSubject || right.usesSubject
  | .compare _ left right => left.usesSubject || right.usesSubject
  | .conjunction left right => left.usesSubject || right.usesSubject
  | .disjunction left right => left.usesSubject || right.usesSubject
  | .call _ argument => argument.usesSubject

/-- The negation of an expression. That of a numeric literal is a literal again, except for a decimal
number, which no literal is. -/
def negated : Expression → Expression
  | .literal (.number (.integer value)) => .literal (.number (.integer (-value)))
  | .literal (.number (.double value)) => .literal (.number (.double value.negate))
  | operand => .negate operand

end Expression

end DecisionTables
