import DecisionTables.CommandLine.Usage
import DecisionTables.Text.Similar

/-!
# Arguments

The words after the name of a command are options, values of options and arguments. A value stands
behind a sign of equality or in the next word; options of one letter may share a dash, and the rest of
their word is the value of the first that takes one. Two dashes end the options.
-/

namespace DecisionTables.CommandLine

/-- An option that is given, with its value if it takes one. -/
structure GivenOption where
  purpose : Purpose
  value : Option String

/-- The options and arguments of a command. -/
structure Arguments where
  options : List GivenOption
  words : List String

/-- The options that one word gives, and one, with its name, whose value is the next word. -/
structure Word where
  options : List GivenOption
  awaiting : Option (Purpose × String)

namespace Word

/-- The option that a word with two dashes gives. -/
def ofLong (shape : Shape) (word : String) : Except UsageProblem Word :=
  let (name, rest) := word.toList.span (· != '=')
  let name := String.ofList name
  match shape.long? name, rest with
  | none, _ =>
      .error (.unknownOption name (Text.closest name (shape.options.map OptionShape.long)))
  | some option, [] =>
      if option.takesValue then .ok ⟨[], some (option.purpose, name)⟩
      else .ok ⟨[⟨option.purpose, none⟩], none⟩
  | some option, _ :: value =>
      if option.takesValue then .ok ⟨[⟨option.purpose, some (String.ofList value)⟩], none⟩
      else .error (.unexpectedValue name)

/-- The options that letters give. -/
def ofLetters (shape : Shape) : List Char → Except UsageProblem Word
  | [] => .ok ⟨[], none⟩
  | letter :: rest =>
      let name := String.ofList ['-', letter]
      match shape.short? letter with
      | none => .error (.unknownOption name [])
      | some option =>
          if option.takesValue then
            if rest.isEmpty then .ok ⟨[], some (option.purpose, name)⟩
            else .ok ⟨[⟨option.purpose, some (String.ofList rest)⟩], none⟩
          else do
            let word ← ofLetters shape rest
            return ⟨⟨option.purpose, none⟩ :: word.options, word.awaiting⟩

/-- The options that a word gives, unless it is an argument. -/
def read? (shape : Shape) (word : String) : Option (Except UsageProblem Word) :=
  match word.toList with
  | '-' :: '-' :: _ => some (ofLong shape word)
  | ['-'] => none
  | '-' :: letters => some (ofLetters shape letters)
  | _ => none

end Word

namespace Arguments

def withOptions (options : List GivenOption) (arguments : Arguments) : Arguments :=
  { arguments with options := options ++ arguments.options }

/-- The options and arguments that words are. -/
def read (shape : Shape) : List String → Except UsageProblem Arguments
  | [] => .ok ⟨[], []⟩
  | "--" :: rest => .ok ⟨[], rest⟩
  | word :: rest =>
      match Word.read? shape word with
      | none =>
          if shape.mixed then do
            let arguments ← read shape rest
            return { arguments with words := word :: arguments.words }
          else .ok ⟨[], word :: rest⟩
      | some (.error problem) => .error problem
      | some (.ok ⟨options, none⟩) => do return (← read shape rest).withOptions options
      | some (.ok ⟨options, some (purpose, name)⟩) =>
          match rest with
          | [] => .error (.missingValue name)
          | value :: rest => do
              return (← read shape rest).withOptions (options ++ [⟨purpose, some value⟩])

def gives (arguments : Arguments) (purpose : Purpose) : Bool :=
  arguments.options.any fun option => option.purpose = purpose

def values (arguments : Arguments) (purpose : Purpose) : List String :=
  arguments.options.filterMap fun option =>
    if option.purpose = purpose then option.value else none

/-- The value of an option, of several the last one. -/
def value? (arguments : Arguments) (purpose : Purpose) : Option String :=
  (arguments.values purpose).getLast?

/-- The options that are given, each once, in the order in which they come first. -/
def purposes (arguments : Arguments) : List Purpose :=
  (arguments.options.map GivenOption.purpose).eraseDups

end Arguments

end DecisionTables.CommandLine
