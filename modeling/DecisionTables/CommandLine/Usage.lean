import DecisionTables.CommandLine.Shape
import DecisionTables.Json.Reader
import DecisionTables.Text.Quoted
import DecisionTables.Text.Split

/-!
# Errors of usage

A command line that does not fit its command. The report shows how the command is called, unless what
is wrong is whether an option has a value.
-/

namespace DecisionTables.CommandLine

/-- A problem of the value of an option or argument. -/
inductive ValueProblem where
  | noFile (path : String)
  | directory (path : String)
  | unknownChoice (value : String) (choices : List String)
  | noAssignment (value : String)
  | badJson (path : String) (error : Json.Error)
  | noObject (path : String)

def ValueProblem.message : ValueProblem → String
  | .noFile path => "File " ++ Text.quoted path ++ " does not exist."
  | .directory path => "File " ++ Text.quoted path ++ " is a directory."
  | .unknownChoice value choices =>
      Text.quoted value ++ " is not one of " ++ Text.joinWith ", " (choices.map Text.quoted) ++ "."
  | .noAssignment value => "expected NAME=VALUE, got '" ++ value ++ "'"
  | .badJson path error => "invalid JSON in " ++ path ++ ": " ++ error.message
  | .noObject path => path ++ " must contain a JSON object"

/-- A problem of a command line. -/
inductive UsageProblem where
  | unknownOption (name : String) (similar : List String)
  | unknownCommand (name : String) (similar : List String)
  | missingValue (option : String)
  | unexpectedValue (option : String)
  | missingArgument (name : String)
  | missingCommand
  | extraArguments (arguments : List String)
  | badValue (place : String) (problem : ValueProblem)

namespace UsageProblem

/-- What a reader may have meant. -/
def suggestion : List String → String
  | [] => ""
  | [word] => " Did you mean " ++ Text.quoted word ++ "?"
  | words => " (Did you mean one of: " ++ Text.joinWith ", " (words.map Text.quoted) ++ "?)"

def message : UsageProblem → String
  | .unknownOption name similar =>
      "No such option " ++ Text.quoted name ++ "." ++ suggestion similar
  | .unknownCommand name similar =>
      "No such command " ++ Text.quoted name ++ "." ++ suggestion similar
  | .missingValue option => "Option " ++ Text.quoted option ++ " requires an argument."
  | .unexpectedValue option => "Option " ++ Text.quoted option ++ " does not take a value."
  | .missingArgument name => "Missing argument '" ++ name ++ "'."
  | .missingCommand => "Missing command."
  | .extraArguments arguments =>
      "Got unexpected extra argument" ++ (if arguments.length = 1 then "" else "s") ++ " (" ++
        Text.joinWith " " arguments ++ ")"
  | .badValue place problem => "Invalid value for " ++ place ++ ": " ++ problem.message

/-- Whether the report of a problem shows how the command is called. -/
def showsUsage : UsageProblem → Bool
  | .missingValue _ => false
  | .unexpectedValue _ => false
  | _ => true

/-- The report of a problem of the line of a command. -/
def report (shape : Shape) (problem : UsageProblem) : String :=
  let call :=
    if problem.showsUsage then
      shape.usage ++ "\nTry '" ++ shape.name ++ " --help' for help.\n\n"
    else ""
  call ++ "Error: " ++ problem.message ++ "\n"

end UsageProblem

end DecisionTables.CommandLine
