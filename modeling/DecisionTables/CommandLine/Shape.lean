/-!
# Shapes of commands

What a command takes on its line: which options it knows, whether they may stand behind arguments, and
the page that describes it.
-/

namespace DecisionTables.CommandLine

/-- What an option is for. -/
inductive Purpose where
  /-- Describe the command. -/
  | help
  /-- Tell the version of the program. -/
  | version
  /-- Name the file of the settings. -/
  | settings
  /-- Choose how much is reported. -/
  | logLevel
  /-- Name the decision. -/
  | decision
  /-- Bind one variable. -/
  | assignment
  /-- Name a file of variables. -/
  | context
  deriving DecidableEq

/-- An option: two dashes and a word, or one dash and a letter. -/
structure OptionShape where
  purpose : Purpose
  long : String
  short : Option Char
  takesValue : Bool

/-- A command of the program. -/
structure Shape where
  /-- The words that call the command. -/
  name : String
  /-- What may follow them. -/
  operands : String
  options : List OptionShape
  /-- Whether options may stand behind arguments. -/
  mixed : Bool
  /-- The description of the command below its usage. -/
  description : List String

namespace Shape

/-- The line that shows how a command is called. -/
def usage (shape : Shape) : String := "Usage: " ++ shape.name ++ " " ++ shape.operands

def page (shape : Shape) : String :=
  String.join ((shape.usage :: "" :: shape.description).map fun line => line ++ "\n")

/-- The option of a long name. -/
def long? (shape : Shape) (name : String) : Option OptionShape :=
  shape.options.find? fun option => option.long == name

/-- The option of a letter. -/
def short? (shape : Shape) (letter : Char) : Option OptionShape :=
  shape.options.find? fun option => option.short == some letter

end Shape

def helpOption : OptionShape := ⟨.help, "--help", some 'h', false⟩

def programShape : Shape where
  name := "dmn-engine"
  operands := "[OPTIONS] [COMMAND] [ARGS]..."
  options := [
    ⟨.version, "--version", some 'v', false⟩, ⟨.settings, "--config", none, true⟩,
    ⟨.logLevel, "--log-level", none, true⟩, helpOption]
  mixed := false
  description := [
    "  dmn-engine: evaluate DMN decision tables.",
    "",
    "Options:",
    "  -v, --version                   Show version",
    "  --config FILE                   Path to engine config file (default: OS config",
    "                                  location)",
    "  --log-level [debug|info|warning]",
    "                                  Override the configured log level",
    "  -h, --help                      Show this message and exit.",
    "",
    "Commands:",
    "  config     Configuration commands.",
    "  decisions  List the decisions declared by MODEL.",
    "  evaluate   Evaluate a decision of MODEL and print the result as JSON.",
    "  validate   Validate the decisions of MODEL.",
    "",
    "Quick Start:",
    "  dmn-engine decisions dish.dmn                 See what a model declares",
    "  dmn-engine evaluate dish.dmn \\",
    "    --decision dish \\",
    "    --var season='\"Winter\"' --var guests=4      Evaluate with inputs",
    "",
    "Variables (--var NAME=VALUE):",
    "  Values are read as JSON when possible (4, true, \"text\", [1, 2]),",
    "  otherwise as plain strings."]

def evaluateShape : Shape where
  name := "dmn-engine evaluate"
  operands := "[OPTIONS] MODEL"
  options := [
    ⟨.decision, "--decision", some 'd', true⟩, ⟨.assignment, "--var", none, true⟩,
    ⟨.context, "--context", some 'c', true⟩, helpOption]
  mixed := true
  description := [
    "  Evaluate a decision of MODEL and print the result as JSON.",
    "",
    "  Exit codes:     0: Decision evaluated (the result may be empty)     1: Model,",
    "  decision or evaluation error",
    "",
    "Options:",
    "  -d, --decision TEXT  Decision id (default: the model's only decision)",
    "  --var NAME=VALUE     Input variable (repeatable)",
    "  -c, --context FILE   JSON file with input variables (--var overrides)",
    "  -h, --help           Show this message and exit."]

def decisionsShape : Shape where
  name := "dmn-engine decisions"
  operands := "[OPTIONS] MODEL"
  options := [helpOption]
  mixed := true
  description := [
    "  List the decisions declared by MODEL.",
    "",
    "  Prints one line per decision: id, logic variant and name.",
    "",
    "Options:",
    "  -h, --help  Show this message and exit."]

def validateShape : Shape where
  name := "dmn-engine validate"
  operands := "[OPTIONS] MODEL"
  options := [helpOption]
  mixed := true
  description := [
    "  Validate the decisions of MODEL.",
    "",
    "  Checks that the model: - Is well-formed DMN XML with unique decision ids -",
    "  Declares at least one decision - Uses supported decision logic (decision",
    "  tables) - Has well-formed tables (hit policy, rule arity, cell syntax)",
    "",
    "  Exit codes:     0: All decisions compile     1: Model invalid or at least one",
    "  decision failed",
    "",
    "Options:",
    "  -h, --help  Show this message and exit."]

/-- The command for settings, which has commands of its own. -/
def configShape : Shape where
  name := "dmn-engine config"
  operands := "[OPTIONS] COMMAND [ARGS]..."
  options := [helpOption]
  mixed := false
  description := [
    "  Configuration commands.",
    "",
    "Options:",
    "  -h, --help  Show this message and exit.",
    "",
    "Commands:",
    "  path  Show config file path.",
    "  show  Display the effective configuration as JSON."]

def showShape : Shape where
  name := "dmn-engine config show"
  operands := "[OPTIONS]"
  options := [helpOption]
  mixed := true
  description := [
    "  Display the effective configuration as JSON.",
    "",
    "  Shows defaults for any setting not present in the config file.",
    "",
    "Options:",
    "  -h, --help  Show this message and exit."]

def pathShape : Shape where
  name := "dmn-engine config path"
  operands := "[OPTIONS]"
  options := [helpOption]
  mixed := true
  description := [
    "  Show config file path.",
    "",
    "  Displays the OS-appropriate config file location.",
    "",
    "Options:",
    "  -h, --help  Show this message and exit."]

end DecisionTables.CommandLine
