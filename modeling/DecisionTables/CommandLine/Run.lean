import DecisionTables.CommandLine.Arguments
import DecisionTables.CommandLine.Report
import DecisionTables.Engine.Basic
import DecisionTables.Engine.SettingsFile
import DecisionTables.Text.Digit

/-!
# Running a command line

The program is a function from the words on its command line and the files that it finds to a report.
Options count before arguments: help comes first of all, then the values of options are checked in the
order in which the options are given, then the arguments.
-/

namespace DecisionTables.CommandLine

def versionText : String := "dmn-engine 0.1.0\n"

/-- The path of the settings that count if no others are named. -/
def defaultSettingsPath : String := "user_config.json"

/-! ## Options and arguments of any command -/

/-- Check that a path is that of a file, and give the content. -/
def fileAt (files : Files) (path : String) : Except ValueProblem Bytes :=
  match files path with
  | some (.file content) => .ok content
  | some .directory => .error (.directory path)
  | none => .error (.noFile path)

/-- The levels by the names that they have on a command line. -/
def levelNames : List String := ["debug", "info", "warning"]

def checkOption (files : Files) (purpose : Purpose) (value : String) : Except UsageProblem Unit :=
  match purpose with
  | .settings =>
      match fileAt files value with
      | .ok _ => .ok ()
      | .error problem => .error (.badValue "'--config'" problem)
  | .context =>
      match fileAt files value with
      | .ok _ => .ok ()
      | .error problem => .error (.badValue "'--context' / '-c'" problem)
  | .logLevel =>
      if levelNames.contains value.toLower then .ok ()
      else .error (.badValue "'--log-level'" (.unknownChoice value levelNames))
  | _ => .ok ()

def checkOptions (files : Files) (arguments : Arguments) : List Purpose → Except UsageProblem Unit
  | [] => .ok ()
  | purpose :: rest => do
      match arguments.value? purpose with
      | some value => checkOption files purpose value
      | none => .ok ()
      checkOptions files arguments rest

/-- The options and arguments of a command, unless it has to describe itself. -/
def readArguments (files : Files) (shape : Shape) (words : List String) : Step Arguments :=
  match Arguments.read shape words with
  | .error problem => .error (.misuse shape problem)
  | .ok arguments =>
      if arguments.gives .help then .error (.success shape.page)
      else
        match checkOptions files arguments arguments.purposes with
        | .error problem => .error (.misuse shape problem)
        | .ok () => .ok arguments

/-- A command that takes no arguments takes none. -/
def noArguments (shape : Shape) : List String → Step Unit
  | [] => .ok ()
  | extra => .error (.misuse shape (.extraArguments extra))

/-- The path and the content of the model that is the only argument of a command. -/
def modelArgument (files : Files) (shape : Shape) : List String → Step (String × Bytes)
  | [] => .error (.misuse shape (.missingArgument "MODEL"))
  | path :: extra =>
      match fileAt files path with
      | .error problem => .error (.misuse shape (.badValue "'MODEL'" problem))
      | .ok content => do
          noArguments shape extra
          return (Path.normal path, content)

/-- The command that a word names, one of several by name. A word that names none may be an option,
which then counts first. -/
def subcommand {α : Type} (files : Files) (shape : Shape) (commands : List (String × α))
    (words : List String) (name : String) : Step α :=
  match commands.lookup name with
  | some command => .ok command
  | none => do
      match name.toList with
      | [] => pure ()
      | first :: _ =>
          if Text.isAlphanumeric first then pure ()
          else let _ ← readArguments files shape words
      .error (.misuse shape (.unknownCommand name (Text.closest name (commands.map Prod.fst))))

/-! ## Evaluation -/

/-- The variables that a file of JSON binds. -/
def contextOf (files : Files) (path : String) : Step Bindings :=
  let shown := Path.normal path
  match fileAt files path with
  | .error problem => .error (.misuse evaluateShape (.badValue "--context" problem))
  | .ok content =>
      match Json.parseFile content with
      | .ok (.map bindings) => .ok bindings
      | .ok _ => .error (.misuse evaluateShape (.badValue "--context" (.noObject shown)))
      | .error (.invalid error) =>
          .error (.misuse evaluateShape (.badValue "--context" (.badJson shown error)))
      | .error (.fault fault) => .error (.broken fault)

/-- The name and the value that an assignment binds. A value that is not JSON is a text. -/
def assignment (text : String) : Step (String × Value) :=
  let (name, rest) := text.toList.span (· != '=')
  let name := String.ofList (Text.trimmed name)
  match name.isEmpty, rest with
  | false, _ :: value =>
      let value := String.ofList value
      match Json.parse value with
      | .ok parsed => .ok (name, parsed)
      | .error (.invalid _) => .ok (name, .text value)
      | .error (.fault fault) => .error (.broken fault)
  | _, _ => .error (.misuse evaluateShape (.badValue "--var" (.noAssignment text)))

/-- Variables with those that assignments bind. -/
def assignAll : Bindings → List String → Step Bindings
  | bindings, [] => .ok bindings
  | bindings, text :: rest => do
      let (name, value) ← assignment text
      assignAll (bindings.bind name value) rest

def resultReport (result : ResultSet) : Report :=
  match Json.render (.list (result.toMaps.map Value.map)) with
  | .ok text => .success (text ++ "\n")
  | .error fault => .broken fault

def errorReport (error : RunError) : Report :=
  match error.fault? with
  | some fault => .broken fault
  | none => .failure error.message

/-- Evaluate a decision of a model. The values that variables are given here have no attributes beside
their components. -/
def evaluate (files : Files) (settings : Settings) (words : List String) : Step Report := do
  let arguments ← readArguments files evaluateShape words
  let (path, content) ← modelArgument files evaluateShape arguments.words
  let bindings ← match arguments.value? .context with
    | some file => contextOf files file
    | none => pure []
  let bindings ← assignAll bindings (arguments.values .assignment)
  let engine := Engine.ofSettings settings
  let source := ModelSource.file path (some content)
  match (engine.evaluate source (arguments.value? .decision) (.ofBindings bindings)).1 with
  | .ok result => return resultReport result
  | .error error => return errorReport error

/-! ## Models -/

/-- The model that the only argument of a command names. -/
def readModel (files : Files) (shape : Shape) (words : List String) : Step Model := do
  let arguments ← readArguments files shape words
  let (path, content) ← modelArgument files shape arguments.words
  match Model.ofSource (.file path (some content)) with
  | .ok model => return model
  | .error error => .error (errorReport (.preparation (.model error)))

def decisionLine (definition : DecisionDefinition) : String :=
  let name :=
    match definition.name with
    | some name => if name.isEmpty then "" else "  " ++ name
    | none => ""
  definition.id ++ "  [" ++ definition.variant.name ++ "]" ++ name ++ "\n"

def decisions (files : Files) (words : List String) : Step Report := do
  let model ← readModel files decisionsShape words
  if model.decisions.isEmpty then
    return .success ("No decisions declared in " ++ model.label ++ "\n")
  else return .success (String.join (model.decisions.map decisionLine))

def compiledLine (table : CompiledTable) (id : String) : String :=
  let count := table.rules.length
  "✓ " ++ id ++ ": " ++ table.hitPolicy.name ++ ", " ++ toString count ++ " rule" ++
    (if count = 1 then "" else "s") ++ "\n"

/-- The report on decisions of which `failures` before them do not compile, of `total` in all. -/
def validateAll (options : CompilerOptions) (total : Nat) :
    (failures : Nat) → List DecisionDefinition → Report
  | 0, [] => .success ""
  | failures, [] =>
      ⟨"", toString failures ++ " of " ++ toString total ++ " decision(s) invalid\n", .status 1⟩
  | failures, definition :: rest =>
      match definition.compile options with
      | .ok table =>
          (validateAll options total failures rest).after (compiledLine table definition.id) ""
      | .error (.fault fault) => .broken fault
      | .error error =>
          (validateAll options total (failures + 1) rest).after ""
            ("✗ " ++ definition.id ++ ": " ++ error.message ++ "\n")

def validate (files : Files) (settings : Settings) (words : List String) : Step Report := do
  let model ← readModel files validateShape words
  if model.decisions.isEmpty then
    return .failure (SelectionError.message (.notFound model.label none))
  else
    return validateAll settings.compilerOptions model.decisions.length 0 model.decisions

/-! ## Settings -/

def showSettings (files : Files) (settings : Settings) (words : List String) : Step Report := do
  let arguments ← readArguments files showShape words
  noArguments showShape arguments.words
  match settings.fileText with
  | .ok text => return .success text
  | .error fault => return .broken fault

def showPath (files : Files) (words : List String) : Step Report := do
  let arguments ← readArguments files pathShape words
  noArguments pathShape arguments.words
  let absent :=
    if (files defaultSettingsPath).isSome then "" else "(file does not exist - defaults are used)\n"
  return ⟨defaultSettingsPath ++ "\n", absent, .status 0⟩

/-- What can be done with settings. -/
inductive ConfigCommand where
  | list
  | path
  deriving DecidableEq

def configCommands : List (String × ConfigCommand) := [("path", .path), ("show", .list)]

def config (files : Files) (settings : Settings) (words : List String) : Step Report := do
  if words.isEmpty then return ⟨"", configShape.page, .status 2⟩
  let arguments ← readArguments files configShape words
  match arguments.words with
  | [] => return .misuse configShape .missingCommand
  | name :: rest =>
      match ← subcommand files configShape configCommands arguments.words name with
      | .list => showSettings files settings rest
      | .path => showPath files rest

/-! ## The program -/

/-- What the program can do. -/
inductive Command where
  | config
  | decisions
  | evaluate
  | validate
  deriving DecidableEq

def commands : List (String × Command) :=
  [("config", .config), ("decisions", .decisions), ("evaluate", .evaluate), ("validate", .validate)]

/-- The settings of a run: those of a file that is named, or of the default one if it is there, or the
default ones. -/
def settingsOf (files : Files) (path : Option String) : Step Settings :=
  let path :=
    match path with
    | some path => some path
    | none => if (files defaultSettingsPath).isSome then some defaultSettingsPath else none
  match path with
  | none => .ok .default
  | some path =>
      match Settings.load files path with
      | .ok settings => .ok settings
      | .error (.fault fault) => .error (.broken fault)
      | .error error => .error (.failure error.message)

/-- The command that a command line names, if it names one, and the words that are left for it. -/
def chosen (files : Files) (arguments : Arguments) : Step (Option (Command × List String)) :=
  match arguments.words with
  | [] => return none
  | name :: rest => do
      return some (← subcommand files programShape commands arguments.words name, rest)

/-- A run of the program, step by step. -/
def steps (files : Files) (words : List String) : Step Report := do
  let arguments ← readArguments files programShape words
  let command ← chosen files arguments
  if arguments.gives .version then return .success versionText
  let settings ← settingsOf files (arguments.value? .settings)
  match command with
  | none => return .success programShape.page
  | some (.config, rest) => config files settings rest
  | some (.decisions, rest) => decisions files rest
  | some (.evaluate, rest) => evaluate files settings rest
  | some (.validate, rest) => validate files settings rest

def run (files : Files) (words : List String) : Report :=
  Step.report (steps files words)

end DecisionTables.CommandLine
