import DecisionTables.Engine.Settings
import DecisionTables.Files
import DecisionTables.Json.Printer
import DecisionTables.Json.Reader

/-!
# Settings files

Settings are kept in a file as a JSON object. A file need not give all of them.
-/

namespace DecisionTables

/-- Why no settings are read from a file. -/
inductive SettingsFileError where
  | missing (path : String)
  | directory (path : String)
  | unreadable (path : String) (error : Json.Error)
  | notObject (path : String)
  | invalid (path : String) (errors : List SettingError)
  | fault (fault : Fault)

namespace SettingsFileError

/-- What to do about a file from which no settings are read. -/
def advice : String := "\n\nFix the file or delete it to use the defaults."

/-- The text of an error. A fault has none. -/
def message : SettingsFileError → String
  | .missing path => "Configuration file not found at " ++ path ++ "."
  | .directory path =>
      "Could not read config file " ++ path ++ ": [Errno 21] Is a directory: " ++
        Text.quoted path ++ advice
  | .unreadable path error =>
      "Invalid JSON in config file " ++ path ++ ": " ++ error.message ++ advice
  | .notObject path =>
      "Invalid config configuration in " ++ path ++
        ":\n  - : Input should be a valid dictionary or instance of EngineConfig" ++ advice
  | .invalid path errors =>
      "Invalid config configuration in " ++ path ++ ":\n" ++
        Text.joinWith "\n" (errors.map fun error =>
          "  - " ++ error.setting ++ ": " ++ error.problem.message) ++ advice
  | .fault _ => ""

end SettingsFileError

namespace Settings

/-- The settings that the file at a path holds. -/
def load (files : Files) (path : String) : Except SettingsFileError Settings :=
  let path := Path.normal path
  match files path with
  | none => .error (.missing path)
  | some .directory => .error (.directory path)
  | some (.file content) =>
      match Json.parseFile content with
      | .error (.invalid error) => .error (.unreadable path error)
      | .error (.fault fault) => .error (.fault fault)
      | .ok (.map fields) =>
          match ofFields fields with
          | .ok settings => .ok settings
          | .error errors => .error (.invalid path errors)
      | .ok _ => .error (.notObject path)

def json (settings : Settings) : Except Fault String :=
  Json.render (.map settings.fields)

def fileText (settings : Settings) : Except Fault String :=
  settings.json.map fun text => text ++ "\n"

end Settings

end DecisionTables
