import DecisionTables.HitPolicy
import DecisionTables.Text.Split
import DecisionTables.Value.Basic

/-!
# Settings

How an engine is set up. Settings are given by name; those that are not given have their defaults and
unknown names are passed over. Values are taken leniently: booleans and integers may be written as
texts or as other numbers of the same value. All settings with a problem are reported together.
-/

namespace DecisionTables

/-- How much a program reports about what it does. -/
inductive LogLevel where
  | debug | info | warning
  deriving DecidableEq

namespace LogLevel

def name : LogLevel → String
  | .debug => "DEBUG"
  | .info => "INFO"
  | .warning => "WARNING"

def ofName? : String → Option LogLevel
  | "DEBUG" => some .debug
  | "INFO" => some .info
  | "WARNING" => some .warning
  | _ => none

end LogLevel

/-- The settings of an engine. -/
structure Settings where
  /-- Whether compiled decisions are kept for further use. -/
  cacheEnabled : Bool
  /-- How many of them are kept. -/
  cacheCapacity : Nat
  capacity_positive : 0 < cacheCapacity
  capacity_le : cacheCapacity ≤ 100000
  /-- The hit policy of tables that name none. -/
  defaultHitPolicy : HitPolicy
  /-- Whether a value that is not of the type of its column is refused. -/
  strictTypes : Bool
  logLevel : LogLevel

/-- A problem of the value of a setting. -/
inductive SettingProblem where
  | unreadableBoolean
  | notBoolean
  | unreadableInteger
  | longInteger
  | notInteger
  | fractional
  | notFinite
  | tooSmall
  | tooLarge
  | notText
  | hitPolicy (error : HitPolicyError)
  | aggregatingPolicy
  | unknownLevel

def SettingProblem.message : SettingProblem → String
  | .unreadableBoolean => "Input should be a valid boolean, unable to interpret input"
  | .notBoolean => "Input should be a valid boolean"
  | .unreadableInteger => "Input should be a valid integer, unable to parse string as an integer"
  | .longInteger => "Unable to parse input string as an integer, exceeded maximum size"
  | .notInteger => "Input should be a valid integer"
  | .fractional => "Input should be a valid integer, got a number with a fractional part"
  | .notFinite => "Input should be a finite number"
  | .tooSmall => "Input should be greater than or equal to 1"
  | .tooLarge => "Input should be less than or equal to 100000"
  | .notText => "Input should be a valid string"
  | .hitPolicy error => "Value error, " ++ error.message
  | .aggregatingPolicy => "Value error, the default hit policy cannot carry an aggregation"
  | .unknownLevel => "Input should be 'DEBUG', 'INFO' or 'WARNING'"

/-- A setting with a problem. -/
structure SettingError where
  setting : String
  problem : SettingProblem

namespace Settings

/-- The settings of an engine for which none are given. -/
def default : Settings := ⟨true, 256, by decide, by decide, .unique, false, .warning⟩

/-- The truth value of a word. -/
def ofWord? (word : String) : Option Bool :=
  let word := word.toLower
  if ["1", "on", "t", "true", "y", "yes"].contains word then some true
  else if ["0", "off", "f", "false", "n", "no"].contains word then some false
  else none

/-- The truth value of a whole number. -/
def ofWhole (number : Int) : Except SettingProblem Bool :=
  if number = 0 then .ok false
  else if number = 1 then .ok true
  else .error .unreadableBoolean

/-- The boolean that a value is taken for. -/
def boolean : Value → Except SettingProblem Bool
  | .boolean value => .ok value
  | .text word =>
      match ofWord? word with
      | some value => .ok value
      | none => .error .unreadableBoolean
  | .number number =>
      match number with
      | .integer whole => ofWhole whole
      | .double _ =>
          match number.integral? with
          | some whole => ofWhole whole
          | none => .error .notBoolean
      | .decimal _ => .error .notBoolean
  | _ => .error .notBoolean

/-- The digits of a numeral in which single underscores may stand between digits. -/
def joinedDigits? (characters : List Char) : Option (List Char) :=
  let groups := Text.splitFrom '_' [] characters
  if groups.all fun group => !group.isEmpty && group.all Char.isDigit then some groups.flatten
  else none

/-- The characters before a point that only zeros follow. -/
def beforeZeros (characters : List Char) : List Char :=
  let (whole, rest) := characters.span (· != '.')
  match rest with
  | _ :: zeros => if zeros.all (· == '0') then whole else characters
  | [] => characters

/-- The integer that a text writes, perhaps with a sign and a fraction of zeros. -/
def integerText (text : String) : Except SettingProblem Int :=
  let (negative, numeral) := Numeral.splitSign (Text.trimmed text.toList)
  match joinedDigits? (beforeZeros numeral) with
  | none => .error .unreadableInteger
  | some digits =>
      if Numeral.maxDigits < digits.length then .error .longInteger
      else
        .ok (signed negative (Numeral.value (digits.map fun digit => digit.toNat - 0x30)))

def integer : Value → Except SettingProblem Int
  | .boolean value => .ok (if value then 1 else 0)
  | .text text => integerText text
  | .number number =>
      match number with
      | .integer whole => .ok whole
      | _ =>
          match number.truncate?, number.integral? with
          | none, _ => .error .notFinite
          | some _, none => .error .fractional
          | some _, some whole => .ok whole
  | _ => .error .notInteger

def capacity (value : Value) :
    Except SettingProblem { size : Nat // 0 < size ∧ size ≤ 100000 } :=
  match integer value with
  | .error problem => .error problem
  | .ok number =>
      if large : 0 < number.toNat then
        if small : number.toNat ≤ 100000 then .ok ⟨number.toNat, large, small⟩
        else .error .tooLarge
      else .error .tooSmall

/-- The default hit policy that a value names. It may not aggregate. -/
def hitPolicy : Value → Except SettingProblem HitPolicy
  | .text name =>
      match HitPolicy.parse (some name) none HitPolicy.unique.name with
      | .error error => .error (.hitPolicy error)
      | .ok (policy, none) => .ok policy
      | .ok (_, some _) => .error .aggregatingPolicy
  | _ => .error .notText

def level : Value → Except SettingProblem LogLevel
  | .text name =>
      match LogLevel.ofName? name with
      | some level => .ok level
      | none => .error .unknownLevel
  | _ => .error .unknownLevel

/-- A setting: the outcome of taking its value, or the default if it is not given. -/
def setting {α : Type} (fields : Bindings) (name : String) (default : α)
    (take : Value → Except SettingProblem α) : Except SettingError α :=
  match fields.get? name with
  | none => .ok default
  | some value =>
      match take value with
      | .ok taken => .ok taken
      | .error problem => .error ⟨name, problem⟩

/-- The error of an outcome, if it is one. -/
def errorOf {α : Type} : Except SettingError α → List SettingError
  | .ok _ => []
  | .error error => [error]

/-- The settings that values give, or all problems in the order of the settings. -/
def ofFields (fields : Bindings) : Except (List SettingError) Settings :=
  let enabled := setting fields "cache_enabled" default.cacheEnabled boolean
  let size := setting fields "cache_capacity"
    ⟨default.cacheCapacity, default.capacity_positive, default.capacity_le⟩ capacity
  let policy := setting fields "default_hit_policy" default.defaultHitPolicy hitPolicy
  let strict := setting fields "strict_types" default.strictTypes boolean
  let level := setting fields "log_level" default.logLevel level
  match enabled, size, policy, strict, level with
  | .ok enabled, .ok ⟨size, positive, small⟩, .ok policy, .ok strict, .ok level =>
      .ok ⟨enabled, size, positive, small, policy, strict, level⟩
  | _, _, _, _, _ =>
      .error (errorOf enabled ++ errorOf size ++ errorOf policy ++ errorOf strict ++ errorOf level)

/-- The values of settings by name, all of them given. -/
def fields (settings : Settings) : Bindings := [
  ("cache_enabled", .boolean settings.cacheEnabled),
  ("cache_capacity", .integer settings.cacheCapacity),
  ("default_hit_policy", .text settings.defaultHitPolicy.name),
  ("strict_types", .boolean settings.strictTypes),
  ("log_level", .text settings.logLevel.name)]

end Settings

end DecisionTables
