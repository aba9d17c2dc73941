import DecisionTables.Engine.Cache
import DecisionTables.Engine.Decision
import DecisionTables.Engine.Settings
import DecisionTables.Model.Selection
import DecisionTables.Model.Source
import DecisionTables.Table.Compile

/-!
# Engines

An engine reads models, selects decisions and compiles them. Unless it is told not to, it keeps
compiled decisions under the checksum of their model and their id, and gives a decision that it keeps
instead of compiling it again. Every operation gives its outcome together with the engine after it.
-/

namespace DecisionTables

/-- Why no decision is prepared. -/
inductive PreparationError where
  | model (error : ModelError)
  | selection (error : SelectionError)
  | compilation (error : CompileError)

namespace PreparationError

/-- The text of an error that is not a fault. -/
def message : PreparationError → String
  | .model error => error.message
  | .selection error => error.message
  | .compilation error => error.message

/-- The fault that an error is, if it is one. -/
def fault? : PreparationError → Option Fault
  | .model (.fault fault) => some fault
  | .compilation (.fault fault) => some fault
  | _ => none

end PreparationError

/-- Why a decision of a source has no result. -/
inductive RunError where
  | preparation (error : PreparationError)
  | evaluation (error : EvaluationError)

namespace RunError

/-- The text of an error that is not a fault. -/
def message : RunError → String
  | .preparation error => error.message
  | .evaluation error => error.message

/-- The fault that an error is, if it is one. -/
def fault? : RunError → Option Fault
  | .preparation error => error.fault?
  | .evaluation error => error.fault?

end RunError

namespace Settings

def compilerOptions (settings : Settings) : CompilerOptions :=
  ⟨settings.defaultHitPolicy.name, settings.strictTypes⟩

end Settings

/-- An engine: its settings, the decisions that it keeps, if it keeps any, and how many it has
compiled. -/
structure Engine where
  settings : Settings
  cache : Option (Cache Decision)
  compiled : Nat

namespace Engine

/-- An engine that has not been used. -/
def ofSettings (settings : Settings) : Engine :=
  ⟨settings,
    if settings.cacheEnabled then
      some (Cache.empty settings.cacheCapacity settings.capacity_positive)
    else none,
    0⟩

def cacheSize (engine : Engine) : Nat :=
  match engine.cache with
  | some cache => cache.size
  | none => 0

/-- Give up all decisions that are kept, and tell how many there were. -/
def clear (engine : Engine) : Nat × Engine :=
  match engine.cache with
  | some cache =>
      let (count, cache) := cache.clear
      (count, { engine with cache := some cache })
  | none => (0, engine)

/-- Compile a declared decision, whether or not it is kept. -/
def compileNew (engine : Engine) (definition : DecisionDefinition) :
    Except PreparationError Decision × Engine :=
  match definition.compile engine.settings.compilerOptions with
  | .error error => (.error (.compilation error), engine)
  | .ok table =>
      (.ok ⟨engine.compiled, table⟩, { engine with compiled := engine.compiled + 1 })

/-- The decision that a model declares, compiled unless it is kept. -/
def compile (engine : Engine) (model : Model) (definition : DecisionDefinition) :
    Except PreparationError Decision × Engine :=
  match engine.cache with
  | none => engine.compileNew definition
  | some cache =>
      let key : CacheKey := ⟨model.checksum, definition.id⟩
      match cache.lookup key with
      | (some decision, cache) => (.ok decision, { engine with cache := some cache })
      | (none, cache) =>
          match { engine with cache := some cache }.compileNew definition with
          | (.error error, engine) => (.error error, engine)
          | (.ok decision, engine) =>
              let (kept, cache) := cache.store key decision
              (.ok kept, { engine with cache := some cache })

/-- The decisions that a model declares, up to the first that does not compile. -/
def compileAll (engine : Engine) (model : Model) :
    List DecisionDefinition → Except PreparationError (List Decision) × Engine
  | [] => (.ok [], engine)
  | definition :: rest =>
      match engine.compile model definition with
      | (.error error, engine) => (.error error, engine)
      | (.ok decision, engine) =>
          match engine.compileAll model rest with
          | (.error error, engine) => (.error error, engine)
          | (.ok decisions, engine) => (.ok (decision :: decisions), engine)

/-- The decision of a source that an id selects, or the only one. -/
def decision (engine : Engine) (source : ModelSource) (id : Option String) :
    Except PreparationError Decision × Engine :=
  match Model.ofSource source with
  | .error error => (.error (.model error), engine)
  | .ok model =>
      match model.select id with
      | .error error => (.error (.selection error), engine)
      | .ok definition => engine.compile model definition

/-- All decisions of a source in the order of the document. -/
def decisions (engine : Engine) (source : ModelSource) :
    Except PreparationError (List Decision) × Engine :=
  match Model.ofSource source with
  | .error error => (.error (.model error), engine)
  | .ok model => engine.compileAll model model.decisions

def evaluate (engine : Engine) (source : ModelSource) (id : Option String)
    (context : Context) : Except RunError ResultSet × Engine :=
  match engine.decision source id with
  | (.error error, engine) => (.error (.preparation error), engine)
  | (.ok decision, engine) =>
      match decision.evaluate context with
      | .error error => (.error (.evaluation error), engine)
      | .ok result => (.ok result, engine)

end Engine

end DecisionTables
