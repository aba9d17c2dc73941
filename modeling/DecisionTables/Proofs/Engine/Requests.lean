import DecisionTables.Engine.Basic
import DecisionTables.Proofs.Outcome

/-!
# Requests to an engine

What an engine is asked is a list of requests, each answered by the engine that the one before has
left. An answer shows tables and errors; the number under which an engine has compiled a decision is
not part of it. A request also has an answer that no engine is needed for, which reads and compiles
afresh. If compiling in engines of some kind does what compiling afresh does, so do all requests.
-/

namespace DecisionTables

/-- What an engine is asked for. -/
inductive Request where
  | decision (source : ModelSource) (id : Option String)
  | decisions (source : ModelSource)
  | evaluate (source : ModelSource) (id : Option String) (context : Context)
  | clear

/-- What is seen of an answer. How many decisions were given up is not: an engine that keeps none
gives up none. -/
inductive Answer where
  | decision (outcome : Except PreparationError CompiledTable)
  | decisions (outcome : Except PreparationError (List CompiledTable))
  | result (outcome : Except RunError ResultSet)
  | cleared

namespace Engine

/-- The answer to a request, and the engine after it. -/
def answer (engine : Engine) : Request → Answer × Engine
  | .decision source id =>
      let (outcome, engine) := engine.decision source id
      (.decision (outcome.map Decision.table), engine)
  | .decisions source =>
      let (outcome, engine) := engine.decisions source
      (.decisions (outcome.map fun decisions => decisions.map Decision.table), engine)
  | .evaluate source id context =>
      let (outcome, engine) := engine.evaluate source id context
      (.result outcome, engine)
  | .clear => (.cleared, engine.clear.2)

/-- The answers to some requests, one after the other. -/
def answers (engine : Engine) : List Request → List Answer
  | [] => []
  | request :: rest =>
      let (first, engine) := engine.answer request
      first :: engine.answers rest

/-- The engine after some requests, one after the other. -/
def after (engine : Engine) (requests : List Request) : Engine :=
  requests.foldl (fun engine request => (engine.answer request).2) engine

end Engine

/-! ## Answers without an engine -/

namespace Afresh

variable (options : CompilerOptions)

def compile (definition : DecisionDefinition) : Except PreparationError CompiledTable :=
  match definition.compile options with
  | .ok table => .ok table
  | .error error => .error (.compilation error)

/-- The tables of declared decisions, up to the first that does not compile. -/
def compileAll : List DecisionDefinition → Except PreparationError (List CompiledTable)
  | [] => .ok []
  | definition :: rest =>
      match compile options definition with
      | .error error => .error error
      | .ok table => (compileAll rest).map (table :: ·)

/-- The table of the decision of a source that an id selects, or of the only one. -/
def decision (source : ModelSource) (id : Option String) : Except PreparationError CompiledTable :=
  match Model.ofSource source with
  | .error error => .error (.model error)
  | .ok model =>
      match model.select id with
      | .error error => .error (.selection error)
      | .ok definition => compile options definition

def decisions (source : ModelSource) : Except PreparationError (List CompiledTable) :=
  match Model.ofSource source with
  | .error error => .error (.model error)
  | .ok model => compileAll options model.decisions

def run (context : Context) : Except PreparationError CompiledTable → Except RunError ResultSet
  | .error error => .error (.preparation error)
  | .ok table =>
      match table.evaluate context with
      | .error error => .error (.evaluation error)
      | .ok result => .ok result

/-- The answer to a request. -/
def answer : Request → Answer
  | .decision source id => .decision (decision options source id)
  | .decisions source => .decisions (decisions options source)
  | .evaluate source id context => .result (run context (decision options source id))
  | .clear => .cleared

end Afresh

/-- Decisions are all compiled exactly if each of them is. -/
theorem Afresh.exists_compileAll_iff {options : CompilerOptions}
    {definitions : List DecisionDefinition} :
    (∃ tables, compileAll options definitions = .ok tables) ↔
      ∀ definition ∈ definitions, ∃ table, definition.compile options = .ok table := by
  induction definitions with
  | nil => simp [compileAll]
  | cons definition rest ih =>
      rw [List.forall_mem_cons, ← ih, compileAll, compile]
      cases definition.compile options with
      | error error => simp
      | ok table => simp [Except.map_eq_ok_iff]

theorem Model.select_mem {model : Model} {id : Option String} {definition : DecisionDefinition}
    (selected : model.select id = .ok definition) : definition ∈ model.decisions := by
  cases id with
  | some id =>
      simp only [Model.select] at selected
      split at selected
      · rename_i found
        cases selected
        exact List.mem_of_find?_eq_some found
      · cases selected
  | none =>
      simp only [Model.select] at selected
      split at selected
      · cases selected
      · rename_i only
        cases selected
        rw [only]
        exact List.mem_singleton_self _
      · cases selected

/-! ## Engines that compile as if afresh -/

/-- Whether compiling the decisions of the models that are served does what compiling afresh does,
in engines of a kind that compiling and clearing do not leave. -/
structure CompilesAfresh (options : CompilerOptions) (kind : Engine → Prop)
    (served : Model → Prop) : Prop where
  compile : ∀ {engine model definition}, kind engine → served model → definition ∈ model.decisions →
    (engine.compile model definition).1.map Decision.table = Afresh.compile options definition ∧
      kind (engine.compile model definition).2
  clear : ∀ {engine}, kind engine → kind engine.clear.2

/-- Whether all models of the source of a request are served. -/
def Request.Served (served : Model → Prop) : Request → Prop
  | .decision source _ | .decisions source | .evaluate source _ _ =>
      ∀ model, Model.ofSource source = .ok model → served model
  | .clear => True

namespace CompilesAfresh

variable {options : CompilerOptions} {kind : Engine → Prop} {served : Model → Prop}
  (afresh : CompilesAfresh options kind served)

include afresh

theorem compileAll {engine : Engine} {model : Model} (good : kind engine) (serves : served model)
    {definitions : List DecisionDefinition} (declared : definitions ⊆ model.decisions) :
    (engine.compileAll model definitions).1.map (fun decisions => decisions.map Decision.table) =
        Afresh.compileAll options definitions ∧
      kind (engine.compileAll model definitions).2 := by
  induction definitions generalizing engine with
  | nil => exact ⟨rfl, good⟩
  | cons definition rest ih =>
      obtain ⟨member, others⟩ := List.cons_subset.mp declared
      obtain ⟨same, still⟩ := afresh.compile good serves member
      simp only [Engine.compileAll, Afresh.compileAll, ← same]
      rcases compiled : engine.compile model definition with ⟨outcome, after⟩
      rw [compiled] at still
      cases outcome with
      | error error => exact ⟨rfl, still⟩
      | ok decision =>
          obtain ⟨same, still⟩ := ih still others
          simp only [Except.map_ok, ← same]
          rcases remaining : after.compileAll model rest with ⟨outcome, last⟩
          rw [remaining] at still
          cases outcome with
          | error error => exact ⟨rfl, still⟩
          | ok decisions => exact ⟨rfl, still⟩

theorem decision {engine : Engine} {source : ModelSource} {id : Option String} (good : kind engine)
    (serves : ∀ model, Model.ofSource source = .ok model → served model) :
    (engine.decision source id).1.map Decision.table = Afresh.decision options source id ∧
      kind (engine.decision source id).2 := by
  unfold Engine.decision Afresh.decision
  cases read : Model.ofSource source with
  | error error => exact ⟨rfl, good⟩
  | ok model =>
      cases selected : model.select id with
      | error error =>
          simp only [selected]
          exact ⟨rfl, good⟩
      | ok definition =>
          simp only [selected]
          exact afresh.compile good (serves model read) (Model.select_mem selected)

theorem decisions {engine : Engine} {source : ModelSource} (good : kind engine)
    (serves : ∀ model, Model.ofSource source = .ok model → served model) :
    (engine.decisions source).1.map (fun decisions => decisions.map Decision.table) =
        Afresh.decisions options source ∧
      kind (engine.decisions source).2 := by
  unfold Engine.decisions Afresh.decisions
  cases read : Model.ofSource source with
  | error error => exact ⟨rfl, good⟩
  | ok model => exact afresh.compileAll good (serves model read) (List.Subset.refl _)

theorem evaluate {engine : Engine} {source : ModelSource} {id : Option String}
    {context : Context} (good : kind engine)
    (serves : ∀ model, Model.ofSource source = .ok model → served model) :
    (engine.evaluate source id context).1 =
        Afresh.run context (Afresh.decision options source id) ∧
      kind (engine.evaluate source id context).2 := by
  obtain ⟨same, still⟩ := afresh.decision good serves
  unfold Engine.evaluate
  rw [← same]
  rcases prepared : engine.decision source id with ⟨outcome, after⟩
  rw [prepared] at still
  cases outcome with
  | error error => exact ⟨rfl, still⟩
  | ok decision =>
      simp only [Except.map_ok, Afresh.run, Decision.evaluate]
      cases decision.table.evaluate context with
      | error error => exact ⟨rfl, still⟩
      | ok result => exact ⟨rfl, still⟩

/-- One request. -/
theorem answer {engine : Engine} {request : Request} (good : kind engine)
    (serves : request.Served served) :
    (engine.answer request).1 = Afresh.answer options request ∧ kind (engine.answer request).2 := by
  cases request with
  | decision source id =>
      obtain ⟨same, still⟩ := afresh.decision good serves
      exact ⟨congrArg Answer.decision same, still⟩
  | decisions source =>
      obtain ⟨same, still⟩ := afresh.decisions good serves
      exact ⟨congrArg Answer.decisions same, still⟩
  | evaluate source id context =>
      obtain ⟨same, still⟩ := afresh.evaluate good serves
      exact ⟨congrArg Answer.result same, still⟩
  | clear => exact ⟨rfl, afresh.clear good⟩

/-- A list of requests. -/
theorem answers {engine : Engine} {requests : List Request} (good : kind engine)
    (serves : ∀ request ∈ requests, request.Served served) :
    engine.answers requests = requests.map (Afresh.answer options) := by
  induction requests generalizing engine with
  | nil => rfl
  | cons request rest ih =>
      obtain ⟨serves, others⟩ := List.forall_mem_cons.mp serves
      obtain ⟨same, still⟩ := afresh.answer good serves
      simp only [Engine.answers, List.map_cons, same, ih still others]

/-- A list of requests does not change the kind of an engine. -/
theorem after {engine : Engine} {requests : List Request} (good : kind engine)
    (serves : ∀ request ∈ requests, request.Served served) : kind (engine.after requests) := by
  induction requests generalizing engine with
  | nil => exact good
  | cons request rest ih =>
      obtain ⟨serves, others⟩ := List.forall_mem_cons.mp serves
      exact ih (afresh.answer good serves).2 others

end CompilesAfresh

end DecisionTables
