import DecisionTables.Proofs.Engine.Transparency

/-!
# Batches of decisions

All decisions of a model are compiled by going through what it declares; one decision is compiled by
looking its id up. Both do the same to an engine because the ids of a model that was read are
distinct: a batch is the list of its decisions, asked for one by one up to the first that fails,
under whatever the engine keeps and gives up meanwhile. A decision that fails leaves nothing behind
but a lookup that found nothing.
-/

namespace DecisionTables

namespace Engine

variable {engine after : Engine} {model : Model} {error : PreparationError}

/-! ## Failures -/

/-- The decisions that an engine keeps, if it keeps any, the least recently used first. -/
def kept (engine : Engine) : Option (List (CacheKey × Decision)) :=
  engine.cache.map Cache.entries

def missed (engine : Engine) : Engine :=
  { engine with cache := engine.cache.map fun cache => { cache with misses := cache.misses + 1 } }

@[simp] theorem kept_missed (engine : Engine) : engine.missed.kept = engine.kept := by
  cases engine with
  | mk settings cache compiled => cases cache <;> rfl

/-- A decision that does not compile leaves a lookup that has found nothing. -/
theorem compile_error {definition : DecisionDefinition}
    (failed : engine.compile model definition = (.error error, after)) : after = engine.missed := by
  cases keeps : engine.cache with
  | none =>
      rw [compile_without_cache keeps, compileNew] at failed
      cases compiled : definition.compile engine.settings.compilerOptions with
      | ok table => simp [compiled] at failed
      | error problem =>
          simp only [compiled, Prod.mk.injEq] at failed
          rw [← failed.2, missed, keeps, Option.map_none, ← keeps]
  | some cache =>
      cases found : cache.get? (key model definition) with
      | some decision => simp [compile_hit keeps found] at failed
      | none =>
          rw [compile_miss keeps found] at failed
          cases compiled : definition.compile engine.settings.compilerOptions with
          | ok table => simp [compiled] at failed
          | error problem =>
              simp only [compiled, Prod.mk.injEq] at failed
              rw [← failed.2, missed, keeps, Option.map_some]

theorem kept_of_decision_error {source : ModelSource} {id : Option String}
    (failed : engine.decision source id = (.error error, after)) : after.kept = engine.kept := by
  unfold decision at failed
  split at failed
  · cases failed
    rfl
  · split at failed
    · cases failed
      rfl
    · rw [compile_error failed, kept_missed]

/-- Decisions that are compiled up to one that fails. -/
theorem compileAll_error {definitions : List DecisionDefinition}
    (failed : engine.compileAll model definitions = (.error error, after)) :
    ∃ earlier failing later decisions prior, definitions = earlier ++ failing :: later ∧
      engine.compileAll model earlier = (.ok decisions, prior) ∧
      prior.compile model failing = (.error error, after) := by
  induction definitions generalizing engine with
  | nil => simp [compileAll] at failed
  | cons definition rest ih =>
      rw [compileAll] at failed
      rcases compiled : engine.compile model definition with ⟨_ | decision, next⟩
      · simp only [compiled] at failed
        cases failed
        exact ⟨[], definition, rest, [], engine, rfl, rfl, compiled⟩
      · rcases remaining : next.compileAll model rest with ⟨_ | decisions, last⟩
        · simp only [compiled, remaining] at failed
          obtain ⟨earlier, failing, later, decisions, prior, rfl, before, here⟩ :=
            ih (remaining.trans failed)
          refine ⟨definition :: earlier, failing, later, decision :: decisions, prior, rfl, ?_,
            here⟩
          simp only [compileAll, compiled, before]
        · simp [compiled, remaining] at failed

/-- How a batch ends with an error: its source cannot be read, or a decision fails after those
before it, in which case the engine keeps what it kept just before that decision. -/
inductive Interrupted (engine : Engine) (source : ModelSource) (error : PreparationError)
    (after : Engine) : Prop
  | reading {problem : ModelError} :
      Model.ofSource source = .error problem → error = .model problem → after = engine →
      Interrupted engine source error after
  | compiling {model : Model} {earlier later : List DecisionDefinition}
      {failing : DecisionDefinition} {decisions : List Decision} {prior : Engine} :
      Model.ofSource source = .ok model → model.decisions = earlier ++ failing :: later →
      engine.compileAll model earlier = (.ok decisions, prior) →
      prior.compile model failing = (.error error, after) → after.kept = prior.kept →
      Interrupted engine source error after

theorem interrupted_of_decisions_error {source : ModelSource}
    (failed : engine.decisions source = (.error error, after)) :
    Interrupted engine source error after := by
  unfold decisions at failed
  cases read : Model.ofSource source with
  | error problem =>
      simp only [read, Prod.mk.injEq, Except.error.injEq] at failed
      exact .reading read failed.1.symm failed.2.symm
  | ok model =>
      simp only [read] at failed
      obtain ⟨earlier, failing, later, decisions, prior, split, before, here⟩ :=
        compileAll_error failed
      exact .compiling read split before here (by rw [compile_error here, kept_missed])

/-- What an engine keeps after a call that ends with an error. -/
structure FailsCleanly (engine : Engine) : Prop where
  decision : ∀ {source id error after},
    engine.decision source id = (.error error, after) → after.kept = engine.kept
  decisions : ∀ {source error after},
    engine.decisions source = (.error error, after) → Interrupted engine source error after
  /-- Evaluation touches nothing: the engine is left as preparing the decision leaves it. -/
  evaluate : ∀ source id bindings,
    (engine.evaluate source id bindings).2 = (engine.decision source id).2

theorem failsCleanly (engine : Engine) : engine.FailsCleanly := by
  refine ⟨kept_of_decision_error, interrupted_of_decisions_error, fun source id bindings => ?_⟩
  unfold evaluate
  rcases engine.decision source id with ⟨_ | decision, next⟩
  · rfl
  · dsimp only
    cases decision.evaluate bindings <;> rfl

/-! ## One by one -/

/-- The decisions of some ids of a model, each asked for by its id, up to the first that fails. -/
def oneByOne (engine : Engine) (model : Model) :
    List String → Except PreparationError (List Decision) × Engine
  | [] => (.ok [], engine)
  | id :: rest =>
      match engine.decision (.model model) (some id) with
      | (.error error, engine) => (.error error, engine)
      | (.ok decision, engine) =>
          match engine.oneByOne model rest with
          | (.error error, engine) => (.error error, engine)
          | (.ok decisions, engine) => (.ok (decision :: decisions), engine)

/-- If ids are distinct, asking for a decision by its id compiles it. -/
theorem decision_of_distinct (distinct : model.decisionIds.Nodup) {definition : DecisionDefinition}
    (member : definition ∈ model.decisions) :
    engine.decision (.model model) (some definition.id) = engine.compile model definition := by
  simp only [decision, Model.ofSource, Model.select_of_distinct distinct member]

theorem compileAll_eq_oneByOne (distinct : model.decisionIds.Nodup)
    {definitions : List DecisionDefinition} (declared : definitions ⊆ model.decisions) :
    engine.compileAll model definitions =
      engine.oneByOne model (definitions.map DecisionDefinition.id) := by
  induction definitions generalizing engine with
  | nil => rfl
  | cons definition rest ih =>
      obtain ⟨member, others⟩ := List.cons_subset.mp declared
      rw [compileAll, List.map_cons, oneByOne, decision_of_distinct distinct member]
      rcases engine.compile model definition with ⟨_ | decision, next⟩
      · rfl
      · have later := @ih next others
        rcases ended : next.oneByOne model (rest.map DecisionDefinition.id) with
          ⟨_ | decisions, last⟩
        · simp only [later, ended]
        · simp only [later, ended]

/-- How an engine treats the decisions of a model alike, whether it is asked for all of them, for
each by its id, or for the only one. -/
structure PreparesAlike (engine : Engine) (model : Model) : Prop where
  /-- A batch has the outcome of asking for the decisions one by one, and leaves the same engine. -/
  batch : engine.decisions (.model model) = engine.oneByOne model model.decisionIds
  only : ∀ id, model.decisionIds = [id] →
    engine.decision (.model model) none = engine.decision (.model model) (some id)
  /-- Without an id, a model of no or several decisions is refused, and the engine is left alone. -/
  undecided : model.decisionIds.length ≠ 1 → ∃ problem,
    engine.decision (.model model) none = (.error (.selection problem), engine)

theorem preparesAlike_of_distinct (engine : Engine) (distinct : model.decisionIds.Nodup) :
    engine.PreparesAlike model := by
  constructor
  case batch => exact compileAll_eq_oneByOne distinct (List.Subset.refl _)
  case only =>
    intro id single
    obtain ⟨definition, declared, rfl⟩ := List.map_eq_singleton_iff.mp single
    have member : definition ∈ model.decisions := declared ▸ List.mem_singleton_self definition
    rw [decision_of_distinct distinct member]
    simp only [decision, Model.ofSource, Model.select, declared]
  case undecided =>
    intro several
    rw [Model.decisionIds, List.length_map] at several
    cases selected : model.select none with
    | error problem => exact ⟨problem, by simp only [decision, Model.ofSource, selected]⟩
    | ok definition =>
        simp only [Model.select] at selected
        split at selected
        · cases selected
        · rename_i declared
          exact absurd (congrArg List.length declared) several
        · cases selected

/-- An engine prepares the decisions of a model that was read all at once as it prepares them one by
one, and what fails leaves what it keeps as it was. -/
theorem preparesAlike_of_read (engine : Engine) {source : ModelSource}
    (drawn : source.DrawnFrom fun _ => True) (read : Model.ofSource source = .ok model) :
    engine.PreparesAlike model ∧ engine.FailsCleanly := by
  obtain ⟨content, label, _, declaring⟩ := drawn.content read
  exact ⟨engine.preparesAlike_of_distinct (Content.decisionIds_nodup declaring),
    engine.failsCleanly⟩

end Engine

/-! ## A batch that fails at its second decision -/

section Unfinished

open Xml

/-- A document that declares a table without columns and a decision without logic. -/
def unfinishedText : List Char :=
  '<' :: ("definitions>".toList ++ '<' :: ("decision id='a'>".toList ++
    '<' :: ("decisionTable/>".toList ++ '<' :: ("/decision>".toList ++
      '<' :: ("decision id='b'/>".toList ++ '<' :: ("/definitions>".toList ++ []))))))

def unfinished : Bytes :=
  unfinishedText.map fun character => UInt8.ofNat character.toNat

def emptyTable : DecisionDefinition :=
  ⟨"a", none, .decisionTable, some (.decisionTable ⟨none, none, none, [], [], []⟩), []⟩

def unfinishedDecisions : List DecisionDefinition :=
  [emptyTable, ⟨"b", none, .unknown, none, []⟩]

/-- The model that the document declares, under a label. -/
def unfinishedModel (label : String) : Model :=
  ⟨label, checksumOf unfinished, none, none, unfinishedDecisions⟩

@[simp] theorem decisions_unfinishedModel (label : String) :
    (unfinishedModel label).decisions = unfinishedDecisions := rfl

theorem unfinished_source : Source.ofBytes unfinished = .ok ⟨.absent, unfinishedText⟩ := by
  have detected : Encoding.detect unfinished = (.utf8, unfinished) := by cbv
  have undeclared : Declaration.body? (Encoding.utf8.plain unfinished) = none := by decide +kernel
  have decoded : Encoding.utf8.decode? unfinished = some unfinishedText := by decide +kernel
  have allowed : Source.ofCharacters .absent unfinishedText = .ok ⟨.absent, unfinishedText⟩ := by
    cbv
  simp only [Source.ofBytes, detected, undeclared, Source.decode, decoded, allowed, Except.ok_bind]

theorem unfinished_markup : Markup.read? unfinishedText = some [
    .opening ⟨none, "definitions"⟩ [] false,
    .opening ⟨none, "decision"⟩ [⟨⟨none, "id"⟩, [.plain ['a']]⟩] false,
    .opening ⟨none, "decisionTable"⟩ [] true, .closing ⟨none, "decision"⟩,
    .opening ⟨none, "decision"⟩ [⟨⟨none, "id"⟩, [.plain ['b']]⟩] true,
    .closing ⟨none, "definitions"⟩] := by
  have root (rest : List Char) : Markup.construct? ("definitions>".toList ++ rest) =
      some ([.opening ⟨none, "definitions"⟩ [] false], rest) := by cbv
  have first (rest : List Char) : Markup.construct? ("decision id='a'>".toList ++ rest) =
      some ([.opening ⟨none, "decision"⟩ [⟨⟨none, "id"⟩, [.plain ['a']]⟩] false], rest) := by cbv
  have logic (rest : List Char) : Markup.construct? ("decisionTable/>".toList ++ rest) =
      some ([.opening ⟨none, "decisionTable"⟩ [] true], rest) := by cbv
  have firstEnd (rest : List Char) : Markup.construct? ("/decision>".toList ++ rest) =
      some ([.closing ⟨none, "decision"⟩], rest) := by cbv
  have second (rest : List Char) : Markup.construct? ("decision id='b'/>".toList ++ rest) =
      some ([.opening ⟨none, "decision"⟩ [⟨⟨none, "id"⟩, [.plain ['b']]⟩] true], rest) := by cbv
  have rootEnd (rest : List Char) : Markup.construct? ("/definitions>".toList ++ rest) =
      some ([.closing ⟨none, "definitions"⟩], rest) := by cbv
  have nothing : Markup.read? [] = some [] := by rw [Markup.read?]
  exact Markup.read?_of_construct? (root _) <| Markup.read?_of_construct? (first _) <|
    Markup.read?_of_construct? (logic _) <| Markup.read?_of_construct? (firstEnd _) <|
    Markup.read?_of_construct? (second _) <| Markup.read?_of_construct? (rootEnd _) nothing

def noDefinitions : Definitions := ⟨[], [], false, false, false⟩

/-- An element that begins without qualifiers and without attributes other than the given ones. -/
def begun (name : String) (attributes : List (Name × String)) : Frame :=
  ⟨⟨none, name⟩, Scope.base, ⟨none, name⟩, attributes, "", []⟩

theorem begin?_plain (name : String) :
    Frame.begin? noDefinitions Scope.base ⟨none, name⟩ [] = some (begun name []) := rfl

theorem begin?_identified (name : String) {id : Char} (visible : isSpace id = false) :
    Frame.begin? noDefinitions Scope.base ⟨none, name⟩ [⟨⟨none, "id"⟩, [.plain [id]]⟩] =
      some (begun name [(⟨none, "id"⟩, String.ofList [id])]) := by
  have values : Frame.values? noDefinitions ⟨none, name⟩ [⟨⟨none, "id"⟩, [.plain [id]]⟩] =
      some [(⟨none, "id"⟩, String.ofList [id])] := by
    simp [Frame.values?, Definitions.attribute?, Definitions.value?, Definitions.expand?,
      noDefinitions, visible]
  rw [Frame.begin?, values]
  rfl

theorem unfinished_element : Element.ofBytes unfinished = .ok ⟨⟨none, "definitions"⟩, [], "",
    [⟨⟨none, "decision"⟩, [(⟨none, "id"⟩, "a")], "", [⟨⟨none, "decisionTable"⟩, [], "", []⟩]⟩,
      ⟨⟨none, "decision"⟩, [(⟨none, "id"⟩, "b")], "", []⟩]⟩ := by
  have typed : Doctype.read? ⟨.absent, unfinishedText⟩ = some (noDefinitions, unfinishedText) := by
    cbv
  have first := begin?_identified "decision" (rfl : isSpace 'a' = false)
  have second := begin?_identified "decision" (rfl : isSpace 'b' = false)
  simp only [Element.ofBytes, unfinished_source, Except.ok_bind, Document.ofSource, typed,
    unfinished_markup, Option.bind_eq_bind, Option.bind_some, Document.root?, List.dropWhile_cons,
    Document.isBlank, Bool.false_eq_true, if_false, begin?_plain, Document.build?, begun,
    Frame.addChild, first, second, if_true]
  rfl

theorem unfinished_read (label : String) :
    Model.ofBytes label unfinished = .ok (unfinishedModel label) := by
  rw [Model.ofBytes, unfinished_element]
  rfl

theorem unfinished_preparesAlike :
    (ModelSource.bytes unfinished).DrawnFrom (fun _ => True) ∧
      Model.ofSource (.bytes unfinished) = .ok (unfinishedModel Model.anonymousLabel) ∧
      (Engine.ofSettings .default).PreparesAlike (unfinishedModel Model.anonymousLabel) ∧
      (Engine.ofSettings .default).FailsCleanly := by
  have drawn : (ModelSource.bytes unfinished).DrawnFrom fun _ => True := trivial
  have read : Model.ofSource (.bytes unfinished) =
      .ok (unfinishedModel Model.anonymousLabel) := unfinished_read _
  exact ⟨drawn, read, Engine.preparesAlike_of_read _ drawn read⟩

end Unfinished

end DecisionTables
