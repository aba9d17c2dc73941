import DecisionTables.Proofs.Engine.Recency
import DecisionTables.Proofs.Engine.Requests
import DecisionTables.Proofs.Model.Content

/-!
# Transparency of the cache

An engine that keeps decisions finds them under the checksum of their model and their id. Whether it
can be told from an engine that keeps none depends on what this key says about a decision: the
engines answer alike exactly if contents of one checksum compile alike. Where checksums do not
collide, that leaves one pair of contents to look at, a text and the bytes of its UTF-8 form. A text
is read without regard to the encoding that it declares, while its bytes are read in that encoding.
-/

namespace DecisionTables

/-! ## The entries of a cache -/

namespace Cache

variable {α : Type} {cache : Cache α} {key : CacheKey} {item : α}

/-- Storing under a key that is missing adds one entry, perhaps at the cost of others. -/
theorem store_of_get?_none (missing : cache.get? key = none) (item : α) :
    (cache.store key item).1 = item ∧ ∀ entry ∈ (cache.store key item).2.entries,
      entry ∈ cache.entries ∨ entry = (key, item) := by
  simp only [store, missing, true_and]
  intro entry member
  obtain before | last := List.mem_append.mp (List.mem_of_mem_drop member)
  · exact .inl before
  · exact .inr (List.mem_singleton.mp last)

/-- What is stored first is found again. -/
theorem get?_store_of_empty (empty : cache.entries = []) :
    (cache.store key item).2.get? key = some item := by
  have kept : 1 - cache.capacity = 0 := Nat.sub_eq_zero_of_le cache.positive
  simp [store, get?, empty, kept]

end Cache

/-! ## Compiling in an engine -/

namespace Engine

variable {engine : Engine} {cache : Cache Decision} {model : Model}
  {definition : DecisionDefinition}

def key (model : Model) (definition : DecisionDefinition) : CacheKey :=
  ⟨model.checksum, definition.id⟩

theorem compile_without_cache (none : engine.cache = none) :
    engine.compile model definition = engine.compileNew definition := by
  simp only [compile, none]

theorem clear_without_cache (none : engine.cache = none) : engine.clear = (0, engine) := by
  simp only [clear, none]

theorem compile_hit {decision : Decision} (keeps : engine.cache = some cache)
    (found : cache.get? (key model definition) = some decision) :
    engine.compile model definition =
      (.ok decision, { engine with cache := some (cache.lookup (key model definition)).2 }) := by
  unfold key at *
  simp only [compile, keeps, Cache.lookup, found]

theorem compile_miss (keeps : engine.cache = some cache)
    (missing : cache.get? (key model definition) = none) :
    engine.compile model definition =
      match definition.compile engine.settings.compilerOptions with
      | .error error =>
          (.error (.compilation error),
            { engine with cache := some { cache with misses := cache.misses + 1 } })
      | .ok table =>
          let stored := { cache with misses := cache.misses + 1 }.store (key model definition)
            ⟨engine.compiled, table⟩
          (.ok stored.1,
            { engine with cache := some stored.2, compiled := engine.compiled + 1 }) := by
  unfold key at *
  simp only [compile, keeps, Cache.lookup, missing, compileNew]
  cases definition.compile engine.settings.compilerOptions with
  | error error => rfl
  | ok table => rfl

end Engine

/-! ## What an engine keeps -/

/-- Whether an entry of a cache is a decision that one of some contents declares, compiled, under
the checksum of the content and the id of the decision. -/
def CompiledFrom (contents : Content → Prop) (options : CompilerOptions)
    (entry : CacheKey × Decision) : Prop :=
  ∃ content declared definition, contents content ∧ content.Declares declared ∧
    definition ∈ declared ∧ entry.1 = ⟨content.checksum, definition.id⟩ ∧
    definition.compile options = .ok entry.2.table

/-- An engine that compiles under some options and keeps nothing but decisions of some contents. -/
structure Engine.Keeps (contents : Content → Prop) (options : CompilerOptions) (engine : Engine) :
    Prop where
  options_eq : engine.settings.compilerOptions = options
  entries : ∀ cache, engine.cache = some cache → ∀ entry ∈ cache.entries,
    CompiledFrom contents options entry

/-- Whether contents of one checksum compile alike: a decision that compiles in the one compiles to
the same table in the other if that declares it. -/
def CompileAlike (options : CompilerOptions) (contents : Content → Prop) : Prop :=
  ∀ {first second : Content}, contents first → contents second →
    first.checksum = second.checksum → ∀ {declared others : List DecisionDefinition},
      first.Declares declared → second.Declares others →
        ∀ definition ∈ declared, ∀ other ∈ others, definition.id = other.id →
          ∀ table, definition.compile options = .ok table → other.compile options = .ok table

/-- Whether a model is read from one of some contents. -/
def ReadFrom (contents : Content → Prop) (model : Model) : Prop :=
  ∃ content label, contents content ∧ content.model label = .ok model

section Keeps

variable {contents : Content → Prop} {options : CompilerOptions} {engine : Engine} {model : Model}
  {definition : DecisionDefinition}

theorem Afresh.compile_ok {table : CompiledTable}
    (compiled : definition.compile options = .ok table) :
    Afresh.compile options definition = .ok table := by
  simp only [Afresh.compile, compiled]

theorem Afresh.compile_error {error : CompileError}
    (failed : definition.compile options = .error error) :
    Afresh.compile options definition = .error (.compilation error) := by
  simp only [Afresh.compile, failed]

/-- A key that is found belongs to a decision that compiles to the table that is kept. -/
theorem Engine.Keeps.hit (keeps : engine.Keeps contents options)
    (alike : CompileAlike options contents) (read : ReadFrom contents model)
    (member : definition ∈ model.decisions) {cache : Cache Decision}
    (kept : engine.cache = some cache) {decision : Decision}
    (found : cache.get? (Engine.key model definition) = some decision) :
    definition.compile options = .ok decision.table := by
  rcases read with ⟨content, label, among, reads⟩
  obtain ⟨declares, checksum⟩ := Content.declares_of_model reads
  obtain ⟨origin, declared, source, drawn, declaring, source_mem, key, compiled⟩ :=
    keeps.entries cache kept _ (Cache.mem_of_get? found)
  simp only [Engine.key, CacheKey.mk.injEq] at key
  exact alike drawn among (key.1.symm.trans checksum) declaring declares source source_mem
    definition member key.2.symm decision.table compiled

theorem Engine.Keeps.stored (read : ReadFrom contents model) (member : definition ∈ model.decisions)
    {table : CompiledTable} (compiled : definition.compile options = .ok table) (number : Nat) :
    CompiledFrom contents options (Engine.key model definition, ⟨number, table⟩) := by
  rcases read with ⟨content, label, among, reads⟩
  obtain ⟨declares, checksum⟩ := Content.declares_of_model reads
  exact ⟨content, model.decisions, definition, among, declares, member,
    by rw [Engine.key, checksum], compiled⟩

/-- Compiling in an engine that keeps decisions of contents that compile alike. -/
theorem Engine.Keeps.compile (keeps : engine.Keeps contents options)
    (alike : CompileAlike options contents) (read : ReadFrom contents model)
    (member : definition ∈ model.decisions) :
    (engine.compile model definition).1.map Decision.table = Afresh.compile options definition ∧
      (engine.compile model definition).2.Keeps contents options := by
  cases kept : engine.cache with
  | none =>
      rw [Engine.compile_without_cache kept, Engine.compileNew, keeps.options_eq]
      cases compiled : definition.compile options with
      | error error => exact ⟨(Afresh.compile_error compiled).symm, keeps⟩
      | ok table =>
          exact ⟨(Afresh.compile_ok compiled).symm, ⟨keeps.options_eq, keeps.entries⟩⟩
  | some cache =>
      cases found : cache.get? (Engine.key model definition) with
      | some decision =>
          have compiled := keeps.hit alike read member kept found
          rw [Engine.compile_hit kept found]
          refine ⟨(Afresh.compile_ok compiled).symm, ⟨keeps.options_eq, ?_⟩⟩
          intro _ shown entry among
          cases shown
          simp only [Cache.lookup, found] at among
          obtain ⟨before, _⟩ | rfl := Cache.mem_touch_iff.mp among
          · exact keeps.entries cache kept entry before
          · exact keeps.entries cache kept _ (Cache.mem_of_get? found)
      | none =>
          rw [Engine.compile_miss kept found, keeps.options_eq]
          cases compiled : definition.compile options with
          | error error =>
              refine ⟨(Afresh.compile_error compiled).symm, ⟨keeps.options_eq, ?_⟩⟩
              intro _ shown
              cases shown
              exact keeps.entries cache kept
          | ok table =>
              have missed : ({ cache with misses := cache.misses + 1 } : Cache Decision).get?
                  (Engine.key model definition) = none := found
              obtain ⟨given, entries⟩ :=
                Cache.store_of_get?_none missed ⟨engine.compiled, table⟩
              refine ⟨?_, ⟨keeps.options_eq, ?_⟩⟩
              · simp only [given, Except.map_ok, Afresh.compile_ok compiled]
              · intro _ shown entry among
                cases shown
                obtain before | rfl := entries entry among
                · exact keeps.entries cache kept entry before
                · exact Engine.Keeps.stored read member compiled _

theorem Engine.Keeps.clear (keeps : engine.Keeps contents options) :
    engine.clear.2.Keeps contents options := by
  unfold Engine.clear
  cases kept : engine.cache with
  | none => exact keeps
  | some cache =>
      refine ⟨keeps.options_eq, ?_⟩
      intro _ shown entry member
      cases shown
      cases member

theorem Engine.keeps_afresh (alike : CompileAlike options contents) :
    CompilesAfresh options (Engine.Keeps contents options) (ReadFrom contents) :=
  ⟨fun keeps read member => keeps.compile alike read member, fun keeps => keeps.clear⟩

theorem Engine.keeps_ofSettings (settings : Settings) :
    (Engine.ofSettings settings).Keeps contents settings.compilerOptions := by
  refine ⟨rfl, ?_⟩
  intro cache shown entry member
  rw [Engine.ofSettings] at shown
  split at shown
  · cases shown
    cases member
  · cases shown

/-- An engine without a cache compiles afresh whatever it is asked for. -/
theorem Engine.uncached_afresh :
    CompilesAfresh options
      (fun engine => engine.cache = none ∧ engine.settings.compilerOptions = options)
      fun _ => True := by
  constructor
  · intro engine model definition shown _ _
    rcases shown with ⟨none, rfl⟩
    rw [Engine.compile_without_cache none, Engine.compileNew]
    cases compiled : definition.compile engine.settings.compilerOptions with
    | error error => exact ⟨(Afresh.compile_error compiled).symm, none, rfl⟩
    | ok table => exact ⟨(Afresh.compile_ok compiled).symm, none, rfl⟩
  · intro engine shown
    rcases shown with ⟨none, same⟩
    rw [Engine.clear_without_cache none]
    exact ⟨none, same⟩

end Keeps

/-! ## Engines with and without a cache -/

def Settings.cached (settings : Settings) : Settings :=
  { settings with cacheEnabled := true }

def Settings.uncached (settings : Settings) : Settings :=
  { settings with cacheEnabled := false }

/-- Whether the source of a request has one of some contents, or none at all. -/
def Request.DrawnFrom (contents : Content → Prop) : Request → Prop
  | .decision source _ | .decisions source | .evaluate source _ _ => source.DrawnFrom contents
  | .clear => True

/-- Whether an engine that keeps decisions answers every list of requests for some contents as one
that keeps none. -/
def Transparent (settings : Settings) (contents : Content → Prop) : Prop :=
  ∀ requests : List Request, (∀ request ∈ requests, request.DrawnFrom contents) →
    (Engine.ofSettings settings.cached).answers requests =
      (Engine.ofSettings settings.uncached).answers requests

section Transparent

variable {settings : Settings} {contents : Content → Prop}

theorem Request.DrawnFrom.served {request : Request} (drawn : request.DrawnFrom contents) :
    request.Served (ReadFrom contents) := by
  cases request with
  | clear => trivial
  | decision | decisions | evaluate =>
      intro model read
      exact ModelSource.DrawnFrom.content drawn read

theorem answers_uncached (requests : List Request) :
    (Engine.ofSettings settings.uncached).answers requests =
      requests.map (Afresh.answer settings.compilerOptions) := by
  apply Engine.uncached_afresh.answers ⟨rfl, rfl⟩
  intro request _
  cases request with
  | clear => trivial
  | decision | decisions | evaluate => exact fun _ _ => trivial

/-- If contents of one checksum compile alike, the cache is transparent. -/
theorem transparent_of_alike (alike : CompileAlike settings.compilerOptions contents) :
    Transparent settings contents := by
  intro requests drawn
  rw [answers_uncached]
  apply (Engine.keeps_afresh alike).answers (Engine.keeps_ofSettings settings.cached)
  intro request member
  exact (drawn request member).served

/-- A decision that a content declares is selected by its id. -/
theorem Content.Declares.selected {content : Content} {declared : List DecisionDefinition}
    (declares : content.Declares declared) {definition : DecisionDefinition}
    (member : definition ∈ declared) :
    ∃ model, Model.ofSource content.source = .ok model ∧ model.checksum = content.checksum ∧
      model.select (some definition.id) = .ok definition := by
  obtain ⟨model, read, rfl, checksum⟩ := declares.model Model.anonymousLabel
  refine ⟨model, by rw [Content.ofSource_source, read], checksum, ?_⟩
  exact Model.select_of_distinct (Content.decisionIds_nodup read) member

/-- What an unused engine compiles first, it finds again. -/
theorem Engine.compile_first (model : Model) {definition : DecisionDefinition}
    {table : CompiledTable}
    (compiled : definition.compile settings.compilerOptions = .ok table) :
    ∃ decision after cache,
      (Engine.ofSettings settings.cached).compile model definition = (.ok decision, after) ∧
      decision.table = table ∧ after.cache = some cache ∧
      cache.get? (Engine.key model definition) = some decision := by
  have keeps : (Engine.ofSettings settings.cached).cache =
      some (Cache.empty settings.cacheCapacity settings.capacity_positive) := rfl
  have options : (Engine.ofSettings settings.cached).settings.compilerOptions =
      settings.compilerOptions := rfl
  rw [Engine.compile_miss keeps rfl, options, compiled]
  exact ⟨_, _, _, rfl, rfl, rfl, Cache.get?_store_of_empty rfl⟩

/-- An engine that has compiled one decision gives it for every decision under its key. -/
theorem answers_pair {first second : Content} (same : first.checksum = second.checksum)
    {declared others : List DecisionDefinition} (declares : first.Declares declared)
    (declaring : second.Declares others) {definition other : DecisionDefinition}
    (member : definition ∈ declared) (among : other ∈ others) (ids : definition.id = other.id)
    {table : CompiledTable}
    (compiled : definition.compile settings.compilerOptions = .ok table) :
    (Engine.ofSettings settings.cached).answers
        [.decision first.source (some definition.id), .decision second.source (some other.id)] =
      [.decision (.ok table), .decision (.ok table)] := by
  obtain ⟨model, read, checksum, selected⟩ := declares.selected member
  obtain ⟨again, reread, rechecksum, reselected⟩ := declaring.selected among
  have key : Engine.key again other = Engine.key model definition := by
    rw [Engine.key, Engine.key, rechecksum, checksum, same, ids]
  obtain ⟨decision, after, cache, result, rfl, kept, found⟩ :=
    Engine.compile_first model compiled
  rw [← key] at found
  have hit := Engine.compile_hit kept found
  simp only [Engine.answers, Engine.answer, Engine.decision, read, reread, selected, reselected,
    result, hit, Except.map_ok]

/-- A transparent cache shows that contents of one checksum compile alike. -/
theorem alike_of_transparent (transparent : Transparent settings contents) :
    CompileAlike settings.compilerOptions contents := by
  intro first second drawn also same declared others declares declaring definition member other
    among ids table compiled
  have answered := transparent
    [.decision first.source (some definition.id), .decision second.source (some other.id)]
    (by simp [Request.DrawnFrom, Content.source_drawnFrom drawn, Content.source_drawnFrom also])
  rw [answers_pair same declares declaring member among ids compiled, answers_uncached] at answered
  obtain ⟨model, read, _, selected⟩ := declaring.selected among
  simp only [List.map_cons, List.map_nil, List.cons.injEq, Afresh.answer, Answer.decision.injEq,
    Afresh.decision, read, selected, and_true] at answered
  have afresh : Afresh.compile settings.compilerOptions other = .ok table := answered.2.symm
  unfold Afresh.compile at afresh
  split at afresh
  · rename_i recompiled
    cases afresh
    exact recompiled
  · cases afresh

theorem transparent_iff_alike :
    Transparent settings contents ↔ CompileAlike settings.compilerOptions contents :=
  ⟨alike_of_transparent, transparent_of_alike⟩

end Transparent

/-! ## Where the cache is transparent -/

/-- Whether only the same bytes have one checksum, among the contents at hand. -/
def NoCollisions (contents : Content → Prop) : Prop :=
  ∀ {first second : Content}, contents first → contents second →
    first.checksum = second.checksum → first.encoded = second.encoded

/-- Whether every text compiles as its UTF-8 form does, where both are at hand: what both declare
under one id is compiled to the same table, or to none in either. -/
def TextsCompileAsBytes (options : CompilerOptions) (contents : Content → Prop) : Prop :=
  ∀ text, contents (.text text) → contents (.bytes text.toUTF8.toList) →
    ∀ {declared others : List DecisionDefinition}, (Content.text text).Declares declared →
      (Content.bytes text.toUTF8.toList).Declares others →
        ∀ definition ∈ declared, ∀ other ∈ others, definition.id = other.id →
          ∀ table, definition.compile options = .ok table ↔ other.compile options = .ok table

theorem alike_iff_texts {options : CompilerOptions} {contents : Content → Prop}
    (unique : NoCollisions contents) :
    CompileAlike options contents ↔ TextsCompileAsBytes options contents := by
  constructor
  · intro alike text drawn also declared others declares declaring definition member other among ids
      table
    constructor
    · exact alike drawn also rfl declares declaring definition member other among ids table
    · exact alike also drawn rfl declaring declares other among definition member ids.symm table
  · intro texts first second drawn also checksum declared others declares declaring definition
      member other among ids table compiled
    have encoded := unique drawn also checksum
    -- Contents of one kind are the same, and so are the decisions that they declare under one id.
    have same : first = second → other.compile options = .ok table := by
      rintro rfl
      cases declares.unique declaring
      rw [← declares.eq_of_id member among ids]
      exact compiled
    cases first with
    | bytes bytes =>
        cases second with
        | bytes others =>
            cases encoded
            exact same rfl
        | text text =>
            cases encoded
            exact (texts text also drawn declaring declares other among definition member ids.symm
              table).mpr compiled
    | text text =>
        cases second with
        | bytes bytes =>
            cases encoded
            exact (texts text drawn also declares declaring definition member other among ids
              table).mp compiled
        | text other =>
            cases utf8_injective encoded
            exact same rfl

/-- Without collisions of checksums the cache is transparent exactly if every text that is asked for
compiles as the bytes of its UTF-8 form do, if these are asked for as well. -/
theorem transparent_iff (settings : Settings) {contents : Content → Prop}
    (unique : NoCollisions contents) :
    Transparent settings contents ↔ TextsCompileAsBytes settings.compilerOptions contents :=
  transparent_iff_alike.trans (alike_iff_texts unique)

/-- A text that declares another encoding than the one its checksum is taken in. -/
def accentedText : String :=
  "<?xml version='1.0' encoding='iso-8859-1'?><definitions><decision id='d'><decisionTable>" ++
    "<output/><rule><outputEntry><text>\"é\"</text></outputEntry></rule>" ++
    "</decisionTable></decision></definitions>"

/-- The text, and the bytes of its UTF-8 form. -/
def accentedContents (content : Content) : Prop :=
  content = .text accentedText ∨ content = .bytes accentedText.toUTF8.toList

theorem accentedContents_transparent_iff :
    NoCollisions accentedContents ∧
      (Transparent .default accentedContents ↔
        TextsCompileAsBytes Settings.default.compilerOptions accentedContents) := by
  have unique : NoCollisions accentedContents := by
    rintro first second (rfl | rfl) (rfl | rfl) _ <;> rfl
  exact ⟨unique, transparent_iff .default unique⟩

/-- An engine that is never asked for texts cannot be told from one without a cache. -/
theorem transparent_without_texts (settings : Settings) {contents : Content → Prop}
    (unique : NoCollisions contents) (untexted : ∀ text, ¬contents (.text text)) :
    Transparent settings contents := by
  refine transparent_of_alike ((alike_iff_texts unique).mpr ?_)
  intro text drawn
  exact absurd drawn (untexted text)

end DecisionTables
