import DecisionTables.Proofs.Expression.Closed
import DecisionTables.Proofs.Table.Results

/-!
# How tables reflect their declaration

What every part of a declaration becomes when it is compiled: a column, an allowed value, a rule.
Each is a relation that says nothing about the order in which the parts are looked at, and the
compilation of the part succeeds with exactly the related results.
-/

namespace DecisionTables

/-! ## Columns -/

/-- The id of a part at an index: its own or, if that is missing or empty, a generated one. -/
inductive Identified (kind : String) (index : Nat) : Option String → String → Prop
  | own {id : String} : id ≠ "" → Identified kind index (some id) id
  | empty : Identified kind index (some "") (kind ++ toString index)
  | missing : Identified kind index none (kind ++ toString index)

/-- The name of an output column: its own or, if that is missing or empty and there is no other
column, the id of the decision. -/
inductive OutputNamed (decisionId : String) (single : Prop) : Option String → String → Prop
  | own {name : String} : name ≠ "" → OutputNamed decisionId single (some name) name
  | empty : single → OutputNamed decisionId single (some "") decisionId
  | missing : single → OutputNamed decisionId single none decisionId

/-- The allowed value of a text: its value without variables, in the type of its column. Only in
lenient mode it may be of another type. -/
inductive AllowedValue (strict : Bool) (typeRef : Option String) (text : String) : Value → Prop
  | converted {expression : CompiledExpression} {value converted : Value} :
      CompiledExpression.compile text = .ok expression →
      expression.evaluate (.ofBindings []) = .ok value →
      value.convert? typeRef = some converted → AllowedValue strict typeRef text converted
  | unconverted {expression : CompiledExpression} {value : Value} :
      CompiledExpression.compile text = .ok expression →
      expression.evaluate (.ofBindings []) = .ok value →
      value.convert? typeRef = none → strict = false → AllowedValue strict typeRef text value

/-- Allowed values are elementary. -/
theorem AllowedValue.elementary {strict : Bool} {typeRef : Option String} {text : String}
    {value : Value} (allowed : AllowedValue strict typeRef text value) : value.Elementary := by
  have computed {expression : CompiledExpression} {value : Value}
      (read : CompiledExpression.compile text = .ok expression)
      (evaluates : expression.evaluate (.ofBindings []) = .ok value) : value.Elementary :=
    Expression.elementary_of_evaluate (CompiledExpression.elementary_of_compile read)
      (CompiledExpression.evaluate_eq_ok_iff.mp evaluates)
  cases allowed with
  | converted read evaluates converted =>
      exact Value.closed_elementary.of_convert? (computed read evaluates) converted
  | unconverted read evaluates => exact computed read evaluates

/-- What an input column at an index becomes. -/
structure InputClause.Becomes (clause : InputClause) (index : Nat) (column : CompiledInput) :
    Prop where
  id : Identified "input" index clause.id column.id
  label : column.label = clause.label
  expression : CompiledExpression.compile clause.expression = .ok column.expression
  typeRef : column.typeRef = clause.typeRef.bind TypeRef.normalize

/-- What an output column at an index becomes. -/
structure OutputClause.Becomes (strict : Bool) (decisionId : String) (single : Prop)
    (clause : OutputClause) (index : Nat) (column : CompiledOutput) : Prop where
  id : Identified "output" index clause.id column.id
  name : OutputNamed decisionId single clause.name column.name
  label : column.label = clause.label
  typeRef : column.typeRef = clause.typeRef.bind TypeRef.normalize
  priorities :
    List.Forall₂ (AllowedValue strict (clause.typeRef.bind TypeRef.normalize)) clause.outputValues
      column.priorities

/-! ## Rules -/

/-- What an input entry becomes. -/
inductive Condition (text : String) : Option CompiledTests → Prop
  | wildcard : isWildcardEntry text = true → Condition text none
  | tests {tests : CompiledTests} :
      isWildcardEntry text = false → CompiledTests.compile text = .ok tests →
      Condition text (some tests)

/-- What a rule at an index becomes in a table with given numbers of columns. -/
structure RuleDefinition.Becomes (inputs outputs : Nat) (definition : RuleDefinition) (index : Nat)
    (rule : CompiledRule) : Prop where
  id : Identified "rule" index definition.id rule.id
  index : rule.index = index
  description : rule.description = definition.description
  inputCount : definition.inputEntries.length = inputs
  outputCount : definition.outputEntries.length = outputs
  conditions : List.Forall₂ Condition definition.inputEntries rule.conditions
  outputs :
    List.Forall₂ (fun text expression => CompiledExpression.compile text = .ok expression)
      definition.outputEntries rule.outputs

/-! ## Compilation -/

/-- An id identifies a part exactly if it is the one that compilation gives it. -/
theorem identified_iff {kind : String} {index : Nat} {declared : Option String} {id : String} :
    Identified kind index declared id ↔ id = idOr declared kind index := by
  constructor
  · intro identified
    cases identified with
    | own nonempty => simp [idOr, nonempty]
    | empty => rfl
    | missing => rfl
  · intro same
    subst same
    cases declared with
    | none => exact .missing
    | some text =>
        by_cases empty : text = ""
        · subst empty
          exact .empty
        · simpa [idOr, empty] using Identified.own empty

namespace Compile

variable {options : CompilerOptions} {decisionId ruleId columnId : String} {index : Nat}

theorem input_eq_ok_iff {clause : InputClause} {column : CompiledInput} :
    input decisionId index clause = .ok column ↔ clause.Becomes index column := by
  simp only [input, Except.bind_eq_ok_iff, ofRead_eq_ok_iff, Except.pure_eq_ok, Except.ok.injEq]
  constructor
  · intro compiled
    obtain ⟨expression, read, rfl⟩ := compiled
    exact ⟨identified_iff.mpr rfl, rfl, read, rfl⟩
  · intro becomes
    obtain ⟨id, label, expression, typeRef⟩ := column
    obtain ⟨identified, rfl, read, rfl⟩ := becomes
    obtain rfl := identified_iff.mp identified
    exact ⟨expression, read, rfl⟩

theorem constant_eq_ok_iff {typeRef : Option String} {text : String} {value : Value} :
    constant options decisionId columnId typeRef text = .ok value ↔
      AllowedValue options.strict typeRef text value := by
  simp only [constant, Except.bind_eq_ok_iff, ofRead_eq_ok_iff]
  constructor
  · intro compiled
    obtain ⟨expression, read, compiled⟩ := compiled
    rcases evaluated : expression.evaluate (.ofBindings []) with (error | fault) | found
    · simp [evaluated] at compiled
    · simp [evaluated] at compiled
    · simp only [evaluated, Value.coerce] at compiled
      cases converted : found.convert? typeRef with
      | some result =>
          simp only [converted, Except.pure_eq_ok, Except.ok.injEq] at compiled
          subst compiled
          exact .converted read evaluated converted
      | none =>
          cases strict : options.strict with
          | false =>
              simp only [converted, strict, Bool.false_eq_true, if_false, Except.pure_eq_ok,
                Except.ok.injEq] at compiled
              subst compiled
              exact .unconverted read evaluated converted rfl
          | true =>
              simp only [converted, strict, if_true] at compiled
              cases refused : found.refuse (typeRef.getD "") <;> simp [refused] at compiled
  · intro allowed
    cases allowed with
    | converted read evaluated converted =>
        refine ⟨_, read, ?_⟩
        simp [evaluated, Value.coerce, converted]
    | unconverted read evaluated unconverted lenient =>
        refine ⟨_, read, ?_⟩
        simp [evaluated, Value.coerce, unconverted, lenient]

theorem constants_eq_ok_iff {typeRef : Option String} {texts : List String} {values : List Value} :
    constants options decisionId columnId typeRef texts = .ok values ↔
      List.Forall₂ (AllowedValue options.strict typeRef) texts values := by
  induction texts generalizing values with
  | nil => simp [constants, eq_comm]
  | cons text rest ih =>
      simp only [constants, Except.bind_eq_ok_iff, constant_eq_ok_iff, ih, Except.pure_eq_ok,
        Except.ok.injEq, List.forall₂_cons_left_iff, exists_and_left, @eq_comm _ values]

theorem outputName_eq_ok_iff {single : Bool} {clause : OutputClause} {name : String} :
    outputName decisionId single index clause = .ok name ↔
      OutputNamed decisionId (single = true) clause.name name := by
  rw [outputName]
  generalize clause.name = declared
  constructor
  · intro compiled
    rcases declared with _ | text
    · cases single with
      | false => cases compiled
      | true =>
          cases compiled
          exact .missing rfl
    · by_cases empty : text = ""
      · subst empty
        cases single with
        | false => cases compiled
        | true =>
            cases compiled
            exact .empty rfl
      · have kept : (some text).filter (fun name => !name.isEmpty) = some text := by
          simp [Option.filter, empty]
        rw [kept] at compiled
        cases compiled
        exact .own empty
  · intro named
    cases named with
    | own nonempty => simp [Option.filter, nonempty]
    | empty alone => simp [Option.filter, alone]
    | missing alone => simp [alone]

/-- Output columns that compile are what their clauses become. -/
theorem becomes_of_outputsFrom {single : Bool} {seen : List String} {clauses : List OutputClause}
    {columns : List CompiledOutput}
    (compiled : outputsFrom options decisionId single index seen clauses = .ok columns) :
    List.Forall₂ (fun item column =>
        item.1.Becomes options.strict decisionId (single = true) item.2 column)
      (clauses.zipIdx index) columns := by
  induction clauses generalizing index seen columns with
  | nil =>
      cases compiled
      exact .nil
  | cons clause rest ih =>
      simp only [outputsFrom, Except.bind_eq_ok_iff] at compiled
      obtain ⟨name, named, compiled⟩ := compiled
      split at compiled
      · cases compiled
      · simp only [Except.bind_eq_ok_iff, Except.pure_eq_ok, Except.ok.injEq] at compiled
        obtain ⟨priorities, allowed, others, remaining, rfl⟩ := compiled
        exact .cons ⟨identified_iff.mpr rfl, outputName_eq_ok_iff.mp named, rfl, rfl,
          constants_eq_ok_iff.mp allowed⟩ (ih remaining)

/-- What clauses become compiles if the names are distinct and none has been seen before. -/
theorem outputsFrom_of_becomes {single : Bool} {seen : List String} {clauses : List OutputClause}
    {columns : List CompiledOutput}
    (become : List.Forall₂ (fun item column =>
        item.1.Becomes options.strict decisionId (single = true) item.2 column)
      (clauses.zipIdx index) columns)
    (distinct : (columns.map CompiledOutput.name).Nodup)
    (unseen : ∀ column ∈ columns, column.name ∉ seen) :
    outputsFrom options decisionId single index seen clauses = .ok columns := by
  induction clauses generalizing index seen columns with
  | nil =>
      cases become
      rfl
  | cons clause rest ih =>
      rw [List.zipIdx_cons] at become
      rcases become with _ | ⟨first, others⟩
      rename_i column columns
      obtain ⟨fresh, others_distinct⟩ := List.nodup_cons.mp distinct
      obtain ⟨new, others_unseen⟩ := List.forall_mem_cons.mp unseen
      obtain ⟨id, name, label, typeRef, priorities⟩ := column
      obtain ⟨identified, named, rfl, rfl, allowed⟩ := first
      obtain rfl := identified_iff.mp identified
      -- A name of the rest is not that of this column, so it is still fresh once this one is seen.
      have remaining : outputsFrom options decisionId single (index + 1) (name :: seen) rest =
          .ok columns := by
        apply ih others others_distinct
        intro column member among
        rcases List.mem_cons.mp among with same | among
        · have repeated : column.name ∈ columns.map CompiledOutput.name :=
            List.mem_map_of_mem member
          exact fresh (same ▸ repeated)
        · exact others_unseen column member among
      simp only [outputsFrom, outputName_eq_ok_iff.mpr named, Except.ok_bind,
        constants_eq_ok_iff.mpr allowed, remaining]
      simp [new]

/-- The condition of an entry compiles to what the entry becomes. -/
theorem condition_eq_ok_iff {text : String} {found : Option CompiledTests} :
    condition decisionId ruleId columnId text = .ok found ↔ Condition text found := by
  simp only [condition]
  constructor
  · intro compiled
    split at compiled
    · rename_i wildcard
      cases compiled
      exact .wildcard wildcard
    · rename_i ordinary
      rw [Bool.not_eq_true] at ordinary
      obtain ⟨tests, read, rfl⟩ := Except.map_eq_ok_iff.mp compiled
      exact .tests ordinary (ofRead_eq_ok_iff.mp read)
  · intro becomes
    cases becomes with
    | wildcard wildcard => rw [if_pos wildcard]
    | tests ordinary read =>
        rw [ordinary, if_neg Bool.false_ne_true, read]
        rfl

theorem rule_eq_ok_iff {inputs : List CompiledInput} {outputs : List CompiledOutput}
    {definition : RuleDefinition} {compiled : CompiledRule} :
    rule decisionId inputs outputs index definition = .ok compiled ↔
      definition.Becomes inputs.length outputs.length index compiled := by
  have eachCondition columnId text result :
      condition decisionId (idOr definition.id "rule" index) columnId text = .ok result ↔
        Condition text result :=
    condition_eq_ok_iff
  have eachOutput columnId text result :
      outputEntry decisionId (idOr definition.id "rule" index) columnId text = .ok result ↔
        CompiledExpression.compile text = .ok result :=
    ofRead_eq_ok_iff
  simp only [rule]
  constructor
  · intro succeeded
    split at succeeded
    · cases succeeded
    · rename_i inputCount
      split at succeeded
      · cases succeeded
      · rename_i outputCount
        simp only [Except.bind_eq_ok_iff, Except.pure_eq_ok, Except.ok.injEq] at succeeded
        obtain ⟨conditions, tested, expressions, given, rfl⟩ := succeeded
        have inputCount := Decidable.not_not.mp inputCount
        have outputCount := Decidable.not_not.mp outputCount
        exact ⟨identified_iff.mpr rfl, rfl, rfl, inputCount, outputCount,
          (forCells_eq_ok_iff_of_texts eachCondition (by simpa using inputCount)).mp tested,
          (forCells_eq_ok_iff_of_texts eachOutput (by simpa using outputCount)).mp given⟩
  · intro becomes
    obtain ⟨id, number, description, conditions, expressions⟩ := compiled
    obtain ⟨identified, numbered, rfl, inputCount, outputCount, tested, given⟩ := becomes
    obtain rfl : number = index := numbered
    obtain rfl : id = idOr definition.id "rule" number := identified_iff.mp identified
    have tested : forCells (condition decisionId (idOr definition.id "rule" number))
        (inputs.map CompiledInput.id) definition.inputEntries = .ok conditions :=
      (forCells_eq_ok_iff_of_texts eachCondition (by simpa using inputCount)).mpr tested
    have given : forCells (outputEntry decisionId (idOr definition.id "rule" number))
        (outputs.map CompiledOutput.id) definition.outputEntries = .ok expressions :=
      (forCells_eq_ok_iff_of_texts eachOutput (by simpa using outputCount)).mpr given
    simp only [inputCount, outputCount, ne_eq, not_true_eq_false, if_false, tested, given,
      Except.ok_bind, Except.pure_eq_ok]

end Compile

end DecisionTables
