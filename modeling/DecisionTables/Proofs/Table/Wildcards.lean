import DecisionTables.Proofs.Expression.Layout
import DecisionTables.Proofs.Table.Acceptance
import DecisionTables.Proofs.Table.Scan
import DecisionTables.Proofs.Text.Trimming
import DecisionTables.Proofs.UnaryTest.Readers

/-!
# Wildcards

An input entry that is blank or a dash is not compiled: compilation looks at its text alone and
leaves its cell without a condition. The reader decides the same on the tokens of the text, so that
a cell without a condition does what the tests of its entry would do, and no other entry accepts
every subject without looking at it.
-/

namespace DecisionTables

/-! ## The tokens of a wildcard -/

/-- Whether characters are a dash with blanks around it. -/
def LoneDash (characters : List Char) : Prop :=
  ∃ front back, characters = front ++ ('-' :: back) ∧ AllBlank front ∧ AllBlank back

namespace Lexer

variable {first : Char} {rest characters : List Char} {start further : Nat} {token : Token}

theorem lexeme_eq_minus_iff :
    lexeme first rest = .ok ⟨.symbol .minus, further⟩ ↔ first = '-' ∧ further = 0 := by
  constructor
  · intro read
    generalize read_eq : (⟨.symbol .minus, further⟩ : Lexed) = lexed at read
    cases takes_of_lexeme read with
    | number starts read =>
        obtain ⟨kind, _⟩ := number_extent starts read
        rcases kind with ⟨_, kind⟩ | ⟨_, kind⟩
        all_goals simp [← read_eq] at kind
    | text => cases read_eq
    | name => cases read_eq
    | symbol found =>
        cases read_eq
        unfold symbol? at found
        split at found
        case h_9 first _ shown =>
          cases shown
          cases found
          exact ⟨rfl, rfl⟩
        all_goals cases found
  · rintro ⟨rfl, rfl⟩
    exact (Takes.symbol rfl).lexeme

theorem tokensFrom_eq_nil_iff : tokensFrom start characters = .ok [] ↔ AllBlank characters := by
  constructor
  · exact allBlank_of_tokensFrom
  · intro blank
    have skipped := tokensFrom_gap start [] blank
    rwa [List.append_nil, tokensFrom] at skipped

/-- Characters that give the only token minus are a dash with blanks around it. -/
theorem loneDash_of_tokensFrom (read : tokensFrom start characters = .ok [token])
    (minus : token.lexeme = .symbol .minus) : LoneDash characters := by
  fun_induction tokensFrom start characters with
  | case1 => cases read
  | case2 start first rest blank ih =>
      obtain ⟨front, back, rfl, begun, ended⟩ := ih read
      exact ⟨first :: front, back, rfl, List.forall_mem_cons.mpr ⟨blank, begun⟩, ended⟩
  | case3 => cases read
  | case4 => cases read
  | case5 start first rest solid lexed found others following ih =>
      obtain ⟨lexeme, further⟩ := lexed
      cases read
      obtain rfl : lexeme = .symbol .minus := minus
      obtain ⟨rfl, rfl⟩ := lexeme_eq_minus_iff.mp found
      exact ⟨[], rest, rfl, List.forall_mem_nil _, tokensFrom_eq_nil_iff.mp following⟩

theorem tokensFrom_loneDash (start : Nat) (lone : LoneDash characters) :
    ∃ token, tokensFrom start characters = .ok [token] ∧ token.lexeme = .symbol .minus := by
  obtain ⟨front, back, rfl, begun, ended⟩ := lone
  refine ⟨⟨.symbol .minus, start + front.length⟩, ?_, rfl⟩
  have dash : lexeme '-' back = .ok ⟨.symbol .minus, 0⟩ := lexeme_eq_minus_iff.mpr ⟨rfl, rfl⟩
  have solid : Text.isBlank '-' = false := by decide
  have nothing : tokensFrom (start + front.length + 1) back = .ok [] :=
    tokensFrom_eq_nil_iff.mpr ended
  rw [tokensFrom_gap _ _ begun]
  simp only [tokensFrom, solid, dash, Nat.add_zero, List.drop_zero, nothing, Bool.false_eq_true,
    if_false]

end Lexer

/-! ## The shortcut and the reader -/

theorem isWildcardEntry_iff {text : String} :
    isWildcardEntry text = true ↔ AllBlank text.toList ∨ LoneDash text.toList := by
  have blank : AllBlank text.toList ↔ Text.trimmed text.toList = [] :=
    Text.trimmed_eq_nil_iff.symm
  have dash : LoneDash text.toList ↔ Text.trimmed text.toList = ['-'] := by
    have clean : Text.trimmed ['-'] = ['-'] := by decide
    simp only [Text.trimmed_eq_iff, clean, true_and]
    rfl
  rw [blank, dash, isWildcardEntry]
  split <;> simp_all

namespace UnaryTests

/-- The reader takes tokens for the entry that accepts any subject exactly if there are none or
minus is the only one. -/
theorem ofTokens_isWildcard_iff {tokens : List Token} :
    (∃ entry, ofTokens tokens = .ok entry ∧ entry.isWildcard = true) ↔
      tokens = [] ∨ ∃ token, tokens = [token] ∧ token.lexeme = .symbol .minus := by
  have read : (∃ entry, ofTokens tokens = .ok entry ∧ entry.isWildcard = true) ↔
      isAnyEntry tokens = true := by
    constructor
    · rintro ⟨entry, read, wildcard⟩
      obtain ⟨any, _⟩ | ⟨_, ⟨_, _, _, _, _, _, rfl⟩ | ⟨_, _, _, rfl⟩⟩ := ofTokens_eq_ok_iff.mp read
      · exact any
      · cases wildcard
      · cases wildcard
    · intro any
      exact ⟨.any, ofTokens_eq_ok_iff.mpr (.inl ⟨any, rfl⟩), rfl⟩
  rw [read]
  match tokens with
  | [] => simp [isAnyEntry]
  | [token] => simp [isAnyEntry]
  | first :: second :: rest => simp [isAnyEntry]

end UnaryTests

/-- An entry is a wildcard by its text exactly if it is read and accepts any subject. -/
theorem isWildcardEntry_iff_compile {text : String} :
    isWildcardEntry text = true ↔
      ∃ tests, CompiledTests.compile text = .ok tests ∧ tests.body.isWildcard = true := by
  have compiled : (∃ tests, CompiledTests.compile text = .ok tests ∧
      tests.body.isWildcard = true) ↔ ∃ tokens, tokenize text = .ok tokens ∧
        ∃ entry, UnaryTests.ofTokens tokens = .ok entry ∧ entry.isWildcard = true := by
    simp only [CompiledTests.compile, Except.map_eq_ok_iff, UnaryTests.parse_eq_ok_iff]
    constructor
    · rintro ⟨_, ⟨entry, ⟨tokens, tokenized, read⟩, rfl⟩, wildcard⟩
      exact ⟨tokens, tokenized, entry, read, wildcard⟩
    · rintro ⟨tokens, tokenized, entry, read, wildcard⟩
      exact ⟨_, ⟨entry, ⟨tokens, tokenized, read⟩, rfl⟩, wildcard⟩
  rw [isWildcardEntry_iff, compiled]
  simp only [UnaryTests.ofTokens_isWildcard_iff, tokenize_eq_ok_iff]
  constructor
  · rintro (blank | lone)
    · exact ⟨[], Lexer.tokensFrom_eq_nil_iff.mpr blank, .inl rfl⟩
    · obtain ⟨token, read, minus⟩ := Lexer.tokensFrom_loneDash 0 lone
      exact ⟨[token], read, .inr ⟨token, rfl, minus⟩⟩
  · rintro ⟨tokens, read, rfl | ⟨token, rfl, minus⟩⟩
    · exact .inl (Lexer.tokensFrom_eq_nil_iff.mp read)
    · exact .inr (Lexer.loneDash_of_tokensFrom read minus)

/-! ## Cells without a condition -/

/-- The condition that tests come to: none if they accept every subject. -/
def CompiledTests.condition (tests : CompiledTests) : Option CompiledTests :=
  if tests.body.isWildcard then none else some tests

namespace Compile

/-- The tests of an input entry, which is read whatever its text. -/
def tests (decisionId ruleId columnId text : String) : Compiled CompiledTests :=
  ofRead decisionId (some ruleId) columnId (CompiledTests.compile text)

variable {decisionId ruleId columnId : String}

/-- The condition of an entry is what its tests come to, and it fails as they do. -/
theorem condition_eq (text : String) :
    condition decisionId ruleId columnId text =
      (tests decisionId ruleId columnId text).map CompiledTests.condition := by
  rw [condition, tests]
  split
  · rename_i wildcard
    obtain ⟨tests, read, accepting⟩ := isWildcardEntry_iff_compile.mp wildcard
    rw [read, ofRead, Except.map_ok, CompiledTests.condition, if_pos accepting]
  · rename_i ordinary
    cases read : CompiledTests.compile text with
    | error error => cases error <;> rfl
    | ok tests =>
        have tested : ¬tests.body.isWildcard = true := fun accepting =>
          ordinary (isWildcardEntry_iff_compile.mpr ⟨tests, read, accepting⟩)
        rw [ofRead, Except.map_ok, Except.map_ok, CompiledTests.condition, if_neg tested]

theorem conditions_eq (columnIds texts : List String) :
    forCells (condition decisionId ruleId) columnIds texts =
      (forCells (tests decisionId ruleId) columnIds texts).map
        (List.map CompiledTests.condition) := by
  induction columnIds generalizing texts with
  | nil => rfl
  | cons columnId columnIds ih =>
      cases texts with
      | nil => rfl
      | cons text texts =>
          rw [forCells_cons, forCells_cons, condition_eq, ih]
          cases tests decisionId ruleId columnId text with
          | error => rfl
          | ok first => cases forCells (tests decisionId ruleId) columnIds texts <;> rfl

end Compile

namespace CompiledTable

variable {table : CompiledTable} {context : Context}

theorem conditionOutcome_condition (ruleId columnId : String) (subject : Value)
    (tests : CompiledTests) :
    table.conditionOutcome ruleId columnId context subject tests.condition =
      table.conditionOutcome ruleId columnId context subject (some tests) := by
  rw [CompiledTests.condition]
  split
  · rename_i accepting
    obtain ⟨text, entry⟩ := tests
    cases entry with
    | any => rfl
    | oneOf | noneOf => cases accepting
  · rfl

theorem conditionsAccept_condition (ruleId : String) (columns : List CompiledInput)
    (tests : List CompiledTests) (subjects : List Value) :
    table.conditionsAccept ruleId context columns (tests.map CompiledTests.condition) subjects =
      table.conditionsAccept ruleId context columns (tests.map some) subjects := by
  induction columns generalizing tests subjects with
  | nil => rfl
  | cons column columns ih =>
      cases tests with
      | nil => rfl
      | cons first tests =>
          cases subjects with
          | nil => rfl
          | cons subject subjects =>
              rw [List.map_cons, List.map_cons, conditionsAccept_cons, conditionsAccept_cons, ih,
                conditionOutcome_condition]

end CompiledTable

/-! ## Compiled rules -/

/-- A rule that applies the given tests in all its columns, wildcards included. -/
def CompiledRule.testing (rule : CompiledRule) (tests : List CompiledTests) : CompiledRule :=
  { rule with conditions := tests.map some }

/-- Whether a rule of a table is what its declaration says, less the tests of wildcards. -/
structure CompiledTable.Abridges (table : CompiledTable) (declared : RuleDefinition)
    (rule : CompiledRule) (tests : List CompiledTests) : Prop where
  /-- Every entry can be read. -/
  read : List.Forall₂ (fun text tests => CompiledTests.compile text = .ok tests)
    declared.inputEntries tests
  conditions : rule.conditions = tests.map CompiledTests.condition
  /-- The rule matches where one that applies all tests does, and fails with the same errors. -/
  matching : ∀ context subjects,
    table.matchesRule context subjects rule =
      table.matchesRule context subjects (rule.testing tests)
  /-- No condition is a wildcard. -/
  tested : ∀ tests, some tests ∈ rule.conditions → tests.body.isWildcard = false

/-- What makes it safe to leave the cells of wildcards without a condition. -/
structure SkipsWildcards : Prop where
  /-- The texts that are skipped are those that are read as wildcards. -/
  shortcut : ∀ text, isWildcardEntry text = true ↔
    ∃ tests, CompiledTests.compile text = .ok tests ∧ tests.body.isWildcard = true
  /-- The conditions of entries are what all their tests come to, and they fail as those do. -/
  conditions : ∀ decisionId ruleId columnIds texts,
    Compile.forCells (Compile.condition decisionId ruleId) columnIds texts =
      (Compile.forCells (Compile.tests decisionId ruleId) columnIds texts).map
        (List.map CompiledTests.condition)
  /-- A rule without the tests of wildcards matches as one with them. -/
  matching : ∀ (table : CompiledTable) context subjects rule tests,
    rule.conditions = tests.map CompiledTests.condition →
      table.matchesRule context subjects rule =
        table.matchesRule context subjects (rule.testing tests)
  /-- The rules of a compiled table are what their declarations say, less the tests of wildcards. -/
  compiled : ∀ options (definition : DecisionDefinition) table,
    definition.compile options = .ok table →
      ∃ logic, definition.logic = some (.decisionTable logic) ∧
        List.Forall₂ (fun declared rule => ∃ tests, table.Abridges declared rule tests) logic.rules
          table.rules

theorem matchesRule_testing {table : CompiledTable} {rule : CompiledRule}
    {tests : List CompiledTests} (abridged : rule.conditions = tests.map CompiledTests.condition)
    (context : Context) (subjects : List Value) :
    table.matchesRule context subjects rule =
      table.matchesRule context subjects (rule.testing tests) := by
  rw [CompiledTable.matchesRule, CompiledTable.matchesRule, abridged]
  exact CompiledTable.conditionsAccept_condition ..

/-- What an entry becomes is what its tests come to. -/
theorem Condition.exists_tests {text : String} {found : Option CompiledTests}
    (becomes : Condition text found) :
    ∃ tests, CompiledTests.compile text = .ok tests ∧ tests.condition = found := by
  have compiled : Compile.condition "" "" "" text = .ok found :=
    Compile.condition_eq_ok_iff.mpr becomes
  rw [Compile.condition_eq, Except.map_eq_ok_iff] at compiled
  obtain ⟨tests, read, same⟩ := compiled
  exact ⟨tests, Compile.ofRead_eq_ok_iff.mp read, same⟩

theorem exists_tests_of_conditions {texts : List String} {found : List (Option CompiledTests)}
    (become : List.Forall₂ Condition texts found) :
    ∃ tests, List.Forall₂ (fun text tests => CompiledTests.compile text = .ok tests) texts tests ∧
      found = tests.map CompiledTests.condition := by
  induction become with
  | nil => exact ⟨[], .nil, rfl⟩
  | cons first _ ih =>
      obtain ⟨tests, read, rfl⟩ := first.exists_tests
      obtain ⟨others, remaining, rfl⟩ := ih
      exact ⟨tests :: others, .cons read remaining, rfl⟩

theorem isWildcard_of_mem_conditions {tests : List CompiledTests} {found : CompiledTests}
    (member : some found ∈ tests.map CompiledTests.condition) :
    found.body.isWildcard = false := by
  obtain ⟨tests, _, same⟩ := List.mem_map.mp member
  rw [CompiledTests.condition] at same
  split at same
  · cases same
  · rename_i ordinary
    cases same
    exact eq_false_of_ne_true ordinary

theorem RuleDefinition.Becomes.exists_abridges {table : CompiledTable} {inputs outputs index : Nat}
    {declared : RuleDefinition} {rule : CompiledRule}
    (becomes : declared.Becomes inputs outputs index rule) :
    ∃ tests, table.Abridges declared rule tests := by
  obtain ⟨tests, read, conditions⟩ := exists_tests_of_conditions becomes.conditions
  refine ⟨tests, read, conditions, matchesRule_testing conditions, ?_⟩
  intro found member
  exact isWildcard_of_mem_conditions (conditions ▸ member)

/-- Leaving the cells of wildcards without a condition changes neither what compiles nor what
matches. -/
theorem skipsWildcards : SkipsWildcards where
  shortcut := fun _ => isWildcardEntry_iff_compile
  conditions := fun _ _ => Compile.conditions_eq
  matching := fun _ context subjects _ _ abridged => matchesRule_testing abridged context subjects
  compiled := by
    intro options definition table compiled
    obtain ⟨logic, compiles⟩ := DecisionDefinition.compilesTo_of_compile compiled
    refine ⟨logic, compiles.payload, ?_⟩
    rw [← List.zipIdx_map_fst 0 logic.rules, List.forall₂_map_left_iff]
    exact compiles.rules.imp fun _ _ becomes => becomes.exists_abridges

/-- A dash between wide blanks is read as a wildcard because its cell is skipped. -/
theorem spacedDash_compiles :
    isWildcardEntry "\u2003-\u00A0" = true ∧ ∃ tests,
      CompiledTests.compile "\u2003-\u00A0" = .ok tests ∧ tests.body.isWildcard = true := by
  have skipped : isWildcardEntry "\u2003-\u00A0" = true := by decide
  exact ⟨skipped, (skipsWildcards.shortcut _).mp skipped⟩

end DecisionTables
