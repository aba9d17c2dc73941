import DecisionTables.Proofs.Expression.Accepting
import DecisionTables.Proofs.Outcome
import DecisionTables.UnaryTest.Parser

/-!
# The readers of unary tests

What the readers of tests and of lists of tests accept, in terms of the readers of expressions. The
tests that they make say of each expression whether it uses the subject.
-/

namespace DecisionTables

namespace UnaryTest

variable {tokens rest : List Token} {test : UnaryTest}

/-- Whether a test that is a value is marked as using the subject exactly if its expression does. -/
def Marked : UnaryTest → Prop
  | .comparison _ _ | .interval _ _ _ _ => True
  | .value expression usesSubject => usesSubject = expression.usesSubject

theorem accepts_readValue :
    (readValue tokens).Accepts test rest ↔
      ∃ expression, (Expression.read tokens).Accepts expression rest ∧
        .value expression expression.usesSubject = test :=
  Reading.accepts_map

theorem marked_of_readValue (accepts : (readValue tokens).Accepts test rest) : test.Marked := by
  obtain ⟨expression, _, rfl⟩ := accepts_readValue.mp accepts
  rfl

theorem marked_of_readInterval {startClosed : Bool}
    (accepts : (readInterval startClosed tokens).Accepts test rest) : test.Marked := by
  simp only [readInterval, Reading.accepts_andThen] at accepts
  obtain ⟨start, middle, _, _, finish, _, _, _, accepts⟩ := accepts
  split at accepts
  · obtain ⟨rfl, _⟩ := Reading.accepts_accepted.mp accepts
    trivial
  · exact absurd accepts Reading.not_accepts_rejectAt

theorem marked_of_read (accepts : (read tokens).Accepts test rest) : test.Marked := by
  cases tokens with
  | nil => exact marked_of_readValue accepts
  | cons token tail =>
      simp only [read] at accepts
      split at accepts
      · obtain ⟨endpoint, _, rfl⟩ := Reading.accepts_map.mp (Reading.accepts_widen.mp accepts)
        trivial
      split at accepts
      · exact marked_of_readInterval (Reading.accepts_widen.mp accepts)
      split at accepts
      · exact marked_of_readInterval (Reading.accepts_widen.mp accepts)
      split at accepts
      · split at accepts
        · exact absurd accepts Reading.not_accepts_rejected
        · exact marked_of_readInterval (Reading.accepts_widen.mp accepts)
        · exact marked_of_readValue accepts
      · exact marked_of_readValue accepts

/-- A list of tests is one test, or one that is followed by a comma and a list. -/
theorem accepts_readList {tests : List UnaryTest} :
    (readList tokens).Accepts tests rest ↔
      ∃ first middle, (read tokens).Accepts first middle ∧
        ((afterSymbol? .comma middle = none ∧ [first] = tests ∧ middle = rest) ∨
          ∃ tail others, afterSymbol? .comma middle = some tail ∧
            (readList tail).Accepts others rest ∧ first :: others = tests) := by
  rw [readList]
  split
  · rename_i rejected
    simp [rejected]
  · rename_i first middle shorter accepted
    rw [accepted]
    simp only [Reading.accepts_accepted]
    split
    · rename_i missing
      simp only [Reading.accepts_accepted]
      constructor
      · intro shown
        exact ⟨first, middle, ⟨rfl, rfl⟩, .inl ⟨missing, shown⟩⟩
      · intro shown
        obtain ⟨_, _, ⟨rfl, rfl⟩, ⟨_, shown⟩ | ⟨_, _, found, _⟩⟩ := shown
        · exact shown
        · rw [missing] at found
          cases found
    · rename_i tail found
      simp only [Reading.accepts_widen, Reading.accepts_map]
      constructor
      · intro shown
        rcases shown with ⟨others, accepts, rfl⟩
        exact ⟨first, middle, ⟨rfl, rfl⟩, .inr ⟨tail, others, found, accepts, rfl⟩⟩
      · intro shown
        obtain ⟨_, _, ⟨rfl, rfl⟩, ⟨missing, _⟩ | ⟨_, others, found', accepts, rfl⟩⟩ := shown
        · rw [found] at missing
          cases missing
        · rw [found] at found'
          cases found'
          exact ⟨others, accepts, rfl⟩

/-- A list of tests that is read holds at least one, and each is marked. -/
theorem marked_of_readList (tokens : List Token) {tests : List UnaryTest} {rest : List Token}
    (accepts : (readList tokens).Accepts tests rest) :
    tests ≠ [] ∧ ∀ test ∈ tests, test.Marked := by
  obtain ⟨first, middle, read, ⟨_, rfl, _⟩ | ⟨tail, others, found, further, rfl⟩⟩ :=
    accepts_readList.mp accepts
  · refine ⟨List.cons_ne_nil _ _, fun test among => ?_⟩
    cases List.mem_singleton.mp among
    exact marked_of_read read
  · have shorter := Nat.lt_trans (afterSymbol?_length found) read.shorter
    refine ⟨List.cons_ne_nil _ _, List.forall_mem_cons.mpr ⟨marked_of_read read, ?_⟩⟩
    exact (marked_of_readList tail further).2
termination_by tokens.length

end UnaryTest

namespace UnaryTests

variable {tokens : List Token} {entry : UnaryTests}

def tests : UnaryTests → List UnaryTest
  | .any => []
  | .oneOf tests | .noneOf tests => tests

/-- An entry accepts any subject, or it is a list of tests within `not (…)`, or a list of tests. -/
theorem ofTokens_eq_ok_iff :
    ofTokens tokens = .ok entry ↔
      isAnyEntry tokens = true ∧ .any = entry ∨
      isAnyEntry tokens = false ∧
        ((∃ inner tests closing, afterNegation? tokens = some inner ∧
          (UnaryTest.readList inner).Accepts tests [closing] ∧
          closing.lexeme = .symbol .closeParenthesis ∧ .noneOf tests = entry) ∨
        ∃ tests, afterNegation? tokens = none ∧ (UnaryTest.readList tokens).Accepts tests [] ∧
          .oneOf tests = entry) := by
  unfold ofTokens
  cases isAnyEntry tokens with
  | true => simp
  | false =>
      cases afterNegation? tokens with
      | none => simp [Except.map_eq_ok_iff, Reading.complete_eq_ok_iff]
      | some inner =>
          simp only [Bool.false_eq_true, if_false, Except.map_eq_ok_iff,
            Reading.complete_eq_ok_iff, Reading.accepts_closedBy, false_and, true_and, false_or,
            Option.some.injEq, reduceCtorEq, exists_const, or_false]
          constructor
          · intro shown
            rcases shown with ⟨tests, ⟨closing, accepts, closes⟩, same⟩
            exact ⟨inner, tests, closing, rfl, accepts, closes, same⟩
          · intro shown
            rcases shown with ⟨_, tests, closing, rfl, accepts, closes, same⟩
            exact ⟨tests, ⟨closing, accepts, closes⟩, same⟩

/-- The tests of an entry that is read are marked, and there is at least one unless the entry
accepts any subject. -/
theorem marked_of_ofTokens (read : ofTokens tokens = .ok entry) :
    (entry ≠ .any → entry.tests ≠ []) ∧ ∀ test ∈ entry.tests, test.Marked := by
  obtain ⟨_, rfl⟩ | ⟨_, ⟨inner, tests, _, _, accepts, _, rfl⟩ | ⟨tests, _, accepts, rfl⟩⟩ :=
    ofTokens_eq_ok_iff.mp read
  · exact ⟨fun other => absurd rfl other, fun _ among => nomatch among⟩
  · exact (UnaryTest.marked_of_readList inner accepts).imp (fun some _ => some) id
  · exact (UnaryTest.marked_of_readList tokens accepts).imp (fun some _ => some) id

theorem parse_eq_ok_iff {text : String} :
    parse text = .ok entry ↔
      ∃ tokens, tokenize text = .ok tokens ∧ ofTokens tokens = .ok entry := by
  unfold parse
  cases tokenize text with
  | error error => simp
  | ok tokens =>
      cases read : ofTokens tokens with
      | error rejection => simp [read]
      | ok entry => simp [read]

end UnaryTests

end DecisionTables
