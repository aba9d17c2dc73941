import Mathlib.Data.Fintype.Option
import DecisionTables.Proofs.Expression.Grammar
import DecisionTables.Proofs.Outcome
import DecisionTables.Proofs.Value.Order

/-!
# Connectives

The connectives `and` and `or` join operands two by two. However the operands are nested, all of
them are evaluated from left to right, and each has to be a truth value or null: the first that
fails, or is something else, makes the whole fail in its own way. Otherwise one operand may settle
the whole whatever the others are, and null stands between the two truth values. The nesting and the
order of the operands then make no difference, and a negation passes through to the operands.

A connective and its dual differ only in the truth value that settles the whole, so that everything
is said once, of a connective.
-/

namespace DecisionTables

/-! ## Connectives -/

/-- The connectives of truth values. -/
inductive Connective where
  | conjunction
  | disjunction
  deriving DecidableEq

namespace Connective

def word : Connective → String
  | .conjunction => "and"
  | .disjunction => "or"

/-- The operator of the grammar. -/
def operator : Connective → Grammar.Operator
  | .conjunction => .conjunction
  | .disjunction => .disjunction

/-- The truth value that settles the whole as soon as one operand has it. -/
def decisive : Connective → Bool
  | .conjunction => false
  | .disjunction => true

/-- The connective that joins what is negated. -/
def dual : Connective → Connective
  | .conjunction => .disjunction
  | .disjunction => .conjunction

def combine : Connective → Option Bool → Option Bool → Option Bool
  | .conjunction => Value.bothTrue
  | .disjunction => Value.eitherTrue

/-- The truth value of any number of operands. -/
def combineAll (connective : Connective) (truths : List (Option Bool)) : Option Bool :=
  truths.foldr connective.combine (some !connective.decisive)

variable {connective : Connective} {truths others : List (Option Bool)}

theorem combine_assoc (first second third : Option Bool) :
    connective.combine (connective.combine first second) third =
      connective.combine first (connective.combine second third) := by
  revert first second third
  cases connective <;> decide

theorem combine_comm (first second : Option Bool) :
    connective.combine first second = connective.combine second first := by
  revert first second
  cases connective <;> decide

theorem combine_neutral (truth : Option Bool) :
    connective.combine (some !connective.decisive) truth = truth := by
  revert truth
  cases connective <;> decide

theorem map_not_combine (first second : Option Bool) :
    (connective.combine first second).map not =
      connective.dual.combine (first.map not) (second.map not) := by
  revert first second
  cases connective <;> decide

theorem combine_eq_decisive_iff (first second : Option Bool) :
    connective.combine first second = some connective.decisive ↔
      first = some connective.decisive ∨ second = some connective.decisive := by
  revert first second
  cases connective <;> decide

theorem combine_eq_other_iff (first second : Option Bool) :
    connective.combine first second = some (!connective.decisive) ↔
      first = some (!connective.decisive) ∧ second = some (!connective.decisive) := by
  revert first second
  cases connective <;> decide

theorem eq_none_iff (truth : Option Bool) :
    truth = none ↔ truth ≠ some connective.decisive ∧ truth ≠ some (!connective.decisive) := by
  revert truth
  cases connective <;> decide

@[simp] theorem combineAll_cons (truth : Option Bool) (truths : List (Option Bool)) :
    connective.combineAll (truth :: truths) =
      connective.combine truth (connective.combineAll truths) := rfl

theorem combineAll_singleton (truth : Option Bool) : connective.combineAll [truth] = truth :=
  (combine_comm _ _).trans (combine_neutral truth)

theorem combineAll_append :
    connective.combineAll (truths ++ others) =
      connective.combine (connective.combineAll truths) (connective.combineAll others) := by
  induction truths with
  | nil => exact (combine_neutral _).symm
  | cons truth truths ih =>
      rw [List.cons_append, combineAll_cons, ih, combineAll_cons, combine_assoc]

theorem combineAll_perm (perm : truths.Perm others) :
    connective.combineAll truths = connective.combineAll others := by
  have swaps : LeftCommutative connective.combine :=
    ⟨fun first second third => by
      rw [← combine_assoc, combine_comm first second, combine_assoc]⟩
  exact perm.foldr_eq _

/-- One operand settles the whole. -/
theorem combineAll_eq_decisive_iff :
    connective.combineAll truths = some connective.decisive ↔
      some connective.decisive ∈ truths := by
  induction truths with
  | nil => cases connective <;> decide
  | cons truth truths ih =>
      rw [combineAll_cons, combine_eq_decisive_iff, ih, List.mem_cons, eq_comm]

theorem combineAll_eq_other_iff :
    connective.combineAll truths = some (!connective.decisive) ↔
      ∀ truth ∈ truths, truth = some (!connective.decisive) := by
  induction truths with
  | nil => exact iff_of_true rfl (List.forall_mem_nil _)
  | cons truth truths ih => rw [combineAll_cons, combine_eq_other_iff, ih, List.forall_mem_cons]

theorem combineAll_eq_none_iff :
    connective.combineAll truths = none ↔ some connective.decisive ∉ truths ∧ none ∈ truths := by
  rw [eq_none_iff, ne_eq, ne_eq, combineAll_eq_decisive_iff, combineAll_eq_other_iff]
  refine and_congr_right fun undecided => ?_
  constructor
  · intro other
    push Not at other
    obtain ⟨truth, among, differs⟩ := other
    have absent : truth ≠ some connective.decisive := by
      rintro rfl
      exact undecided among
    rwa [(eq_none_iff truth).mpr ⟨absent, differs⟩] at among
  · intro among all
    cases all none among

theorem map_not_combineAll : (connective.combineAll truths).map not =
    connective.dual.combineAll (truths.map (Option.map not)) := by
  induction truths with
  | nil => cases connective <;> rfl
  | cons truth truths ih =>
      rw [combineAll_cons, map_not_combine, ih, List.map_cons, combineAll_cons]

end Connective

/-! ## Groupings -/

/-- Operands that are joined two by two, nested in one way or another. -/
inductive Grouping (α : Type) where
  | single (operand : α)
  | join (left right : Grouping α)

namespace Grouping

variable {α β : Type}

def operands : Grouping α → List α
  | .single operand => [operand]
  | .join left right => left.operands ++ right.operands

/-- The grouping with its operands changed. -/
def map (image : α → β) : Grouping α → Grouping β
  | .single operand => .single (image operand)
  | .join left right => .join (left.map image) (right.map image)

/-- The grouping with one operand after the other joined on the right. -/
def extend (left : Grouping α) (others : List α) : Grouping α :=
  others.foldl (fun left right => .join left (.single right)) left

/-- The expression that joins the operands as they are grouped. -/
def expression (connective : Connective) : Grouping Expression → Expression
  | .single operand => operand
  | .join left right =>
      connective.operator.join (left.expression connective) (right.expression connective)

@[simp] theorem operands_map (image : α → β) (grouping : Grouping α) :
    (grouping.map image).operands = grouping.operands.map image := by
  induction grouping with
  | single operand => rfl
  | join left right leftSame rightSame =>
      rw [map, operands, operands, leftSame, rightSame, List.map_append]

@[simp] theorem operands_extend (left : Grouping α) (others : List α) :
    (left.extend others).operands = left.operands ++ others := by
  induction others generalizing left with
  | nil => exact (List.append_nil _).symm
  | cons second others ih =>
      have extended := ih (.join left (.single second))
      rwa [operands, operands, List.append_assoc] at extended

/-- Whether at least two operands are joined. -/
def Joins (grouping : Grouping α) : Prop := 2 ≤ grouping.operands.length

end Grouping

/-! ## Operands -/

namespace Expression

variable {connective : Connective} {environment : Environment} {operand left right : Expression}

/-- The truth value of an expression as an operand of a connective, where null is the third one. -/
def truth (connective : Connective) (environment : Environment) (operand : Expression) :
    Evaluated (Option Bool) := do
  let value ← operand.evaluate environment
  value.truth connective.word

/-- How an expression makes fail what it is an operand of: it fails itself, or it is neither a truth
value nor null. -/
inductive Objects (connective : Connective) (environment : Environment) (operand : Expression) :
    Interruption → Prop
  | fails {interruption : Interruption} :
      operand.evaluate environment = .error interruption →
      Objects connective environment operand interruption
  | noTruth {value : Value} :
      operand.evaluate environment = .ok value → value ≠ .null → value.isBoolean = false →
      Objects connective environment operand
        (.failure (.notBoolean connective.word value.typeName))

theorem truth_ofTruth (operator : String) (truth : Option Bool) :
    (Value.ofTruth truth).truth operator = .ok truth := by
  cases truth <;> rfl

theorem ofTruth_eq_of_truth {operator : String} {value : Value} {truth : Option Bool}
    (counts : value.truth operator = .ok truth) : value = Value.ofTruth truth := by
  cases value with
  | null | boolean =>
      cases counts
      rfl
  | _ => cases counts

theorem ofTruth_inj {truth other : Option Bool} :
    Value.ofTruth truth = Value.ofTruth other ↔ truth = other := by
  cases truth <;> cases other <;> simp [Value.ofTruth]

/-- An operand has a truth value if that is its value. -/
theorem truth_eq_ok_iff {truth : Option Bool} :
    operand.truth connective environment = .ok truth ↔
      operand.evaluate environment = .ok (Value.ofTruth truth) := by
  rw [Expression.truth, Except.bind_eq_ok_iff]
  constructor
  · intro shown
    obtain ⟨value, evaluates, counts⟩ := shown
    rw [evaluates, ofTruth_eq_of_truth counts]
  · intro evaluates
    exact ⟨_, evaluates, truth_ofTruth _ _⟩

theorem truth_eq_error_iff {interruption : Interruption} :
    operand.truth connective environment = .error interruption ↔
      operand.Objects connective environment interruption := by
  rw [Expression.truth, Except.bind_eq_error_iff]
  constructor
  · intro shown
    rcases shown with failed | ⟨value, evaluates, refused⟩
    · exact .fails failed
    · cases value with
      | null | boolean => cases refused
      | _ =>
          cases refused
          exact .noTruth evaluates nofun rfl
  · intro objects
    rcases objects with failed | @⟨value, evaluates, present, other⟩
    · exact .inl failed
    · refine .inr ⟨value, evaluates, ?_⟩
      cases value with
      | null => exact absurd rfl present
      | boolean => cases other
      | _ => rfl

theorem not_objects_iff :
    (∀ interruption, ¬operand.Objects connective environment interruption) ↔
      ∃ truth, operand.truth connective environment = .ok truth := by
  simp only [← truth_eq_error_iff]
  cases operand.truth connective environment with
  | ok truth => simp
  | error interruption => simp

/-- A connective evaluates both operands, the left one first. -/
theorem truth_join : (connective.operator.join left right).truth connective environment =
    left.truth connective environment >>= fun leftTruth =>
      right.truth connective environment >>= fun rightTruth =>
        .ok (connective.combine leftTruth rightTruth) := by
  cases connective <;>
    simp only [Expression.truth, Connective.operator, Grammar.Operator.join, evaluate, bind_assoc,
      pure_bind, truth_ofTruth, Connective.word, Connective.combine]

theorem evaluate_join : (connective.operator.join left right).evaluate environment =
    ((connective.operator.join left right).truth connective environment).map Value.ofTruth := by
  rw [truth_join]
  change _ = Value.ofTruth <$> _
  cases connective <;>
    simp only [Expression.truth, Connective.operator, Grammar.Operator.join, evaluate, bind_assoc,
      Connective.word, Connective.combine, map_bind] <;> rfl

def truths (connective : Connective) (environment : Environment) (operands : List Expression) :
    Evaluated (List (Option Bool)) :=
  operands.mapM (truth connective environment)

theorem truths_cons (first : Expression) (rest : List Expression) :
    truths connective environment (first :: rest) =
      first.truth connective environment >>= fun truth =>
        truths connective environment rest >>= fun others => .ok (truth :: others) :=
  List.mapM_cons

theorem truths_append (operands others : List Expression) :
    truths connective environment (operands ++ others) =
      truths connective environment operands >>= fun left =>
        truths connective environment others >>= fun right => .ok (left ++ right) :=
  List.mapM_append

/-- Operands have truth values if each of them does. -/
theorem truths_eq_ok_iff {operands : List Expression} {found : List (Option Bool)} :
    truths connective environment operands = .ok found ↔
      List.Forall₂ (fun operand truth =>
        operand.evaluate environment = .ok (Value.ofTruth truth)) operands found := by
  induction operands generalizing found with
  | nil =>
      cases found with
      | nil => exact iff_of_true rfl .nil
      | cons => exact iff_of_false nofun nofun
  | cons first rest ih =>
      simp only [truths_cons, Except.bind_eq_ok_iff, Except.ok.injEq, truth_eq_ok_iff, ih,
        List.forall₂_cons_left_iff, exists_and_left, @eq_comm _ found]

/-- Operands fail to have truth values as the first of them does that objects. -/
theorem truths_eq_error_iff {operands : List Expression} {interruption : Interruption} :
    truths connective environment operands = .error interruption ↔
      ∃ before operand after, operands = before ++ operand :: after ∧
        (∀ earlier ∈ before, ∀ other, ¬earlier.Objects connective environment other) ∧
        operand.Objects connective environment interruption := by
  induction operands with
  | nil => simp [truths]
  | cons first rest ih =>
      simp only [truths_cons, Except.bind_eq_error_iff, ih, reduceCtorEq, and_false, exists_false,
        or_false, truth_eq_error_iff]
      constructor
      · intro shown
        rcases shown with objects | ⟨truth, fits, before, operand, after, rfl, others, objects⟩
        · exact ⟨[], first, rest, rfl, List.forall_mem_nil _, objects⟩
        · exact ⟨first :: before, operand, after, rfl,
            List.forall_mem_cons.mpr ⟨not_objects_iff.mpr ⟨truth, fits⟩, others⟩, objects⟩
      · intro shown
        obtain ⟨before, operand, after, split, others, objects⟩ := shown
        cases before with
        | nil =>
            cases split
            exact .inl objects
        | cons earlier before =>
            cases split
            obtain ⟨fits, others⟩ := List.forall_mem_cons.mp others
            obtain ⟨truth, fits⟩ := not_objects_iff.mp fits
            exact .inr ⟨truth, fits, before, operand, after, rfl, others, objects⟩

/-- The truth values are those that operands have. -/
theorem mem_truths_iff {operands : List Expression} {found : List (Option Bool)}
    (given : truths connective environment operands = .ok found) {truth : Option Bool} :
    truth ∈ found ↔
      ∃ operand ∈ operands, operand.evaluate environment = .ok (Value.ofTruth truth) := by
  have related := truths_eq_ok_iff.mp given
  clear given
  induction related with
  | nil => simp
  | @cons operand first _ _ evaluates _ ih =>
      have same : truth = first ↔ operand.evaluate environment = .ok (Value.ofTruth truth) := by
        rw [evaluates, Except.ok.injEq, ofTruth_inj, eq_comm]
      simp only [List.mem_cons, ih, same, exists_eq_or_imp]

theorem exists_mem_truths {operands : List Expression} {found : List (Option Bool)}
    (given : truths connective environment operands = .ok found) {operand : Expression}
    (among : operand ∈ operands) :
    ∃ truth ∈ found, operand.evaluate environment = .ok (Value.ofTruth truth) := by
  have related := truths_eq_ok_iff.mp given
  clear given
  induction related with
  | nil => cases among
  | @cons _ truth _ _ evaluates _ ih =>
      cases among with
      | head => exact ⟨truth, List.mem_cons_self, evaluates⟩
      | tail _ later =>
          obtain ⟨truth, member, evaluates⟩ := ih later
          exact ⟨truth, List.mem_cons_of_mem _ member, evaluates⟩

/-- Operands in another order have the same truth values in that order. -/
theorem truths_perm {operands others : List Expression} {found : List (Option Bool)}
    (perm : others.Perm operands) (given : truths connective environment operands = .ok found) :
    ∃ moved, truths connective environment others = .ok moved ∧ moved.Perm found := by
  obtain ⟨moved, related, same⟩ := List.perm_comp_forall₂ perm (truths_eq_ok_iff.mp given)
  exact ⟨moved, truths_eq_ok_iff.mpr related, same⟩

/-- A negated operand has the negated truth value, if its operand has one. -/
theorem evaluate_complement_iff {negated : Option Bool} :
    (complement operand).evaluate environment = .ok (Value.ofTruth negated) ↔
      ∃ truth, operand.evaluate environment = .ok (Value.ofTruth truth) ∧
        truth.map not = negated := by
  simp only [evaluate, Except.bind_eq_ok_iff, Except.pure_eq_ok, Except.ok.injEq, ofTruth_inj]
  constructor
  · intro shown
    obtain ⟨value, evaluates, truth, counts, rfl⟩ := shown
    exact ⟨truth, by rw [evaluates, ofTruth_eq_of_truth counts], rfl⟩
  · intro shown
    obtain ⟨truth, evaluates, rfl⟩ := shown
    exact ⟨_, evaluates, truth, truth_ofTruth _ _, rfl⟩

/-- Negated operands have the negated truth values of the operands, under any two connectives. -/
theorem truths_complement_iff (connective other : Connective) {operands : List Expression}
    {negated : List (Option Bool)} :
    truths other environment (operands.map .complement) = .ok negated ↔
      ∃ found, truths connective environment operands = .ok found ∧
        negated = found.map (Option.map not) := by
  simp only [truths_eq_ok_iff, List.forall₂_map_left_iff, evaluate_complement_iff]
  constructor
  · intro related
    induction related with
    | nil => exact ⟨[], .nil, rfl⟩
    | cons shown _ ih =>
        obtain ⟨truth, evaluates, rfl⟩ := shown
        obtain ⟨found, given, rfl⟩ := ih
        exact ⟨truth :: found, .cons evaluates given, rfl⟩
  · intro shown
    obtain ⟨found, given, rfl⟩ := shown
    exact List.forall₂_map_right_iff.mpr
      (given.imp fun _ truth evaluates => ⟨truth, evaluates, rfl⟩)

end Expression

/-! ## What a grouping says -/

namespace Grouping

open Expression

variable {connective : Connective} {environment : Environment}

/-- Whatever their nesting, operands are taken from left to right and combined. -/
theorem truth_expression (connective : Connective) (environment : Environment)
    (grouping : Grouping Expression) :
    (grouping.expression connective).truth connective environment =
      (truths connective environment grouping.operands).map connective.combineAll := by
  induction grouping with
  | single operand =>
      rw [expression, operands, truths_cons]
      cases operand.truth connective environment with
      | ok truth => exact congrArg Except.ok (Connective.combineAll_singleton truth).symm
      | error => rfl
  | join left right leftSame rightSame =>
      rw [expression, truth_join, leftSame, rightSame, operands, truths_append]
      cases truths connective environment left.operands with
      | error => rfl
      | ok leftTruths =>
          cases truths connective environment right.operands with
          | error => rfl
          | ok rightTruths => exact congrArg Except.ok Connective.combineAll_append.symm

theorem evaluate_expression {grouping : Grouping Expression} (joins : grouping.Joins) :
    (grouping.expression connective).evaluate environment =
      (truths connective environment grouping.operands).map fun truths =>
        Value.ofTruth (connective.combineAll truths) := by
  cases grouping with
  | single => exact absurd joins (Nat.not_succ_le_self 1)
  | join left right =>
      have combined := truth_expression connective environment (join left right)
      rw [expression] at combined ⊢
      rw [evaluate_join, combined]
      cases truths connective environment (join left right).operands <;> rfl

/-- A grouping of the same operands, in whatever order, has the same value if there is one. -/
theorem evaluate_expression_perm {grouping other : Grouping Expression} {value : Value}
    (joins : grouping.Joins) (perm : other.operands.Perm grouping.operands)
    (evaluates : (grouping.expression connective).evaluate environment = .ok value) :
    (other.expression connective).evaluate environment = .ok value := by
  have alsoJoins : other.Joins := by rwa [Joins, perm.length_eq]
  rw [evaluate_expression joins, Except.map_eq_ok_iff] at evaluates
  obtain ⟨found, given, rfl⟩ := evaluates
  obtain ⟨moved, movedGiven, same⟩ := truths_perm perm given
  rw [evaluate_expression alsoJoins, movedGiven, Except.map_ok, Connective.combineAll_perm same]

/-- A negation passes through a grouping to the operands, which the dual connective joins. -/
theorem evaluate_complement_expression {grouping other : Grouping Expression} {value : Value}
    (joins : grouping.Joins)
    (perm : other.operands.Perm (grouping.operands.map Expression.complement)) :
    (Expression.complement (grouping.expression connective)).evaluate environment = .ok value ↔
      (other.expression connective.dual).evaluate environment = .ok value := by
  have negatedJoins : (grouping.map Expression.complement).Joins := by
    rwa [Joins, operands_map, List.length_map]
  have otherJoins : other.Joins := by
    rwa [Joins, perm.length_eq, List.length_map]
  have turned : other.operands.Perm (grouping.map Expression.complement).operands := by
    rwa [operands_map]
  have through : (Expression.complement (grouping.expression connective)).evaluate environment =
      .ok value ↔
      ((grouping.map Expression.complement).expression connective.dual).evaluate environment =
        .ok value := by
    rw [evaluate_expression negatedJoins, operands_map, Except.map_eq_ok_iff]
    simp only [truths_complement_iff connective, evaluate, evaluate_expression joins]
    cases truths connective environment grouping.operands with
    | error => simp
    | ok found => simp [truth_ofTruth, Connective.map_not_combineAll]
  rw [through]
  exact ⟨evaluate_expression_perm negatedJoins turned,
    evaluate_expression_perm otherJoins turned.symm⟩

/-- What strict three-valued logic says of the outcome of joined operands. -/
structure ThreeValued (connective : Connective) (environment : Environment)
    (operands : List Expression) (outcome : Evaluated Value) : Prop where
  /-- It fails exactly if an operand fails or is neither a truth value nor null. -/
  fails_iff : outcome.Fails ↔ ∃ operand ∈ operands, ∃ interruption,
    operand.Objects connective environment interruption
  /-- The failure is that of the leftmost such operand. -/
  leftmost : ∀ interruption, outcome = .error interruption ↔
    ∃ before operand after, operands = before ++ operand :: after ∧
      (∀ earlier ∈ before, ∀ other, ¬earlier.Objects connective environment other) ∧
      operand.Objects connective environment interruption
  /-- Without a failure every operand is evaluated, to a truth value or null. -/
  evaluated : ∀ value, outcome = .ok value → ∀ operand ∈ operands, ∃ truth,
    operand.evaluate environment = .ok (Value.ofTruth truth)
  /-- The value is the decisive one exactly if some operand has it. -/
  decisive_iff : ∀ value, outcome = .ok value → (value = .boolean connective.decisive ↔
    ∃ operand ∈ operands, operand.evaluate environment = .ok (.boolean connective.decisive))
  /-- It is null exactly if no operand is decisive and some is null. -/
  null_iff : ∀ value, outcome = .ok value → (value = .null ↔
    (¬∃ operand ∈ operands,
      operand.evaluate environment = .ok (.boolean connective.decisive)) ∧
    ∃ operand ∈ operands, operand.evaluate environment = .ok .null)
  /-- It is the other truth value exactly if every operand is. -/
  other_iff : ∀ value, outcome = .ok value → (value = .boolean (!connective.decisive) ↔
    ∀ operand ∈ operands, operand.evaluate environment = .ok (.boolean (!connective.decisive)))

theorem threeValued {grouping : Grouping Expression} (joins : grouping.Joins) :
    ThreeValued connective environment grouping.operands
      ((grouping.expression connective).evaluate environment) := by
  rw [evaluate_expression joins]
  generalize grouping.operands = operands
  have failure {interruption : Interruption} :
      (truths connective environment operands).map
          (fun truths => Value.ofTruth (connective.combineAll truths)) = .error interruption ↔
        ∃ before operand after, operands = before ++ operand :: after ∧
          (∀ earlier ∈ before, ∀ other, ¬earlier.Objects connective environment other) ∧
          operand.Objects connective environment interruption := by
    rw [Except.map_eq_error_iff, truths_eq_error_iff]
  have success {value : Value}
      (evaluates : (truths connective environment operands).map
        (fun truths => Value.ofTruth (connective.combineAll truths)) = .ok value) :
      ∃ found, truths connective environment operands = .ok found ∧
        Value.ofTruth (connective.combineAll found) = value :=
    Except.map_eq_ok_iff.mp evaluates
  constructor
  · constructor
    · intro fails
      obtain ⟨interruption, failed⟩ := fails
      obtain ⟨before, operand, after, rfl, _, objects⟩ := failure.mp failed
      exact ⟨operand, List.mem_append_right _ List.mem_cons_self, interruption, objects⟩
    · intro shown
      obtain ⟨operand, among, interruption, objects⟩ := shown
      cases given : truths connective environment operands with
      | error other => exact ⟨other, rfl⟩
      | ok found =>
          obtain ⟨truth, _, evaluates⟩ := exists_mem_truths given among
          exact absurd objects (not_objects_iff.mpr ⟨truth, truth_eq_ok_iff.mpr evaluates⟩ _)
  · exact fun interruption => failure
  · intro value evaluates operand among
    obtain ⟨found, given, rfl⟩ := success evaluates
    obtain ⟨truth, _, evaluates⟩ := exists_mem_truths given among
    exact ⟨truth, evaluates⟩
  · intro value evaluates
    obtain ⟨found, given, rfl⟩ := success evaluates
    exact (@ofTruth_inj _ (some _)).trans
      (Connective.combineAll_eq_decisive_iff.trans (mem_truths_iff given))
  · intro value evaluates
    obtain ⟨found, given, rfl⟩ := success evaluates
    refine (@ofTruth_inj _ none).trans (Connective.combineAll_eq_none_iff.trans ?_)
    exact and_congr (mem_truths_iff given).not (mem_truths_iff given)
  · intro value evaluates
    obtain ⟨found, given, rfl⟩ := success evaluates
    refine (@ofTruth_inj _ (some _)).trans (Connective.combineAll_eq_other_iff.trans ?_)
    constructor
    · intro all operand among
      obtain ⟨truth, member, evaluates⟩ := exists_mem_truths given among
      rwa [all truth member] at evaluates
    · intro all truth member
      obtain ⟨operand, among, evaluates⟩ := (mem_truths_iff given).mp member
      rw [all operand among, Except.ok.injEq] at evaluates
      exact ofTruth_inj.mp evaluates.symm

end Grouping

end DecisionTables
