import DecisionTables.Proofs.Expression.Breakdown
import DecisionTables.Table.Aggregate

/-!
# Where aggregations break down

The operations that an aggregation comes to: the additions of a sum, the comparisons of the search
for an extreme, and the writing of values that cannot be aggregated. An aggregation breaks down
exactly if one of them has no result. That two values have no order is no breakdown here but a
failure, which the aggregation reports.
-/

namespace DecisionTables

/-- The relation in which an aggregation looks for an extreme. -/
def Aggregation.relation? : Aggregation → Option Relation
  | .min => some .less
  | .max => some .greater
  | .sum | .count => none

namespace Aggregate

/-- The additions that a sum comes to. -/
inductive AttemptsTotal : Number → List Number → Operation → Prop
  | next {sum number : Number} {rest : List Number} :
      AttemptsTotal sum (number :: rest) (.addition sum number)
  | later {sum number next : Number} {rest : List Number} {attempted : Operation} :
      sum.accumulate number = .ok next → AttemptsTotal next rest attempted →
      AttemptsTotal sum (number :: rest) attempted

/-- The comparisons that the search for an extreme comes to. -/
inductive AttemptsExtreme (relation : Relation) : Value → List Value → Operation → Prop
  | next {best value : Value} {rest : List Value} :
      AttemptsExtreme relation best (value :: rest) (.ordering value best)
  | better {best value : Value} {rest : List Value} {attempted : Operation} :
      value.relate relation best = .ok true → AttemptsExtreme relation value rest attempted →
      AttemptsExtreme relation best (value :: rest) attempted
  | worse {best value : Value} {rest : List Value} {attempted : Operation} :
      value.relate relation best = .ok false → AttemptsExtreme relation best rest attempted →
      AttemptsExtreme relation best (value :: rest) attempted

/-- The operations that an aggregation of values comes to, of which none is null. Values that are
not all numbers, or have no order, are written in the error that says so. -/
inductive Attempts : Aggregation → List Value → Operation → Prop
  | notNumbers {values : List Value} :
      numbers? values = none → Attempts .sum values (.writing (.list values))
  | widening {values : List Value} {numbers : List Number} {number : Number} :
      numbers? values = some numbers → numbers.any Number.isDecimal = true →
      numbers.any isDouble = true → Reaches Number.toDouble numbers number →
      Attempts .sum values (.widening number)
  | addition {values : List Value} {numbers added : List Number} {attempted : Operation} :
      numbers? values = some numbers → addends numbers = .ok added →
      AttemptsTotal (.integer 0) added attempted → Attempts .sum values attempted
  | ordering {aggregation : Aggregation} {relation : Relation} {first : Value} {rest : List Value}
      {attempted : Operation} :
      aggregation.relation? = some relation → AttemptsExtreme relation first rest attempted →
      Attempts aggregation (first :: rest) attempted
  | unordered {aggregation : Aggregation} {relation : Relation} {first : Value}
      {rest : List Value} :
      aggregation.relation? = some relation →
      extreme relation first rest = .error .unordered →
      Attempts aggregation (first :: rest) (.writing (.list (first :: rest)))

theorem breaks_fail_iff {aggregation : Aggregation} {decisionId : String} {values : List Value} :
    Breaks (.error (fail aggregation decisionId values) : Except AggregateFailure Value) ↔
      Value.Unwritable (.list values) := by
  rw [← Value.breaks_quoted_iff, fail]
  cases (Value.list values).quoted with
  | ok quoted =>
      refine iff_of_false ?_ not_breaks_ok
      intro impossible
      obtain ⟨_, ⟨⟩⟩ := impossible
  | error fault => exact iff_of_true ⟨fault, rfl⟩ breaks_fault

theorem breaks_toDoubles_iff {numbers : List Number} :
    Breaks (toDoubles numbers) ↔
      ∃ number, Reaches Number.toDouble numbers number ∧ number.HasNoDouble := by
  induction numbers with
  | nil => exact iff_of_false not_breaks_ok not_reaches_nil
  | cons number rest ih =>
      simp only [toDoubles, breaks_bind, Except.pure_eq_ok, not_breaks_ok, and_false, exists_false,
        or_false, ih, Number.breaks_toDouble_iff, reaches_cons_iff]

theorem breaks_total_iff {sum : Number} {numbers : List Number} :
    Breaks (total sum numbers) ↔
      ∃ operation, AttemptsTotal sum numbers operation ∧ operation.Undefined := by
  induction numbers generalizing sum with
  | nil => exact breaks_ok_iff fun _ => nofun
  | cons number rest ih =>
      simp only [total, breaks_bind, ih, Number.breaks_accumulate_iff]
      constructor
      · intro found
        rcases found with undefined | ⟨next, added, operation, attempts, undefined⟩
        · exact ⟨_, .next, undefined⟩
        · exact ⟨operation, .later added attempts, undefined⟩
      · intro found
        rcases found with ⟨operation, attempts, undefined⟩
        cases attempts with
        | next => exact .inl undefined
        | later added attempts => exact .inr ⟨_, added, operation, attempts, undefined⟩

theorem AttemptsExtreme.isOrdering {relation : Relation} {best : Value} {values : List Value}
    {operation : Operation} (attempts : AttemptsExtreme relation best values operation) :
    ∃ value other, operation = .ordering value other := by
  induction attempts with
  | next => exact ⟨_, _, rfl⟩
  | better _ _ ih | worse _ _ ih => exact ih

/-- The search for an extreme fails exactly if one of its comparisons does, and for that reason. -/
theorem extreme_error_iff {relation : Relation} {best : Value} {values : List Value}
    {fault : Fault} :
    extreme relation best values = .error fault ↔
      ∃ value other, AttemptsExtreme relation best values (.ordering value other) ∧
        value.relate relation other = .error fault := by
  induction values generalizing best with
  | nil =>
      refine iff_of_false (by simp [extreme]) ?_
      intro impossible
      obtain ⟨_, _, ⟨⟩, _⟩ := impossible
  | cons value rest ih =>
      simp only [extreme, Except.bind_eq_error_iff]
      constructor
      · intro shown
        rcases shown with failed | ⟨_ | _, related, failed⟩
        · exact ⟨_, _, .next, failed⟩
        · obtain ⟨_, _, attempts, failed⟩ := ih.mp failed
          exact ⟨_, _, .worse related attempts, failed⟩
        · obtain ⟨_, _, attempts, failed⟩ := ih.mp failed
          exact ⟨_, _, .better related attempts, failed⟩
      · intro found
        rcases found with ⟨_, _, attempts, failed⟩
        cases attempts with
        | next => exact .inl failed
        | better related attempts => exact .inr ⟨true, related, ih.mpr ⟨_, _, attempts, failed⟩⟩
        | worse related attempts => exact .inr ⟨false, related, ih.mpr ⟨_, _, attempts, failed⟩⟩

/-- The search for an extreme ends for the lack of a number exactly if one of its comparisons does.
-/
theorem extreme_invalid_iff {relation : Relation} {best : Value} {values : List Value} :
    extreme relation best values = .error .invalidDecimal ↔
      ∃ operation, AttemptsExtreme relation best values operation ∧ operation.Undefined := by
  simp only [extreme_error_iff, Value.relate_invalid_iff]
  constructor
  · intro found
    obtain ⟨value, other, attempts, meets⟩ := found
    exact ⟨_, attempts, meets⟩
  · intro found
    obtain ⟨operation, attempts, undefined⟩ := found
    obtain ⟨value, other, rfl⟩ := attempts.isOrdering
    exact ⟨value, other, attempts, undefined⟩

theorem extreme_fault {relation : Relation} {best : Value} {values : List Value} {fault : Fault}
    (failed : extreme relation best values = .error fault) :
    fault = .invalidDecimal ∨ fault = .unordered := by
  obtain ⟨value, other, _, failed⟩ := extreme_error_iff.mp failed
  exact Value.relate_fault value other failed

theorem breaks_sum_iff {values : List Value} {numbers : List Number}
    (all : numbers? values = some numbers) :
    Breaks (sum numbers) ↔
      ∃ operation, Attempts .sum values operation ∧ operation.Undefined := by
  have split : Breaks (addends numbers) ↔ numbers.any Number.isDecimal = true ∧
      numbers.any isDouble = true ∧
        ∃ number, Reaches Number.toDouble numbers number ∧ number.HasNoDouble := by
    rw [← breaks_toDoubles_iff, addends, ← and_assoc, ← Bool.and_eq_true]
    split
    case isTrue mixed => simp only [mixed, true_and]
    case isFalse alike => exact iff_of_false not_breaks_ok fun both => alike both.1
  simp only [sum, breaks_bind, split, breaks_total_iff]
  constructor
  · intro found
    rcases found with ⟨decimal, double, number, reached, large⟩ | ⟨added, joined, operation,
      attempts, undefined⟩
    · exact ⟨_, .widening all decimal double reached, large⟩
    · exact ⟨operation, .addition all joined attempts, undefined⟩
  · intro found
    rcases found with ⟨operation, attempts, undefined⟩
    cases attempts with
    | notNumbers none => simp [all] at none
    | widening again decimal double reached =>
        cases all.symm.trans again
        exact .inl ⟨decimal, double, _, reached, undefined⟩
    | addition again joined attempts =>
        cases all.symm.trans again
        exact .inr ⟨_, joined, operation, attempts, undefined⟩
    | ordering related => cases related
    | unordered related => cases related

theorem attempts_extreme_iff {aggregation : Aggregation} {relation : Relation} {first : Value}
    {rest : List Value} {operation : Operation}
    (related : aggregation.relation? = some relation) :
    Attempts aggregation (first :: rest) operation ↔
      AttemptsExtreme relation first rest operation ∨
        extreme relation first rest = .error .unordered ∧
          operation = .writing (.list (first :: rest)) := by
  constructor
  · intro attempts
    cases attempts with
    | notNumbers | widening | addition => cases related
    | ordering again attempts =>
        cases related.symm.trans again
        exact .inl attempts
    | unordered again failed =>
        cases related.symm.trans again
        exact .inr ⟨failed, rfl⟩
  · intro shown
    rcases shown with attempts | ⟨failed, rfl⟩
    · exact .ordering related attempts
    · exact .unordered related failed

theorem breaks_extremeOf_iff {aggregation : Aggregation} {relation : Relation}
    {decisionId : String} {first : Value} {rest : List Value}
    (related : aggregation.relation? = some relation) :
    Breaks (extremeOf aggregation relation decisionId first rest) ↔
      ∃ operation, Attempts aggregation (first :: rest) operation ∧ operation.Undefined := by
  have named : (∃ operation, Attempts aggregation (first :: rest) operation ∧
      operation.Undefined) ↔ extreme relation first rest = .error .invalidDecimal ∨
        extreme relation first rest = .error .unordered ∧
          Value.Unwritable (.list (first :: rest)) := by
    simp only [attempts_extreme_iff related, extreme_invalid_iff]
    constructor
    · intro found
      rcases found with ⟨operation, attempts | ⟨failed, rfl⟩, undefined⟩
      · exact .inl ⟨operation, attempts, undefined⟩
      · exact .inr ⟨failed, undefined⟩
    · intro found
      rcases found with ⟨operation, attempts, undefined⟩ | ⟨failed, unwritable⟩
      · exact ⟨operation, .inl attempts, undefined⟩
      · exact ⟨_, .inr ⟨failed, rfl⟩, unwritable⟩
  rw [named, extremeOf]
  cases found : extreme relation first rest with
  | ok value => simp
  | error fault =>
      obtain rfl | rfl := extreme_fault found
      · exact iff_of_true ⟨.invalidDecimal, rfl⟩ (.inl rfl)
      · simp [breaks_fail_iff]

theorem not_attempts_nil {aggregation : Aggregation} {operation : Operation} :
    ¬Attempts aggregation [] operation := by
  intro attempts
  cases attempts with
  | notNumbers none => cases none
  | widening all decimal => cases all; cases decimal
  | addition all joined attempts => cases all; cases joined; cases attempts

theorem not_attempts_count {values : List Value} {operation : Operation} :
    ¬Attempts .count values operation := by
  intro attempts
  cases attempts with
  | ordering related => cases related
  | unordered related => cases related

/-- An aggregation breaks down exactly if it comes to an operation without a result. -/
theorem breaks_apply_iff {aggregation : Aggregation} {decisionId : String} {values : List Value} :
    Breaks (aggregation.apply values decisionId) ↔
      ∃ operation, Attempts aggregation (values.filter fun value => !value.isNull) operation ∧
        operation.Undefined := by
  unfold Aggregation.apply
  generalize (values.filter fun value => !value.isNull) = present
  cases present with
  | nil =>
      refine iff_of_false ?_ fun ⟨_, attempts, _⟩ => not_attempts_nil attempts
      cases aggregation <;> exact not_breaks_ok
  | cons first rest =>
      cases aggregation with
      | count =>
          exact iff_of_false not_breaks_ok fun ⟨_, attempts, _⟩ => not_attempts_count attempts
      | min => exact breaks_extremeOf_iff rfl
      | max => exact breaks_extremeOf_iff rfl
      | sum =>
          cases all : numbers? (first :: rest) with
          | none =>
              simp only [all, breaks_fail_iff]
              constructor
              · intro unwritable
                exact ⟨_, .notNumbers all, unwritable⟩
              · intro found
                rcases found with ⟨operation, attempts, undefined⟩
                cases attempts with
                | notNumbers => exact undefined
                | widening some => simp [all] at some
                | addition some => simp [all] at some
                | ordering related => cases related
                | unordered related => cases related
          | some numbers =>
              rw [← breaks_sum_iff all]
              simp only [all]
              cases sum numbers with
              | ok total => simp
              | error fault => exact iff_of_true ⟨fault, rfl⟩ breaks_fault

end Aggregate

end DecisionTables
