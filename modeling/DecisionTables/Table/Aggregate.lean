import DecisionTables.HitPolicy
import DecisionTables.Value.Order
import DecisionTables.Value.Text

/-!
# Aggregation

Collected values are reduced to one. Nulls do not take part. Numbers can be added, and values that
have an order have a least and a greatest one; of equal values the first is kept.
-/

namespace DecisionTables

/-- Values that cannot be aggregated. -/
structure AggregationError where
  aggregation : Aggregation
  decisionId : String
  /-- The quoted form of the values that take part. -/
  quoted : String

def AggregationError.message (error : AggregationError) : String :=
  "Unable to compute " ++ error.aggregation.name ++ " for decision '" ++ error.decisionId ++
    "': collected values " ++ error.quoted ++ " are not " ++
    (if error.aggregation = .sum then "all numbers." else "comparable.")

/-- Why there is no aggregate. -/
inductive AggregateFailure where
  | notAllowed (error : AggregationError)
  | fault (fault : Fault)

namespace Aggregate

def fail (aggregation : Aggregation) (decisionId : String) (values : List Value) :
    AggregateFailure :=
  match (Value.list values).quoted with
  | .ok quoted => .notAllowed ⟨aggregation, decisionId, quoted⟩
  | .error fault => .fault fault

/-- The numbers that all values are, unless one is no number. -/
def numbers? : List Value → Option (List Number)
  | [] => some []
  | .number number :: rest => (numbers? rest).map (number :: ·)
  | _ :: _ => none

def isDouble : Number → Bool
  | .double _ => true
  | _ => false

def toDoubles : List Number → Except Fault (List Number)
  | [] => .ok []
  | number :: rest => do
      let double ← number.toDouble
      return .double double :: (← toDoubles rest)

/-- The numbers as they are added: as doubles if decimal numbers and doubles occur together. -/
def addends (numbers : List Number) : Except Fault (List Number) :=
  if numbers.any Number.isDecimal && numbers.any isDouble then toDoubles numbers else .ok numbers

/-- The sum of a running total and numbers, added from left to right. -/
def total : Number → List Number → Except Fault Number
  | sum, [] => .ok sum
  | sum, number :: rest => do
      let next ← sum.accumulate number
      total next rest

def sum (numbers : List Number) : Except Fault Number := do
  total (.integer 0) (← addends numbers)

/-- The value that no other one precedes in a relation, the first of several. -/
def extreme (relation : Relation) : Value → List Value → Except Fault Value
  | best, [] => .ok best
  | best, value :: rest => do
      if ← Value.relate relation value best then extreme relation value rest
      else extreme relation best rest

/-- The extreme of values that are not null. -/
def extremeOf (aggregation : Aggregation) (relation : Relation) (decisionId : String)
    (first : Value) (rest : List Value) : Except AggregateFailure Value :=
  match extreme relation first rest with
  | .ok value => .ok value
  | .error .unordered => .error (fail aggregation decisionId (first :: rest))
  | .error fault => .error (.fault fault)

end Aggregate

/-- The aggregate of collected values. Without a value that is not null, only a count has one. -/
def Aggregation.apply (aggregation : Aggregation) (values : List Value) (decisionId : String) :
    Except AggregateFailure Value :=
  let present := values.filter fun value => !value.isNull
  match aggregation, present with
  | .count, _ => .ok (.integer present.length)
  | _, [] => .ok .null
  | .sum, _ =>
      match Aggregate.numbers? present with
      | none => .error (Aggregate.fail .sum decisionId present)
      | some numbers =>
          match Aggregate.sum numbers with
          | .ok total => .ok (.number total)
          | .error fault => .error (.fault fault)
  | .min, first :: rest => Aggregate.extremeOf .min .less decisionId first rest
  | .max, first :: rest => Aggregate.extremeOf .max .greater decisionId first rest

end DecisionTables
