import DecisionTables.Value.Equality

/-!
# Order of values

The language orders numbers among themselves, and likewise texts, dates and moments. Aggregations
order more: booleans as numbers, objects by their ranks, and lists by their first unequal items. Two
values outside these rules are `unordered`.
-/

namespace DecisionTables

namespace Value

/-- Whether the language orders two values. -/
def comparable : Value → Value → Bool
  | .number _, .number _ => true
  | .text _, .text _ => true
  | .date _, .date _ => true
  | .moment _, .moment _ => true
  | _, _ => false

def textOrder (left right : String) : Ordering :=
  compareOfLessAndEq left right

def relateMoments (relation : Relation) (left right : Moment) : Except Fault Bool :=
  match left.order? right with
  | some order => .ok (relation.holds order)
  | none => .error .unordered

def relateObjects (relation : Relation) (left right : Object) : Except Fault Bool :=
  match left.rank, right.rank with
  | some leftRank, some rightRank =>
      if left.type = right.type then .ok (relation.holds (compare leftRank rightRank))
      else .error .unordered
  | _, _ => .error .unordered

mutual

/-- Whether a relation between two values holds. -/
def relate (relation : Relation) : Value → Value → Except Fault Bool
  | .boolean left, .boolean right => (countOf left).relate relation (countOf right)
  | .boolean left, .number right => (countOf left).relate relation right
  | .number left, .boolean right => left.relate relation (countOf right)
  | .number left, .number right => left.relate relation right
  | .text left, .text right => .ok (relation.holds (textOrder left right))
  | .date left, .date right => .ok (relation.holds (left.order right))
  | .moment left, .moment right => relateMoments relation left right
  | .object left, .object right => relateObjects relation left right
  | .list left, .list right => relateItems relation left right
  | _, _ => .error .unordered

/-- Whether a relation between two lists holds: that between their first unequal items, or between
their lengths if one list begins with the other. -/
def relateItems (relation : Relation) : List Value → List Value → Except Fault Bool
  | left :: lefts, right :: rights => do
      if ← matchesMember left right then relateItems relation lefts rights
      else relate relation left right
  | lefts, rights => .ok (relation.holds (compare lefts.length rights.length))

end

end Value

end DecisionTables
