import DecisionTables.Text.Quoted
import DecisionTables.Text.Split
import DecisionTables.Value.Basic

/-!
# Text of values

The `quoted` form shows a value in messages and inside containers, with texts between quotation
marks and dates spelled out; the `plain` form is what conversion to a text gives. Both fail on an
integer that is too long to be written.
-/

namespace DecisionTables

def Date.quoted (date : Date) : String :=
  "datetime.date(" ++ Text.joinWith ", " ([date.year, date.month, date.day].map toString) ++ ")"

/-- The quoted form of a zone. An offset is universal time, or a number of days, seconds and
microseconds of which only the days can be negative. -/
def Zone.quoted : Zone → String
  | .named zone => "zoneinfo.ZoneInfo(key=" ++ Text.quoted zone.name ++ ")"
  | .fixed offset =>
      if offset = 0 then "datetime.timezone.utc"
      else
        let within := offset.fmod 86400000000
        let parts := [("days=", offset.fdiv 86400000000), ("seconds=", within / 1000000),
          ("microseconds=", within % 1000000)]
        let shown := parts.filter fun part => part.2 != 0
        "datetime.timezone(datetime.timedelta(" ++
          Text.joinWith ", " (shown.map fun (name, count) => name ++ toString count) ++ "))"

/-- The quoted form of a moment. Trailing zero seconds and microseconds are left out. -/
def Moment.quoted (moment : Moment) : String :=
  let second := moment.second.val
  let microsecond := moment.microsecond.val
  let time := [moment.hour.val, moment.minute.val] ++
    (if microsecond = 0 then if second = 0 then [] else [second] else [second, microsecond])
  let fields := ([moment.date.year, moment.date.month, moment.date.day] ++ time).map toString
  let later := if moment.later then ["fold=1"] else []
  let zone :=
    match moment.zone with
    | some zone => ["tzinfo=" ++ zone.quoted]
    | none => []
  "datetime.datetime(" ++ Text.joinWith ", " (fields ++ later ++ zone) ++ ")"

/-- The text of an integer, if it is not too long. -/
def Numeral.integerText (value : Int) : Except Fault String :=
  if isTooLong value then .error .numeralTooLong else .ok (String.ofList (writtenInteger value))

namespace Number

/-- The quoted form of a number. -/
def quoted : Number → Except Fault String
  | .integer value => Numeral.integerText value
  | .double value => .ok value.render
  | .decimal value => .ok ("Decimal('" ++ value.render ++ "')")

def plain : Number → Except Fault String
  | .integer value => Numeral.integerText value
  | .double value => .ok value.render
  | .decimal value => .ok value.render

end Number

namespace Value

def bracketed (items : List String) : String :=
  "[" ++ Text.joinWith ", " items ++ "]"

def braced (members : List String) : String :=
  "\x7b" ++ Text.joinWith ", " members ++ "\x7d"

mutual

/-- The quoted form of a value. -/
def quoted : Value → Except Fault String
  | .null => .ok "None"
  | .boolean value => .ok (if value then "True" else "False")
  | .number value => value.quoted
  | .text value => .ok (Text.quoted value)
  | .date value => .ok value.quoted
  | .moment value => .ok value.quoted
  | .object value => .ok value.quoted
  | .list items => (quotedItems items).map bracketed
  | .map members => (quotedMembers members).map braced

def quotedItems : List Value → Except Fault (List String)
  | [] => .ok []
  | item :: rest => do
      let first ← quoted item
      return first :: (← quotedItems rest)

/-- The quoted forms of the members of a map, each name before its value. -/
def quotedMembers : List (String × Value) → Except Fault (List String)
  | [] => .ok []
  | (name, value) :: rest => do
      let written ← quoted value
      return (Text.quoted name ++ ": " ++ written) :: (← quotedMembers rest)

end

def plain : Value → Except Fault String
  | .text value => .ok value
  | .number value => value.plain
  | .date value => .ok value.isoText
  | .moment value => .ok (value.text ' ')
  | .object value => .ok value.plain
  | value => value.quoted

end Value

end DecisionTables
