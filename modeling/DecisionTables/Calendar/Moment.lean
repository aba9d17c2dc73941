import DecisionTables.Calendar.Date
import DecisionTables.Calendar.Zone

/-!
# Moments

A moment is a day with a time of day, and possibly the zone of the clock that shows them. Moments of
one zone, and those without a zone, are compared by what their clocks show, moments of different zones
as instants. Between one with and one without a zone there is no order, and they are never equal. Nor
are moments of different zones equal if one of them is at a time that its clock shows twice or never.
-/

namespace DecisionTables

/-- A day with a time of day. Where the clock of its zone shows that time twice, `later` tells which of
the two is meant. -/
structure Moment where
  date : Date
  hour : Fin 24
  minute : Fin 60
  second : Fin 60
  microsecond : Fin 1000000
  zone : Option Zone
  later : Bool
  deriving DecidableEq

namespace Moment

/-- What the clock shows, in microseconds from the beginning of the calendar. -/
def clock (moment : Moment) : Int :=
  ((((moment.date.ordinal * 24 + moment.hour.val) * 60 + moment.minute.val) * 60 +
    moment.second.val) * 1000000 + moment.microsecond.val : Nat)

/-- The offset of the clock, which a moment without a zone does not have. -/
def offset? (moment : Moment) : Option Int :=
  moment.zone.map (Zone.offset moment.later moment.clock)

/-- The instant of the moment; without a zone, the one at which a clock of universal time shows it. -/
def instant (moment : Moment) : Int := moment.clock - moment.offset?.getD 0

/-- Whether the clock shows the time of the moment twice or never, so that its offset depends on which
of the two is meant. -/
def isAmbiguous (moment : Moment) : Bool :=
  moment.offset? != { moment with later := !moment.later }.offset?

/-- The order of two moments that both have a zone or both have none. -/
def order? (left right : Moment) : Option Ordering :=
  if left.zone = right.zone then some (compare left.clock right.clock)
  else if left.zone.isSome && right.zone.isSome then some (compare left.instant right.instant)
  else none

def equal (left right : Moment) : Bool :=
  left.order? right == some .eq &&
    (left.zone == right.zone || !(left.isAmbiguous || right.isAmbiguous))

/-- The time of day, with the fraction of the second only if it is not zero. -/
def clockText (moment : Moment) : List Char :=
  Numeral.paddedDigits 2 moment.hour.val ++ ':' :: Numeral.paddedDigits 2 moment.minute.val ++
    ':' :: Numeral.paddedDigits 2 moment.second.val ++
    (if moment.microsecond.val = 0 then []
      else '.' :: Numeral.paddedDigits 6 moment.microsecond.val)

/-- Day, time and offset, with `separator` between day and time. -/
def text (separator : Char) (moment : Moment) : String :=
  String.ofList (moment.date.isoText.toList ++ separator :: moment.clockText ++
    (match moment.offset? with
      | some offset => Zone.offsetText offset
      | none => []))

/-- The standard text form of a moment. -/
def isoText (moment : Moment) : String := moment.text 'T'

def afterColon? : List Char → Option (List Char)
  | ':' :: rest => some rest
  | _ => none

/-- Hours, minutes and seconds, and the characters after them. -/
def clock? (characters : List Char) : Option ((Nat × Nat × Nat) × List Char) := do
  let (hour, rest) ← Date.fixedNumber? 2 characters
  let (minute, rest) ← Date.fixedNumber? 2 (← afterColon? rest)
  let (second, rest) ← Date.fixedNumber? 2 (← afterColon? rest)
  return ((hour, minute, second), rest)

/-- A fraction of a second in microseconds, if there is one, and the characters after it. -/
def fraction? : List Char → Option (Nat × List Char)
  | '.' :: rest => Date.fixedNumber? 6 rest
  | characters => some (0, characters)

/-- A zone of a fixed offset, or none, that makes up all of the characters. -/
def zone? : List Char → Option (Option Zone)
  | [] => some none
  | sign :: rest => do
      let (hour, rest) ← Date.fixedNumber? 2 rest
      let (minute, rest) ← Date.fixedNumber? 2 (← afterColon? rest)
      let (second, rest) ←
        if rest.isEmpty then some (0, []) else Date.fixedNumber? 2 (← afterColon? rest)
      let (microsecond, rest) ← fraction? rest
      if !rest.isEmpty || (sign != '+' && sign != '-') then none
      else
        let magnitude := ((hour * 60 + minute) * 60 + second) * 1000000 + microsecond
        some (some (.fixed (signed (sign == '-') magnitude)))

/-- The moment that a standard text form denotes. Such a form names no zone but gives its offset. -/
def ofIso? (text : String) : Option Moment := do
  let characters := text.toList
  let date ← Date.ofIso? (String.ofList (characters.take 10))
  let ((hour, minute, second), rest) ← clock? (characters.drop 11)
  let (microsecond, rest) ← fraction? rest
  let zone ← zone? rest
  if inRange : hour < 24 ∧ minute < 60 ∧ second < 60 ∧ microsecond < 1000000 then
    some ⟨date, ⟨hour, inRange.1⟩, ⟨minute, inRange.2.1⟩, ⟨second, inRange.2.2.1⟩,
      ⟨microsecond, inRange.2.2.2⟩, zone, false⟩
  else none

def first : Moment := ⟨.first, 0, 0, 0, 0, none, false⟩

def last : Moment := ⟨.last, 23, 59, 59, 999999, none, false⟩

end Moment

end DecisionTables
