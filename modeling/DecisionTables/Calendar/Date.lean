import DecisionTables.Number.Digits

/-!
# Calendar dates

Days of the Gregorian calendar from the year 1 to the year 9999, in the extended and basic forms of
their text: year, month and day, or year, week and weekday. A week belongs to the year that holds
its Thursday.
-/

namespace DecisionTables

namespace Date

def isLeap (year : Nat) : Bool :=
  year % 4 == 0 && (year % 100 != 0 || year % 400 == 0)

def daysInMonth (year month : Nat) : Nat :=
  if month = 2 then if isLeap year then 29 else 28
  else if month = 4 ∨ month = 6 ∨ month = 9 ∨ month = 11 then 30
  else 31

/-- Whether year, month and day name a day of the calendar. -/
def Valid (year month day : Nat) : Prop :=
  1 ≤ year ∧ year ≤ 9999 ∧ 1 ≤ month ∧ month ≤ 12 ∧ 1 ≤ day ∧ day ≤ daysInMonth year month

instance (year month day : Nat) : Decidable (Valid year month day) :=
  inferInstanceAs (Decidable (_ ∧ _))

end Date

/-- A day of the calendar. -/
structure Date where
  year : Nat
  month : Nat
  day : Nat
  valid : Date.Valid year month day
  deriving DecidableEq

namespace Date

/-- The day of a year, month and day, if there is one. -/
def of? (year month day : Nat) : Option Date :=
  if valid : Valid year month day then some ⟨year, month, day, valid⟩ else none

def first : Date := ⟨1, 1, 1, by decide⟩

def last : Date := ⟨9999, 12, 31, by decide⟩

def order (left right : Date) : Ordering :=
  (compare left.year right.year).then
    ((compare left.month right.month).then (compare left.day right.day))

/-- The number of days before the first day of a year, counted from the year 1. -/
def daysBeforeYear (year : Nat) : Nat :=
  let past := year - 1
  past * 365 + past / 4 - past / 100 + past / 400

/-- The number of days of a year before the first day of a month. -/
def daysBeforeMonth (year : Nat) : (month : Nat) → Nat
  | 0 => 0
  | 1 => 0
  | month + 2 => daysBeforeMonth year (month + 1) + daysInMonth year (month + 1)

/-- The number of a day, counted from 1 for the first day of the year 1. -/
def ordinal (date : Date) : Nat :=
  daysBeforeYear date.year + daysBeforeMonth date.year date.month + date.day

/-- The day that lies `day` days into the months of a year from `month` on, of which at most
`months` are left. -/
def ofMonthDay? (year : Nat) : (months month day : Nat) → Option Date
  | 0, _, _ => none
  | months + 1, month, day =>
      if day ≤ daysInMonth year month then of? year month day
      else ofMonthDay? year months (month + 1) (day - daysInMonth year month)

/-- The day with a number that lies in a given year or a neighbour of it. -/
def ofOrdinalNear? (year number : Nat) : Option Date :=
  let candidate :=
    if number ≤ daysBeforeYear year then year - 1
    else if number ≤ daysBeforeYear (year + 1) then year
    else year + 1
  ofMonthDay? candidate 12 1 (number - daysBeforeYear candidate)

/-- The weekday of the first of January, counted from 0 for Monday. -/
def firstWeekday (year : Nat) : Nat := (daysBeforeYear year) % 7

/-- Whether a year has a fifty-third week: it begins on a Thursday, or on a Wednesday and is a leap
year. -/
def hasLongWeeks (year : Nat) : Bool :=
  firstWeekday year == 3 || (firstWeekday year == 2 && isLeap year)

/-- The day of a week and a weekday, counted from 1 for Monday. -/
def ofWeek? (year week weekday : Nat) : Option Date :=
  if year < 1 ∨ 9999 < year ∨ week < 1 ∨ weekday < 1 ∨ 7 < weekday then none
  else if 53 < week ∨ (week = 53 ∧ !hasLongWeeks year) then none
  else
    let firstDay := daysBeforeYear year + 1
    let shift := firstWeekday year
    let firstMonday := if 3 < shift then firstDay + 7 - shift else firstDay - shift
    ofOrdinalNear? year (firstMonday + (week - 1) * 7 + (weekday - 1))

/-- A number written in exactly `width` ASCII digits, and the characters after it. -/
def fixedNumber? (width : Nat) (characters : List Char) : Option (Nat × List Char) :=
  let front := characters.take width
  if front.length = width ∧ front.all Text.isAsciiDigit then
    some (Numeral.value (front.map Text.asciiDigitValue), characters.drop width)
  else none

/-- The rest of a form after a separator, which stands exactly in the extended forms. -/
def afterSeparator? (extended : Bool) (characters : List Char) : Option (List Char) :=
  if extended then
    match characters with
    | '-' :: rest => some rest
    | _ => none
  else some characters

/-- The day of a week form, given what follows the mark of the week. -/
def weekForm? (year : Nat) (extended : Bool) (characters : List Char) : Option Date := do
  let (week, rest) ← fixedNumber? 2 characters
  if rest.isEmpty then ofWeek? year week 1
  else
    let tail ← afterSeparator? extended rest
    let (weekday, _) ← fixedNumber? 1 tail
    ofWeek? year week weekday

/-- The day of a month form, given what follows the year. -/
def monthForm? (year : Nat) (extended : Bool) (characters : List Char) : Option Date := do
  let (month, rest) ← fixedNumber? 2 characters
  let tail ← afterSeparator? extended rest
  let (day, _) ← fixedNumber? 2 tail
  of? year month day

/-- The day that a text form denotes. Only the length of the whole form is checked at its end: in
the basic forms two further bytes may follow. -/
def ofIso? (text : String) : Option Date := do
  let characters := text.toList
  let length := text.utf8ByteSize
  if length ≠ 7 ∧ length ≠ 8 ∧ length ≠ 10 then none
  else
    let (year, rest) ← fixedNumber? 4 characters
    let extended := rest.head? == some '-'
    let unseparated := if extended then rest.drop 1 else rest
    match unseparated with
    | 'W' :: tail => weekForm? year extended tail
    | _ => monthForm? year extended unseparated

def isoText (date : Date) : String :=
  String.ofList (Numeral.paddedDigits 4 date.year ++ '-' :: Numeral.paddedDigits 2 date.month ++
    '-' :: Numeral.paddedDigits 2 date.day)

end Date

end DecisionTables
