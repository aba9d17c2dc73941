import DecisionTables.Number.Digits

/-!
# Time zones

A zone says how far its clock is ahead of universal time. The clock of a fixed zone always runs by the
same offset. That of a named zone is put forward and back at certain instants, so that it shows some
times never and others twice; which of two readings is meant is then told by a flag. Instants, offsets
and readings of a clock are counted in microseconds, instants and readings from the beginning of the
calendar.
-/

namespace DecisionTables

/-- An instant from which the clock of a zone runs by another offset. -/
structure ZoneChange where
  instant : Int
  offset : Int
  deriving DecidableEq

/-- The reading of the clock from which a change counts, given the offset before it. Where readings are
skipped or occur twice, the first ones still count by the old offset unless the later ones are meant. -/
def ZoneChange.reading (later : Bool) (current : Int) (change : ZoneChange) : Int :=
  change.instant + if later then min current change.offset else max current change.offset

namespace TimeZone

/-- Whether changes follow each other, no two of them so closely that a reading is touched by both. -/
def InOrder (current : Int) : List ZoneChange → Prop
  | [] => True
  | change :: rest =>
      (∀ next ∈ rest.head?, change.reading false current ≤ next.reading true change.offset) ∧
        InOrder change.offset rest

instance decidableInOrder : (current : Int) → (changes : List ZoneChange) →
    Decidable (InOrder current changes)
  | _, [] => .isTrue trivial
  | _, change :: rest =>
      have := decidableInOrder change.offset rest
      inferInstanceAs (Decidable (_ ∧ _))

end TimeZone

/-- A zone whose clock is changed, with the offset before the first change. -/
structure TimeZone where
  name : String
  initial : Int
  changes : List ZoneChange
  inOrder : TimeZone.InOrder initial changes
  deriving DecidableEq

namespace TimeZone

/-- The offset that counts at a reading of the clock, given the one before the changes. -/
def offsetFrom (later : Bool) (clock : Int) : (current : Int) → List ZoneChange → Int
  | current, [] => current
  | current, change :: rest =>
      if clock < change.reading later current then current
      else offsetFrom later clock change.offset rest

def offset (zone : TimeZone) (later : Bool) (clock : Int) : Int :=
  offsetFrom later clock zone.initial zone.changes

end TimeZone

/-- How far a clock is ahead of universal time: by a fixed offset, or as in a zone with a name. -/
inductive Zone where
  | fixed (offset : Int)
  | named (zone : TimeZone)
  deriving DecidableEq

namespace Zone

def offset (later : Bool) (clock : Int) : Zone → Int
  | .fixed offset => offset
  | .named zone => zone.offset later clock

/-- An offset in hours and minutes, with seconds and their fraction only if they are not zero. -/
def offsetText (offset : Int) : List Char :=
  let magnitude := offset.natAbs
  let seconds := magnitude / 1000000
  (if offset < 0 then '-' else '+') :: Numeral.paddedDigits 2 (seconds / 3600) ++
    ':' :: Numeral.paddedDigits 2 (seconds / 60 % 60) ++
    (if magnitude % 60000000 = 0 then [] else ':' :: Numeral.paddedDigits 2 (seconds % 60)) ++
    (if magnitude % 1000000 = 0 then [] else '.' :: Numeral.paddedDigits 6 (magnitude % 1000000))

end Zone

end DecisionTables
