import Provision.Calendar.TimeOfDay
import Provision.Calendar.Zone

/-!
Instants, and moments: instants read on the clock of a zone. A moment keeps the offset under which
it was made, which at a change of the clock need not be the one that the zone has at that instant.
-/

namespace Provision

/-- Seconds since the Unix epoch and nanoseconds. In a leap second the seconds stand still and the
nanoseconds run on from one billion. -/
structure Instant where
  seconds : Int
  nanos : Nat
  deriving Repr, DecidableEq

namespace Instant

def epoch : Instant := ⟨0, 0⟩

/-- A leap second comes after the second in which it stands. -/
instance : LT Instant :=
  ⟨fun i j => i.seconds < j.seconds ∨ i.seconds = j.seconds ∧ i.nanos < j.nanos⟩

instance : LE Instant :=
  ⟨fun i j => i.seconds < j.seconds ∨ i.seconds = j.seconds ∧ i.nanos ≤ j.nanos⟩

theorem lt_iff (i j : Instant) :
    i < j ↔ i.seconds < j.seconds ∨ i.seconds = j.seconds ∧ i.nanos < j.nanos := Iff.rfl

theorem le_iff (i j : Instant) :
    i ≤ j ↔ i.seconds < j.seconds ∨ i.seconds = j.seconds ∧ i.nanos ≤ j.nanos := Iff.rfl

instance (i j : Instant) : Decidable (i < j) := inferInstanceAs (Decidable (_ ∨ _))

instance (i j : Instant) : Decidable (i ≤ j) := inferInstanceAs (Decidable (_ ∨ _))

def isLeap (i : Instant) : Bool := 1000000000 ≤ i.nanos

/-- The instant a number of seconds later. Going on from a leap second uses up the second itself. -/
def advance (i : Instant) (seconds : Int) : Instant :=
  if i.isLeap then
    if seconds = 0 then i
    else if 0 < seconds then ⟨i.seconds + seconds, i.nanos - 1000000000⟩
    else ⟨i.seconds + 1 + seconds, i.nanos - 1000000000⟩
  else ⟨i.seconds + seconds, i.nanos⟩

/-- Nanoseconds from `earlier` to `later`. A leap second in between counts when it lies between the
two times of day. -/
def elapsed (earlier later : Instant) : Int :=
  let days := later.seconds / 86400 - earlier.seconds / 86400
  let s := later.seconds % 86400
  let t := earlier.seconds % 86400
  let adjust : Int :=
    if t < s then (if earlier.isLeap then 1 else 0)
    else if s < t then (if later.isLeap then -1 else 0)
    else 0
  (days * 86400 + (s - t) + adjust) * 1000000000 + ((later.nanos : Int) - earlier.nanos)

end Instant

structure Moment where
  instant : Instant
  offset : Int
  zone : Zone
  deriving Repr, DecidableEq

namespace Moment

/-- An instant on the clock of a zone. -/
def ofInstant (zone : Zone) (i : Instant) : Moment := ⟨i, zone.offsetAt i.seconds, zone⟩

/-- Seconds on the local clock since its midnight of 1970-01-01. -/
def reading (m : Moment) : Int := m.instant.seconds + m.offset

def day (m : Moment) : Int := m.reading / 86400

def date (m : Moment) : Date := Date.ofDayNumber m.day

def weekday (m : Moment) : Weekday := Calendar.weekdayOf m.day

/-- The time on the local clock; a leap second shows as the last second of its minute. -/
def timeOfDay (m : Moment) : TimeOfDay := TimeOfDay.ofSeconds (m.reading % 86400).toNat

def advance (m : Moment) (seconds : Int) : Moment := ofInstant m.zone (m.instant.advance seconds)

/-- A year has at least four digits; one outside of 0 to 9999 has a sign. -/
def yearChars (year : Int) : List Char :=
  if 0 ≤ year ∧ year ≤ 9999 then Text.paddedDigits 4 year.toNat
  else (if year < 0 then '-' else '+') :: Text.paddedDigits 4 year.natAbs

def chars (m : Moment) : List Char :=
  let d := m.date
  let t := m.timeOfDay
  let second := if m.instant.isLeap then t.second.val + 1 else t.second.val
  yearChars d.year ++ '-' :: (Text.paddedDigits 2 d.month ++ '-' :: (Text.paddedDigits 2 d.day ++
    ' ' :: (Text.paddedDigits 2 t.hour ++ ':' :: (Text.paddedDigits 2 t.minute ++
      ':' :: Text.paddedDigits 2 second))))

/-- Local date and time as `YYYY-MM-DD HH:MM:SS`. -/
def text (m : Moment) : String := String.ofList m.chars

end Moment

end Provision
