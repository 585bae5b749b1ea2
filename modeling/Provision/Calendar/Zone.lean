import Provision.Calendar.Date

/-!
Time zones as functions between instants and local clock readings, both counted in seconds: an
instant from the Unix epoch, a reading from midnight of 1970-01-01 on the local clock.
-/

namespace Provision

/-- A clock at a fixed distance east of UTC, or the clock of the American east coast, which is put
forward from March to November. -/
inductive Zone where
  | fixed (offset : Int)
  | eastern
  deriving Repr, DecidableEq

namespace Zone

def standardOffset : Int := -18000

def daylightOffset : Int := -14400

/-- The first Sunday on or after a day. -/
def sundayFrom (day : Int) : Int := day + (3 - day) % 7

/-- The second Sunday of March. -/
def springDay (year : Int) : Int := sundayFrom (Date.dayNumber ⟨year, 3, 8⟩)

/-- The first Sunday of November. -/
def autumnDay (year : Int) : Int := sundayFrom (Date.dayNumber ⟨year, 11, 1⟩)

/-- Two in the morning of standard time, when the clock goes forward. -/
def springInstant (year : Int) : Int := springDay year * 86400 + 7200 - standardOffset

/-- Two in the morning of daylight time, when the clock goes back. -/
def autumnInstant (year : Int) : Int := autumnDay year * 86400 + 7200 - daylightOffset

/-- Seconds east of UTC at an instant. -/
def offsetAt (zone : Zone) (instant : Int) : Int :=
  match zone with
  | .fixed offset => offset
  | .eastern =>
    let year := Calendar.yearOf (instant / 86400)
    if springInstant year ≤ instant ∧ instant < autumnInstant year then daylightOffset
    else standardOffset

/-- The offset under which a clock reading is understood. Readings within the hour that the clock
skips have none, but for the one at which it is skipped; those of the repeated hour are taken as
standard time. -/
def offsetOfReading? (zone : Zone) (reading : Int) : Option Int :=
  match zone with
  | .fixed offset => some offset
  | .eastern =>
    let year := Calendar.yearOf (reading / 86400)
    let spring := springDay year * 86400 + 7200
    let autumn := autumnDay year * 86400 + 3600
    if reading ≤ spring then some standardOffset
    else if reading < spring + 3600 then none
    else if reading < autumn then some daylightOffset
    else some standardOffset

end Zone

end Provision
