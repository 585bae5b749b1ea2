import Provision.Calendar.Moment

/-!
Reading of local dates and times in the form `YYYY-MM-DD HH:MM:SS`. Numbers may have fewer digits
than shown and blanks before them; a year with a sign may have any number of digits. A sixtieth
second is a leap second.
-/

namespace Provision.Moment

/-- Reads an unsigned number of one digit at least and `limit` at most. -/
def number? (limit : Nat) (cs : List Char) : Option (Nat × List Char) :=
  let ds := (cs.take limit).takeWhile Text.isDigit
  if ds.isEmpty then none else some (Text.ofDigits ds, cs.drop ds.length)

/-- Reads one of the short numbers of a date or a time. -/
def short? (cs : List Char) : Option (Nat × List Char) := number? 2 (Text.trimLeft cs)

def year? (cs : List Char) : Option (Int × List Char) :=
  match Text.trimLeft cs with
  | '-' :: rest => (number? rest.length rest).map fun (n, rest) => (-(n : Int), rest)
  | '+' :: rest => (number? rest.length rest).map fun (n, rest) => ((n : Int), rest)
  | rest => (number? 4 rest).map fun (n, rest) => ((n : Int), rest)

def mark? (c : Char) : List Char → Option (List Char)
  | d :: rest => if d = c then some rest else none
  | [] => none

/-- The years that dates are kept in. -/
def yearInRange (year : Int) : Bool := -262143 ≤ year && year ≤ 262142

/-- The last second of the last day on any clock. -/
def lastSecond : Int := (Calendar.yearStart 262143) * 86400 - 1

/-- A date with a time of day, before a zone is chosen. -/
structure ClockReading where
  date : Date
  time : TimeOfDay
  leap : Bool
  deriving Repr, DecidableEq

def ClockReading.seconds (r : ClockReading) : Int := r.date.dayNumber * 86400 + r.time.seconds

/-- The six numbers of a date and time, and nothing after them. -/
def fields? (cs : List Char) : Option (Date × Nat × Nat × Nat) := do
  let (year, cs) ← year? cs
  let (month, cs) ← short? (← mark? '-' cs)
  let (day, cs) ← short? (← mark? '-' cs)
  let (hour, cs) ← short? (Text.trimLeft cs)
  let (minute, cs) ← short? (← mark? ':' cs)
  let (second, cs) ← short? (← mark? ':' cs)
  if cs.isEmpty then some (⟨year, month, day⟩, hour, minute, second) else none

/-- Reads all of a trimmed text. -/
def clockReading? (cs : List Char) : Option ClockReading := do
  let (date, hour, minute, second) ← fields? cs
  if yearInRange date.year ∧ date.Exists then
    let leap := second == 60
    let time ← TimeOfDay.ofParts? hour minute (if leap then 59 else second)
    return ⟨date, time, leap⟩
  else none

/-- Why a text names no moment: it has not the form of a date and time, or no clock shows it. -/
inductive Fault where
  | form (text : String)
  | skipped (text : String)
  deriving Repr, DecidableEq

def Fault.message : Fault → String
  | .form text => "Invalid time '" ++ text ++ "': expected YYYY-MM-DD HH:MM:SS"
  | .skipped text => "Invalid time '" ++ text ++ "': expected a local time that exists"

/-- The moment at which the clock of a zone shows this. -/
def ofClockReading? (zone : Zone) (r : ClockReading) : Option Moment := do
  let offset ← zone.offsetOfReading? r.seconds
  let seconds := r.seconds - offset
  if lastSecond < seconds then none
  else return ⟨⟨seconds, if r.leap then 1000000000 else 0⟩, offset, zone⟩

/-- Reads a text as a moment on the clock of a zone. -/
def read (zone : Zone) (text : String) : Except Fault Moment :=
  match clockReading? (Text.trim text.toList) with
  | none => .error (.form text)
  | some r =>
    match ofClockReading? zone r with
    | none => .error (.skipped text)
    | some m => .ok m

end Provision.Moment
