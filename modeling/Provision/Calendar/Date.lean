import Provision.Calendar.Weekday

/-!
The Gregorian calendar, extended to all years. Days are counted from 1970-01-01, which is day 0; a
date is a year, a month and a day of the month, and the two count the same days.
-/

namespace Provision.Calendar

def isLeapYear (year : Int) : Bool := year % 4 = 0 && (year % 100 ≠ 0 || year % 400 = 0)

/-- One in a leap year, else zero. -/
def leapDay (year : Int) : Int := if isLeapYear year then 1 else 0

/-- Day number of the first of January. -/
def yearStart (year : Int) : Int :=
  let before := year - 1
  365 * (year - 1970) + (before / 4 - before / 100 + before / 400) - 477

/-- Days of a year before the first of a month. The month after December stands for the end of the
year. -/
def monthStart (leap : Int) : Nat → Int
  | 0 | 1 => 0
  | 2 => 31
  | 3 => 59 + leap
  | 4 => 90 + leap
  | 5 => 120 + leap
  | 6 => 151 + leap
  | 7 => 181 + leap
  | 8 => 212 + leap
  | 9 => 243 + leap
  | 10 => 273 + leap
  | 11 => 304 + leap
  | 12 => 334 + leap
  | _ => 365 + leap

/-- The month of a day of the year, where the first of January is day 0. -/
def monthOf (leap dayOfYear : Int) : Nat :=
  if dayOfYear < monthStart leap 2 then 1
  else if dayOfYear < monthStart leap 3 then 2
  else if dayOfYear < monthStart leap 4 then 3
  else if dayOfYear < monthStart leap 5 then 4
  else if dayOfYear < monthStart leap 6 then 5
  else if dayOfYear < monthStart leap 7 then 6
  else if dayOfYear < monthStart leap 8 then 7
  else if dayOfYear < monthStart leap 9 then 8
  else if dayOfYear < monthStart leap 10 then 9
  else if dayOfYear < monthStart leap 11 then 10
  else if dayOfYear < monthStart leap 12 then 11
  else 12

/-- The year of a day. The mean length of a year gives a guess that is off by one at most. -/
def yearOf (day : Int) : Int :=
  let guess := 1970 + 400 * day / 146097
  if day < yearStart guess then guess - 1
  else if yearStart (guess + 1) ≤ day then guess + 1
  else guess

/-- 1970-01-01 was a Thursday. -/
def weekdayOf (day : Int) : Weekday := Weekday.ofIndex (day + 4)

end Provision.Calendar

namespace Provision

/-- A date, which need not exist. -/
structure Date where
  year : Int
  month : Nat
  day : Nat
  deriving Repr, DecidableEq

namespace Date

open Calendar

/-- The date is in the calendar. -/
def Exists (d : Date) : Prop :=
  1 ≤ d.month ∧ d.month ≤ 12 ∧ 1 ≤ d.day ∧
    (d.day : Int) ≤ monthStart (leapDay d.year) (d.month + 1) - monthStart (leapDay d.year) d.month

instance (d : Date) : Decidable d.Exists := inferInstanceAs (Decidable (_ ∧ _))

def dayNumber (d : Date) : Int :=
  yearStart d.year + monthStart (leapDay d.year) d.month + d.day - 1

def ofDayNumber (n : Int) : Date :=
  let year := yearOf n
  let dayOfYear := n - yearStart year
  let month := monthOf (leapDay year) dayOfYear
  ⟨year, month, (dayOfYear - monthStart (leapDay year) month + 1).toNat⟩

/-- Day number of the first of the month that a day is in. -/
def firstOfMonth (n : Int) : Int := dayNumber { ofDayNumber n with day := 1 }

end Date

end Provision
