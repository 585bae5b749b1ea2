import Provision.Calendar.Date

/-!
Recurrence periods. Each but `never` has a length in seconds and cuts local time into buckets: clock
hours, days, weeks from Sunday, calendar months.
-/

namespace Provision

inductive Period where
  | hourly
  | daily
  | weekly
  | monthly
  | never
  deriving Repr, DecidableEq

namespace Period

def all : List Period := [hourly, daily, weekly, monthly, never]

def name : Period → String
  | hourly => "hourly"
  | daily => "daily"
  | weekly => "weekly"
  | monthly => "monthly"
  | never => "never"

def ofName? (name : String) : Option Period := all.find? (·.name == name)

/-- Length in seconds; a month counts as thirty days. -/
def seconds? : Period → Option Nat
  | hourly => some 3600
  | daily => some 86400
  | weekly => some 604800
  | monthly => some 2592000
  | never => none

/-- The clock reading at which the bucket of a reading begins. -/
def bucketStart? (p : Period) (reading : Int) : Option Int :=
  let day := reading / 86400
  match p with
  | hourly => some (reading / 3600 * 3600)
  | daily => some (day * 86400)
  | weekly => some ((day - (Calendar.weekdayOf day).index) * 86400)
  | monthly => some (Date.firstOfMonth day * 86400)
  | never => none

end Period

/-- How it is decided that a period is over: enough time has passed, or another bucket has begun. -/
inductive PeriodMatch where
  | distance
  | number
  deriving Repr, DecidableEq

namespace PeriodMatch

def name : PeriodMatch → String
  | distance => "distance"
  | number => "number"

def ofName? (name : String) : Option PeriodMatch := [distance, number].find? (·.name == name)

end PeriodMatch

end Provision
