import Provision.Calendar.Moment
import Provision.Schedule.Basic

/-!
The decision whether work under a schedule may run now. Three filters have to pass: the period with
regard to the previous run, and the windows and the days with regard to the local clock.
-/

namespace Provision

/-- The verdict of each filter. -/
structure Report where
  period : Bool
  window : Bool
  weekday : Bool
  deriving Repr, DecidableEq

def Report.passes (r : Report) : Bool := r.period && r.window && r.weekday

/-- The names of the filters that failed. -/
def Report.blocking (r : Report) : List String :=
  [("period", r.period), ("range", r.window), ("weekday", r.weekday)].filterMap fun f =>
    if f.2 then none else some f.1

namespace Schedule

/-- Whole seconds that have to pass between two runs. -/
def spacing (s : Schedule) (length : Nat) : Nat := length / s.runs

/-- The period filter. A previous run is read on the clock of the zone that `now` is in. -/
def periodPasses (s : Schedule) (previous : Instant) (now : Moment) : Bool :=
  match s.period with
  | none => true
  | some p =>
    match p.seconds? with
    | none => false
    | some length =>
      match s.periodMatch with
      | .distance => (s.spacing length : Int) ≤ now.instant.seconds - previous.seconds
      | .number =>
        p.bucketStart? (Moment.ofInstant now.zone previous).reading ≠ p.bucketStart? now.reading

def windowPasses (s : Schedule) (now : Moment) : Bool :=
  s.windows.isEmpty || s.windows.any (·.contains now.timeOfDay)

def weekdayPasses (s : Schedule) (now : Moment) : Bool :=
  match s.weekdays with
  | some days => days.contains now.weekday
  | none => true

def report (s : Schedule) (previous : Instant) (now : Moment) : Report :=
  ⟨s.periodPasses previous now, s.windowPasses now, s.weekdayPasses now⟩

/-- Work last run at `previous` may run now. -/
def allows (s : Schedule) (previous : Instant) (now : Moment) : Bool :=
  (s.report previous now).passes

end Schedule

end Provision
