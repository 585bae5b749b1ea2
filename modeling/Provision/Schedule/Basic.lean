import Provision.Calendar.Weekday
import Provision.Schedule.Period
import Provision.Schedule.Window

/-!
Schedules: when work may run. A schedule is made from attributes, whose windows and days are still
text; attributes that contradict themselves or cannot be read are refused for the first reason in a
fixed order.
-/

namespace Provision

/-- Attributes of a schedule as they are written. -/
structure Attributes where
  period : Option Period := none
  periodMatch : PeriodMatch := .distance
  runs : Nat := 1
  windows : List String := []
  weekdays : List String := []
  deriving Repr, DecidableEq

/-- Why attributes make no schedule. -/
inductive ScheduleError where
  | invalidWeekday (token : String)
  | invalidWindow (text : String) (fault : Option TimeOfDay.Fault)
  | invertedWindow (text : String) (start stop : TimeOfDay)
  | zeroRuns
  | runsWithNumberMatch (runs : Nat)
  deriving Repr, DecidableEq

def ScheduleError.message : ScheduleError → String
  | .invalidWeekday token => "'" ++ token ++ "' is not a valid day of the week"
  | .invalidWindow text none => "Invalid range '" ++ text ++ "': expected 'start - end'"
  | .invalidWindow text (some fault) => "Invalid range '" ++ text ++ "': " ++ fault.message
  | .invertedWindow text start stop =>
    "Range '" ++ text ++ "' starts at " ++ start.text ++ ", after its end at " ++ stop.text
  | .zeroRuns => "Repeat must be at least 1"
  | .runsWithNumberMatch runs =>
    "Repeat " ++ String.ofList (Text.digits runs) ++ " requires periodmatch 'distance'"

structure Schedule where
  name : String
  period : Option Period
  periodMatch : PeriodMatch
  windows : List Window
  runs : Nat
  weekdays : Option WeekdaySet
  deriving Repr, DecidableEq

namespace Schedule

def window (text : String) : Except ScheduleError Window :=
  match Window.read text.toList with
  | .ok w => .ok w
  | .error .noDash => .error (.invalidWindow text none)
  | .error (.time fault) => .error (.invalidWindow text (some fault))
  | .error (.inverted start stop) => .error (.invertedWindow text start stop)

def weekday (token : String) : Except ScheduleError Weekday :=
  match Weekday.read? token with
  | some d => .ok d
  | none => .error (.invalidWeekday token)

/-- The results of a check on each member of a list, or its first failure. -/
def each {α β : Type} (check : α → Except ScheduleError β) : List α → Except ScheduleError (List β)
  | [] => .ok []
  | a :: rest =>
    match check a with
    | .error e => .error e
    | .ok b =>
      match each check rest with
      | .error e => .error e
      | .ok bs => .ok (b :: bs)

/-- The set of days that some tokens denote. -/
def weekdaySet (tokens : List String) : Except ScheduleError WeekdaySet :=
  match each weekday tokens with
  | .error e => .error e
  | .ok days => .ok (WeekdaySet.ofList days)

/-- The days allowed; no tokens at all allow every day. -/
def weekdaysOf (tokens : List String) : Except ScheduleError (Option WeekdaySet) :=
  if tokens.isEmpty then .ok none
  else
    match weekdaySet tokens with
    | .error e => .error e
    | .ok days => .ok (some days)

def ofAttributes (name : String) (a : Attributes) : Except ScheduleError Schedule :=
  if a.runs = 0 then .error .zeroRuns
  else if 1 < a.runs ∧ a.periodMatch = .number then .error (.runsWithNumberMatch a.runs)
  else
    match each window a.windows with
    | .error e => .error e
    | .ok windows =>
      match weekdaysOf a.weekdays with
      | .error e => .error e
      | .ok weekdays => .ok ⟨name, a.period, a.periodMatch, windows, a.runs, weekdays⟩

/-- The attributes that are accepted, and the schedule they make. -/
theorem ofAttributes_eq_ok_iff {name : String} {a : Attributes} {s : Schedule} :
    ofAttributes name a = .ok s ↔
      a.runs ≠ 0 ∧ ¬ (1 < a.runs ∧ a.periodMatch = .number) ∧ ∃ windows weekdays,
        each window a.windows = .ok windows ∧ weekdaysOf a.weekdays = .ok weekdays ∧
          s = ⟨name, a.period, a.periodMatch, windows, a.runs, weekdays⟩ := by
  unfold ofAttributes
  split
  case isTrue zero => exact iff_of_false nofun fun h => h.1 zero
  case isFalse positive =>
    split
    case isTrue numbered => exact iff_of_false nofun fun h => h.2.1 numbered
    case isFalse allowed =>
      simp only [ne_eq, positive, allowed, not_false_eq_true, true_and]
      cases each window a.windows with
      | error e => simp only [reduceCtorEq, false_and, exists_false]
      | ok windows =>
        cases weekdaysOf a.weekdays with
        | error e => simp only [reduceCtorEq, false_and, and_false, exists_false]
        | ok weekdays => simp only [Except.ok.injEq, exists_and_left, exists_eq_left', eq_comm]

/-- The schedule under which work may always run. -/
def unrestricted (name : String) : Schedule := ⟨name, none, .distance, [], 1, none⟩

/-- The built-in schedules: one for each period, under its name, and `puppet`, twice an hour. -/
def builtins : List Schedule :=
  Period.all.map (fun p => { unrestricted p.name with period := some p }) ++
    [{ unrestricted "puppet" with period := some .hourly, runs := 2 }]

/-- One line that shows a schedule; attributes that restrict nothing are left out. -/
def text (s : Schedule) : String :=
  let period := match s.period with
    | some p => " period=" ++ p.name ++ " (" ++ s.periodMatch.name ++ ")"
    | none => " period=any"
  let runs := if 1 < s.runs then " repeat=" ++ String.ofList (Text.digits s.runs) else ""
  let windows :=
    if s.windows.isEmpty then ""
    else " range=[" ++ ", ".intercalate (s.windows.map Window.text) ++ "]"
  let weekdays := match s.weekdays with
    | some days => " weekday=[" ++ days.text ++ "]"
    | none => ""
  s.name ++ ":" ++ period ++ runs ++ windows ++ weekdays

end Schedule

end Provision
