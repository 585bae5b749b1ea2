import Provision.Calendar.Duration
import Provision.Command.Basic

/-!
The command that tells whether work is due. Its exit code is the answer, and when work is held back
it names the filters that hold it back.
-/

namespace Provision.Command

/-- How long ago a run was. -/
def since (previous now : Instant) : String :=
  let elapsed := previous.elapsed now
  if elapsed < 0 then "in the future"
  else Duration.text (elapsed / 1000000000).toNat ++ " ago"

def lastRun (previous : Option Moment) (now : Moment) : String :=
  match previous with
  | none => "last run: never"
  | some p => "last run: " ++ p.text ++ " (" ++ since p.instant now.instant ++ ")"

/-- The instant with a leap second counted as an ordinary one. -/
def settled (i : Instant) : Instant :=
  if i.isLeap then ⟨i.seconds + 1, i.nanos - 1000000000⟩ else i

/-- The time that counts as now: the given one, else a mock time, else that on the wall. -/
def clockTime (env : Environment) (now : Option Moment) : Stage Moment := do
  match now with
  | some now => return now
  | none =>
    match env.value? "MARIONETTE_MOCK_TIME" with
    | none => return Moment.ofInstant env.zone env.clock
    | some text =>
      match Moment.read env.zone text with
      | .error fault =>
        Stage.report [.mockTimeIgnored text fault.message]
        return Moment.ofInstant env.zone env.clock
      | .ok mock =>
        let offset := (env.clock.elapsed mock.instant).tdiv 1000000000
        Stage.report [.mockTimeEnabled text offset, .mockTimeInUse]
        return Moment.ofInstant env.zone (settled mock.instant)

/-- The events of a decision about one schedule. -/
def decisionEvents (book : ScheduleBook) (s : Schedule) (previous : Option Instant)
    (now : Moment) : List Event :=
  if book.settings.ignoreSchedules then [.ignored s.name]
  else [.filtersEvaluated s.name (s.report (previous.getD Instant.epoch) now)]

/-- The names of the filters that hold work back. -/
def blockers (book : ScheduleBook) (name : String) (previous : Option Instant) (now : Moment) :
    List String :=
  match book.get? name with
  | none => []
  | some s => (s.report (previous.getD Instant.epoch) now).blocking

/-- The answer with its exit code. -/
def verdict (book : ScheduleBook) (name : String) (previous : Option Instant) (now : Moment) :
    Option (Nat × String) :=
  (book.isDue? name previous now).map fun due =>
    if due then (0, name ++ ": due")
    else
      let held := ", ".intercalate (blockers book name previous now)
      (1, name ++ ": not due (blocked by " ++ held ++ ")")

def due (env : Environment) (config : Option String) (name : String)
    (previous now : Option Moment) : Stage (Nat × String) := do
  let book ← loadBook env config
  let now ← clockTime env now
  let run := previous.map (·.instant)
  match book.get? name, verdict book name run now with
  | some s, some (exit, answer) =>
    Stage.report (decisionEvents book s run now)
    if exit ≠ 0 then
      Stage.report [.filtersEvaluated s.name (s.report (run.getD Instant.epoch) now)]
    return (exit, lines [lastRun previous now, answer])
  | _, _ => Stage.fail (ScheduleBook.notFound name) []

end Provision.Command
