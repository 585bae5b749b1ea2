import Provision.Config.Entry
import Provision.Text.Blank

/-!
Validation of configurations. Every entry that makes no schedule is reported, in the order of the
entries and once each: for a blank name, else for a name that an earlier entry has, else for its
attributes. A configuration without such entries makes a book.
-/

namespace Provision.Config

inductive Fault where
  | emptyName
  | duplicateName (name : String)
  | badSchedule (name : String) (error : ScheduleError)
  deriving Repr, DecidableEq

def Fault.message : Fault → String
  | .emptyName => "Schedule name cannot be empty"
  | .duplicateName name => "Duplicate schedule name: " ++ name
  | .badSchedule name error => "Schedule '" ++ name ++ "': " ++ error.message

/-- The schedules that some entries make and the faults of the others, where `seen` are the names
of earlier entries. -/
def check (seen : List String) : List Entry → List Schedule × List Fault
  | [] => ([], [])
  | e :: rest =>
    if (Text.trim e.name.toList).isEmpty then
      let (schedules, faults) := check seen rest
      (schedules, .emptyName :: faults)
    else if e.name ∈ seen then
      let (schedules, faults) := check seen rest
      (schedules, .duplicateName e.name :: faults)
    else
      let (schedules, faults) := check (e.name :: seen) rest
      match Schedule.ofAttributes e.name e.attributes with
      | .ok s => (s :: schedules, faults)
      | .error error => (schedules, .badSchedule e.name error :: faults)

/-- The schedules of all entries that make one. -/
def schedules (c : Config) : List Schedule := (check [] c.entries).1

/-- The faults of all entries that make none. -/
def faults (c : Config) : List Fault := (check [] c.entries).2

/-- The book of a configuration, or all its faults. -/
def book (c : Config) : Except (List Fault) ScheduleBook :=
  if c.faults.isEmpty then .ok ((ScheduleBook.new c.settings).insertAll c.schedules)
  else .error c.faults

end Provision.Config
