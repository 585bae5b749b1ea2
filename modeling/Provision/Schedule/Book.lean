import Provision.KeyedList
import Provision.Schedule.Report

/-!
Books of schedules: settings, and schedules under their names. Work that has never run counts as
last run at the epoch.
-/

namespace Provision

structure Settings where
  /-- Every registered schedule allows its work, whatever its filters say. -/
  ignoreSchedules : Bool := false
  /-- The built-in schedules are registered. -/
  defaultSchedules : Bool := true
  deriving Repr, DecidableEq

structure ScheduleBook where
  settings : Settings
  schedules : KeyedList Schedule
  deriving Repr, DecidableEq

namespace ScheduleBook

/-- Registers a schedule under its name; the first component is the one that it replaces. -/
def register (book : ScheduleBook) (s : Schedule) : Option Schedule × ScheduleBook :=
  let (old, schedules) := KeyedList.exchange s.name s book.schedules
  (old, { book with schedules })

def insert (book : ScheduleBook) (s : Schedule) : ScheduleBook := (book.register s).2

def insertAll (book : ScheduleBook) (schedules : List Schedule) : ScheduleBook :=
  schedules.foldl insert book

/-- The book of the built-in schedules, or an empty one if they are turned off. -/
def new (settings : Settings) : ScheduleBook :=
  let empty : ScheduleBook := ⟨settings, []⟩
  if settings.defaultSchedules then empty.insertAll Schedule.builtins else empty

def get? (book : ScheduleBook) (name : String) : Option Schedule :=
  KeyedList.get? name book.schedules

/-- Registered names, ascending. -/
def names (book : ScheduleBook) : List String := KeyedList.keys book.schedules

/-- Registered schedules in the order of their names. -/
def toList (book : ScheduleBook) : List Schedule := KeyedList.values book.schedules

def size (book : ScheduleBook) : Nat := book.schedules.length

/-- Whether work under a schedule is due, if there is a schedule of this name. -/
def isDue? (book : ScheduleBook) (name : String) (previous : Option Instant) (now : Moment) :
    Option Bool :=
  (book.get? name).map fun s =>
    book.settings.ignoreSchedules || s.allows (previous.getD Instant.epoch) now

/-- The names of all schedules whose work is due, given the last runs. -/
def due (book : ScheduleBook) (previous : String → Option Instant) (now : Moment) : List String :=
  (book.schedules.filter fun entry =>
    book.settings.ignoreSchedules ||
      entry.2.allows ((previous entry.1).getD Instant.epoch) now).map (·.1)

/-- Message for a name that is not registered. -/
def notFound (name : String) : String := "Schedule not found: " ++ name

end ScheduleBook

end Provision
