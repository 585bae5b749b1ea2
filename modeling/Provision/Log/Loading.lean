import Provision.Config.Load
import Provision.Log.Event

/-!
What is reported while a configuration is loaded: that its file is read, each schedule that is
registered, and the book that comes of it.
-/

namespace Provision

/-- The events of registering schedules in a book. -/
def ScheduleBook.registrations (book : ScheduleBook) : List Schedule → List Event
  | [] => []
  | s :: rest =>
    let (old, book) := book.register s
    (if old.isSome then .replaced s.name else .registered s.name) :: book.registrations rest

namespace Config

/-- The events of making the book of a configuration. -/
def bookEvents (c : Config) : List Event :=
  match c.book with
  | .error _ => []
  | .ok book =>
    (ScheduleBook.new c.settings).registrations c.schedules ++
      [.loaded book.size book.settings.ignoreSchedules]

/-- The events of loading a file. -/
def loadEvents (path : String) (file : FileState) : List Event :=
  .loading path ::
    match file with
    | .text contents =>
      match readCurrent contents with
      | .ok c => c.bookEvents
      | .error _ => []
    | _ => []

end Config

end Provision
