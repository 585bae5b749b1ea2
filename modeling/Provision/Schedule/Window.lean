import Provision.Calendar.TimeOfDay

/-!
Windows within a day, both ends included. They are read from two times with a dash between, and do
not go past midnight.
-/

namespace Provision

structure Window where
  start : TimeOfDay
  stop : TimeOfDay
  deriving Repr, DecidableEq

namespace Window

def contains (w : Window) (t : TimeOfDay) : Bool :=
  w.start.seconds ≤ t.seconds && t.seconds ≤ w.stop.seconds

def chars (w : Window) : List Char := w.start.chars ++ ' ' :: '-' :: ' ' :: w.stop.chars

/-- Text as `HH:MM:SS - HH:MM:SS`. -/
def text (w : Window) : String := String.ofList w.chars

/-- Why a text is no window: it has no dash, one of its times is bad, or it ends before it
starts. -/
inductive Fault where
  | noDash
  | time (fault : TimeOfDay.Fault)
  | inverted (start stop : TimeOfDay)
  deriving Repr, DecidableEq

/-- Reads all of a text. The first dash is the one between the times. -/
def read (text : List Char) : Except Fault Window :=
  match Text.splitFirst? '-' text with
  | none => .error .noDash
  | some (before, after) =>
    match TimeOfDay.read before with
    | .error fault => .error (.time fault)
    | .ok start =>
      match TimeOfDay.read after with
      | .error fault => .error (.time fault)
      | .ok stop =>
        if stop.seconds < start.seconds then .error (.inverted start stop) else .ok ⟨start, stop⟩

end Window

end Provision
