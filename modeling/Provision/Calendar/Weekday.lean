import Provision.Text.Blank
import Provision.Text.Digits

/-!
Days of the week and sets of them. Weeks begin on Sunday.
-/

namespace Provision

inductive Weekday where
  | sunday
  | monday
  | tuesday
  | wednesday
  | thursday
  | friday
  | saturday
  deriving Repr, DecidableEq

namespace Weekday

/-- All days, Sunday first. -/
def all : List Weekday := [sunday, monday, tuesday, wednesday, thursday, friday, saturday]

/-- Days from Sunday. -/
def index : Weekday → Nat
  | sunday => 0
  | monday => 1
  | tuesday => 2
  | wednesday => 3
  | thursday => 4
  | friday => 5
  | saturday => 6

/-- The day this many days after a Sunday, or before one. -/
def ofIndex (n : Int) : Weekday :=
  match n % 7 with
  | 0 => sunday
  | 1 => monday
  | 2 => tuesday
  | 3 => wednesday
  | 4 => thursday
  | 5 => friday
  | _ => saturday

/-- Three-letter name. -/
def name : Weekday → String
  | sunday => "Sun"
  | monday => "Mon"
  | tuesday => "Tue"
  | wednesday => "Wed"
  | thursday => "Thu"
  | friday => "Fri"
  | saturday => "Sat"

/-- The accepted spellings in lower case: the short name, the full one and a few in between. -/
def spellings : Weekday → List String
  | sunday => ["sun", "sunday"]
  | monday => ["mon", "monday"]
  | tuesday => ["tue", "tues", "tuesday"]
  | wednesday => ["wed", "wednesday"]
  | thursday => ["thu", "thurs", "thursday"]
  | friday => ["fri", "friday"]
  | saturday => ["sat", "saturday"]

/-- The single digit of a day. -/
def digit (d : Weekday) : List Char := Text.digits d.index

/-- The day that a trimmed token denotes, by its digit or by a spelling in any case of letters. -/
def denotedBy? (token : List Char) : Option Weekday :=
  all.find? fun d =>
    token == d.digit || d.spellings.any fun s => Text.lowerAscii token == s.toList

/-- Reads a token with blanks around it. -/
def read? (token : String) : Option Weekday := denotedBy? (Text.trim token.toList)

end Weekday

/-- A set of days as a byte with a bit for each day, the lowest for Sunday. The highest bit stands
for no day. -/
structure WeekdaySet where
  bits : BitVec 8
  deriving Repr, DecidableEq

namespace WeekdaySet

def empty : WeekdaySet := ⟨0⟩

def contains (s : WeekdaySet) (d : Weekday) : Bool := s.bits.getLsbD d.index

def insert (s : WeekdaySet) (d : Weekday) : WeekdaySet :=
  ⟨s.bits ||| BitVec.ofNat 8 (Nat.pow 2 d.index)⟩

def ofList (days : List Weekday) : WeekdaySet := days.foldl insert empty

/-- The days of a set, Sunday first. -/
def toList (s : WeekdaySet) : List Weekday := Weekday.all.filter s.contains

def text (s : WeekdaySet) : String := ", ".intercalate (s.toList.map Weekday.name)

end WeekdaySet

end Provision
