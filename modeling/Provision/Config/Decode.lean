import Provision.Config.Entry
import Provision.Toml.Reader

/-!
Configurations in TOML. Nothing is converted between kinds of values, unknown keys are passed over,
and a record may also be written as an array of its fields in order, or as a date or time, which
sets none of its fields.
-/

namespace Provision.Config

/-- A record that is written as a table, or as an array of its fields. -/
inductive Record where
  | keyed (entries : List (String × Toml))
  | listed (items : List Toml)

/-- A date or time counts as a table that has none of the keys of a record. -/
def Record.ofToml? : Toml → Option Record
  | .table entries => some (.keyed entries)
  | .array items => some (.listed items)
  | .dateTime _ => some (.keyed [])
  | _ => none

/-- The value of a field, known by its key and its place. -/
def Record.get? (r : Record) (key : String) (place : Nat) : Option Toml :=
  match r with
  | .keyed entries => Toml.get? key entries
  | .listed items => items[place]?

def text? : Toml → Option String
  | .string s => some s
  | _ => none

def flag? : Toml → Option Bool
  | .boolean b => some b
  | _ => none

/-- A natural number of 32 bits. -/
def count? : Toml → Option Nat
  | .integer n => if 0 ≤ n.toInt ∧ n.toInt < Int.pow 2 32 then some n.toInt.toNat else none
  | _ => none

/-- The name in a choice among names: a string, or a table with that one key and nothing under
it. -/
def choice? : Toml → Option String
  | .string s => some s
  | .table [(s, .table [])] => some s
  | .table [(s, .array [])] => some s
  | _ => none

def token? : Toml → Option Token
  | .string s => some (.text s)
  | .integer n => some (.number n)
  | _ => none

def tokens? : Toml → Option Tokens
  | .array items => (items.mapM token?).map .many
  | v => (token? v).map .one

/-- A field that may be left out, read by `read` where it is there. -/
def optional? {α : Type} (read : Toml → Option α) : Option Toml → Option (Option α)
  | none => some none
  | some v => (read v).map some

def settings? (v : Toml) : Option Settings := do
  let r ← Record.ofToml? v
  let ignore ← optional? flag? (r.get? "ignore_schedules" 0)
  let defaults ← optional? flag? (r.get? "default_schedules" 1)
  return ⟨ignore.getD false, defaults.getD true⟩

/-- An array has to hold all six fields. -/
def isComplete : Record → Bool
  | .keyed _ => true
  | .listed items => 6 ≤ items.length

def entry? (v : Toml) : Option Entry := do
  let r ← Record.ofToml? v
  if !isComplete r then none
  let name ← (r.get? "name" 0).bind text?
  let period ← optional? (fun v => (choice? v).bind Period.ofName?) (r.get? "period" 1)
  let periodMatch ←
    optional? (fun v => (choice? v).bind PeriodMatch.ofName?) (r.get? "periodmatch" 2)
  let runs ← optional? count? (r.get? "repeat" 3)
  let windows ← optional? tokens? (r.get? "range" 4)
  let weekdays ← optional? tokens? (r.get? "weekday" 5)
  return ⟨name, period, periodMatch, runs, windows, weekdays⟩

def entries? : Toml → Option (List Entry)
  | .array items => items.mapM entry?
  | _ => none

def ofToml? (entries : List (String × Toml)) : Option Config := do
  let version ← (Toml.get? "config_version" entries).bind count?
  let settings ← optional? settings? (Toml.get? "settings" entries)
  let schedules ← optional? entries? (Toml.get? "schedules" entries)
  return ⟨version, settings.getD {}, schedules.getD []⟩

/-- Reads all of a text as a configuration, whatever its version. -/
def read? (text : String) : Option Config := (Toml.read? text.toList).bind ofToml?

end Provision.Config
