import Provision.Toml.Basic

/-!
Documents under construction. A table remembers how it came about, since that decides who may add to
it: one written under a header is closed to dotted keys, one that dotted keys made is closed to
headers, and one that a longer header made only by the way may still get a header of its own.
-/

namespace Provision.Toml

inductive Origin where
  | header
  | byTheWay
  | dotted
  deriving Repr, DecidableEq

inductive Node where
  | value (v : Toml)
  | table (origin : Origin) (entries : List (String × Node))
  /-- Tables under one repeated header, the latest first; entries go into that one. -/
  | tables (latest : List (String × Node)) (earlier : List (List (String × Node)))

namespace Node

abbrev Entries := List (String × Node)

def find? (key : String) (entries : Entries) : Option Node :=
  (entries.find? (·.1 == key)).map (·.2)

def replace (key : String) (node : Node) (entries : Entries) : Entries :=
  entries.map fun e => if e.1 == key then (key, node) else e

/-- Changes the table at the end of a path, making the tables on the way that are not there yet.
`dotted` tells a dotted key from a header. -/
def under? (dotted : Bool) (change : Origin → Entries → Option Entries) :
    List String → Origin → Entries → Option Entries
  | [], origin, entries => change origin entries
  | key :: path, _, entries =>
    match find? key entries with
    | none => do
      let origin := if dotted then Origin.dotted else Origin.byTheWay
      let inner ← under? dotted change path origin []
      return entries ++ [(key, .table origin inner)]
    | some (.value _) => none
    | some (.table origin inner) =>
      if dotted ∧ origin = .header then none
      else do
        let inner ← under? dotted change path origin inner
        return replace key (.table origin inner) entries
    | some (.tables latest earlier) => do
      let latest ← under? dotted change path .header latest
      return replace key (.tables latest earlier) entries

/-- Enters a value under a dotted key, given as the path to its last part and that part. -/
def enter? (path : List String) (key : String) (v : Toml) (origin : Origin) (entries : Entries) :
    Option Entries :=
  let put (origin : Origin) (inner : Entries) : Option Entries :=
    if (origin == .dotted) == path.isEmpty then none
    else if (find? key inner).isSome then none
    else some (inner ++ [(key, .value v)])
  under? true put path origin entries

/-- Opens the table of a header. -/
def openTable? (key : String) (entries : Entries) : Option Entries :=
  match find? key entries with
  | none => some (entries ++ [(key, .table .header [])])
  | some (.table .byTheWay inner) => some (replace key (.table .header inner) entries)
  | some _ => none

/-- Opens one more table of a repeated header. -/
def openNext? (key : String) (entries : Entries) : Option Entries :=
  match find? key entries with
  | none => some (entries ++ [(key, .tables [] [])])
  | some (.tables latest earlier) => some (replace key (.tables [] (latest :: earlier)) entries)
  | some _ => none

mutual

/-- The finished value of a node. -/
def toToml : Node → Toml
  | .value v => v
  | .table _ entries => .table (toTomlEntries entries)
  | .tables latest earlier =>
    .array ((.table (toTomlEntries latest) :: toTomlTables earlier).reverse)

def toTomlEntries : List (String × Node) → List (String × Toml)
  | [] => []
  | (key, node) :: rest => (key, node.toToml) :: toTomlEntries rest

def toTomlTables : List (List (String × Node)) → List Toml
  | [] => []
  | entries :: rest => .table (toTomlEntries entries) :: toTomlTables rest

end

end Node

/-- A document and the path of the header that the next lines stand under. -/
structure Document where
  entries : Node.Entries
  header : List String

namespace Document

def empty : Document := ⟨[], []⟩

/-- A line `path.key = v`. -/
def enter? (d : Document) (path : List String) (key : String) (v : Toml) : Option Document := do
  let entries ← Node.under? false (Node.enter? path key v) d.header .header d.entries
  return { d with entries }

/-- A line that opens the table `path.key`, or one more of them if it is a repeated header. -/
def open? (d : Document) (repeated : Bool) (path : List String) (key : String) :
    Option Document := do
  let change := if repeated then Node.openNext? key else Node.openTable? key
  let entries ← Node.under? false (fun _ entries => change entries) path .header d.entries
  return ⟨entries, path ++ [key]⟩

def toToml (d : Document) : List (String × Toml) := Node.toTomlEntries d.entries

end Document

end Provision.Toml
