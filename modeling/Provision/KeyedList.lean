/-!
Association lists with text keys. `insert` keeps the keys strictly ascending by code points, which
is the order in which hashes, schedule books and sets of names are shown; `get?` looks a key up in
any list.
-/

namespace Provision

abbrev KeyedList (α : Type) := List (String × α)

namespace KeyedList

variable {α : Type}

/-- The keys are strictly ascending, so no key occurs twice. -/
def Ascending (entries : KeyedList α) : Prop := entries.Pairwise (·.1 < ·.1)

def keys (entries : KeyedList α) : List String := entries.map (·.1)

def values (entries : KeyedList α) : List α := entries.map (·.2)

/-- The value at the first entry with this key. -/
def get? (key : String) : KeyedList α → Option α
  | [] => none
  | (k, a) :: rest => if k = key then some a else get? key rest

/-- Puts `a` under `key`; the first component is what was there before. -/
def exchange (key : String) (a : α) : KeyedList α → Option α × KeyedList α
  | [] => (none, [(key, a)])
  | (k, b) :: rest =>
    if key < k then (none, (key, a) :: (k, b) :: rest)
    else if k = key then (some b, (key, a) :: rest)
    else
      let (old, rest) := exchange key a rest
      (old, (k, b) :: rest)

/-- Puts `a` under `key`, in place of what was there. -/
def insert (key : String) (a : α) (entries : KeyedList α) : KeyedList α :=
  (exchange key a entries).2

/-- Enters pairs in order; of two with one key the last stays. -/
def ofPairs (pairs : List (String × α)) : KeyedList α :=
  pairs.foldl (fun entries p => insert p.1 p.2 entries) []

/-- The distinct names of a list, ascending. -/
def sortedNames (names : List String) : List String :=
  keys (ofPairs (names.map fun n => (n, ())))

end KeyedList

end Provision
