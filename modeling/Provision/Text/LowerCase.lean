import Provision.Text.CaseTable

/-!
The full Unicode lower-case form of a text. It is fixed character by character but for a capital
sigma, whose form depends on the letters around it: at the end of a word it is the final sigma.
-/

namespace Provision.Text

open CaseTable

def CaseTable.Run.covers (r : Run) (n : Nat) : Bool :=
  r.first ≤ n && n ≤ r.last && (n - r.first) % r.stride == 0

def inRanges (ranges : List (Nat × Nat)) (c : Char) : Bool :=
  ranges.any fun r => r.1 ≤ c.toNat && c.toNat ≤ r.2

def isCased (c : Char) : Bool := inRanges casedRanges c

def isCaseIgnorable (c : Char) : Bool := inRanges ignorableRanges c

/-- Lower-case form of one character on its own. Only the capital I with a dot above becomes two
characters. -/
def lowerChar (c : Char) : List Char :=
  if c.toNat = 0x130 then ['i', '\u0307'] else
  match lowerRuns.find? (·.covers c.toNat) with
  | some r => [Char.ofNat (c.toNat + r.shift).toNat]
  | none => [c]

/-- Whether the nearest character that is not case-ignorable is a cased one. -/
def meetsCased (cs : List Char) : Bool :=
  match cs.dropWhile isCaseIgnorable with
  | [] => false
  | c :: _ => isCased c

/-- Lower-case form of `rest` where `before` is what precedes it, nearest character first. -/
def lowerFrom (before : List Char) : List Char → List Char
  | [] => []
  | c :: rest =>
    let here :=
      if c = 'Σ' then
        if meetsCased before && !meetsCased rest then ['ς'] else ['σ']
      else lowerChar c
    here ++ lowerFrom (c :: before) rest

def lower (cs : List Char) : List Char := lowerFrom [] cs

/-- The two texts agree but for the case of their letters. -/
def sameButCase (a b : String) : Bool := lower a.toList == lower b.toList

/-- Order of two texts by the code points of their lower-case forms. -/
def compareFolded (a b : String) : Ordering :=
  let x := lower a.toList
  let y := lower b.toList
  if x < y then .lt else if x = y then .eq else .gt

end Provision.Text
