import Provision.Regex.CharClass
import Provision.Text.Alphanumeric

/-!
Whether a text is a regular expression that can be compiled to an automaton. The text has no closing
brace, so neither a count of repetitions nor a number or name in braces can be finished in it.
-/

namespace Provision.Regex

inductive Fault where
  | malformed
  /-- Words with Unicode letters end where no automaton can tell. -/
  | unicodeBoundary
  deriving Repr, DecidableEq

def Fault.message : Fault → String
  | .malformed => "error building NFA"
  | .unicodeBoundary =>
    "unsupported regex feature for DFAs: cannot build DFAs for regexes with Unicode word " ++
      "boundaries; switch to ASCII word boundaries, or heuristically enable Unicode word " ++
      "boundaries or use a different regex engine"

/-- How deep a pattern may be nested. -/
def maxNesting : Nat := 250

/-- A group that is not closed yet, in its last alternative. The whole pattern counts as one. -/
structure Group where
  flags : Flags := {}
  items : Nat := 0
  /-- How deep the deepest item is nested. -/
  depth : Nat := 0
  /-- The depth of the last item, if that may be repeated. -/
  last : Option Nat := none
  /-- The depth of the deepest of the alternatives before. -/
  earlier : Option Nat := none

namespace Group

def add (g : Group) (depth : Nat) : Group :=
  { g with items := g.items + 1, depth := max g.depth depth, last := some depth }

/-- Flags that hold up to the end of the group; they count as an item. -/
def addFlags (g : Group) (flags : Flags) : Group :=
  { g with flags, items := g.items + 1, last := none }

/-- Repeats the last item. -/
def repeat? (g : Group) : Option Group :=
  g.last.map fun d => { g with depth := max g.depth (d + 1), last := some (d + 1) }

/-- How deep the last alternative is nested. -/
def branchNesting (g : Group) : Nat := if g.items ≤ 1 then g.depth else g.depth + 1

def nextBranch (g : Group) : Group :=
  { flags := g.flags, earlier := some (max (g.earlier.getD 0) g.branchNesting) }

def nesting (g : Group) : Nat :=
  match g.earlier with
  | some d => 1 + max d g.branchNesting
  | none => g.branchNesting

end Group

/-- What is known of the part of a pattern that has been read. -/
structure Progress where
  group : Group := {}
  /-- The groups around, the nearest first. -/
  outer : List Group := []
  names : List (List Char) := []
  hasUnicodeBoundary : Bool := false

namespace Progress

def flags (p : Progress) : Flags := p.group.flags

def addItem (p : Progress) (depth : Nat) : Progress := { p with group := p.group.add depth }

def addAtom? (p : Progress) (a : Atom) : Option Progress :=
  if !a.isAllowed p.flags then none
  else if a = .wordBoundary ∧ p.flags.unicode then
    some { p.addItem 0 with hasUnicodeBoundary := true }
  else some (p.addItem 0)

/-- Opens a group under the given flags. -/
def openGroup (p : Progress) (flags : Flags) : Progress :=
  { p with group := { flags }, outer := p.group :: p.outer }

/-- Closes a group; the flags are again those that held around it. -/
def closeGroup? (p : Progress) : Option Progress :=
  match p.outer with
  | [] => none
  | parent :: outer => some { p with group := parent.add (1 + p.group.nesting), outer }

end Progress

def isNameStart (c : Char) : Bool := c == '_' || Text.isAlphabetic c

def isNamePart (c : Char) : Bool :=
  c == '_' || c == '.' || c == '[' || c == ']' || Text.isAlphanumeric c

/-- Reads the name of a group and its closing angle bracket. Two groups have no name in common. -/
def readGroupName? (p : Progress) (cs : List Char) : Option (Progress × List Char) :=
  let name := cs.takeWhile (· != '>')
  match name, cs.dropWhile (· != '>') with
  | c :: more, _ :: rest =>
    if isNameStart c && more.all isNamePart && !p.names.contains name then
      some ({ p.openGroup p.flags with names := name :: p.names }, rest)
    else none
  | _, _ => none

/-- Reads flags up to a colon, which begins a group under them, or a closing parenthesis. A dash
switches off those that follow it. No flag is named twice. -/
def readFlags? (p : Progress) (flags : Flags) (seen : List Char) :
    List Char → Option (Progress × List Char)
  | [] => none
  | ':' :: rest => if seen.head? = some '-' then none else some (p.openGroup flags, rest)
  | ')' :: rest =>
    if seen.isEmpty ∨ seen.head? = some '-' then none
    else some ({ p with group := p.group.addFlags flags }, rest)
  | c :: rest =>
    if seen.contains c then none
    else if c = '-' then readFlags? p flags (c :: seen) rest
    else
      match flags.set? c (!seen.contains '-') with
      | some flags => readFlags? p flags (c :: seen) rest
      | none => none

/-- Reads what follows an opening parenthesis. -/
def readGroup? (p : Progress) (cs : List Char) : Option (Progress × List Char) :=
  match p.flags.skip cs with
  | '?' :: 'P' :: '<' :: rest => readGroupName? p rest
  | '?' :: '<' :: rest => readGroupName? p rest
  | '?' :: rest => readFlags? p p.flags [] rest
  | rest => some (p.openGroup p.flags, rest)

/-- A question mark behind a repetition makes it a reluctant one. -/
def dropReluctance : List Char → List Char
  | '?' :: rest => rest
  | cs => cs

/-- Reads one part of a pattern, which begins with `c`. -/
def readPart? (p : Progress) (c : Char) (rest : List Char) : Option (Progress × List Char) :=
  match c with
  | '(' => readGroup? p rest
  | ')' => p.closeGroup?.map (·, rest)
  | '|' => some ({ p with group := p.group.nextBranch }, rest)
  | '[' => (CharClass.read? p.flags rest).map fun (depth, rest) => (p.addItem depth, rest)
  | '?' | '*' | '+' =>
    p.group.repeat?.map fun group => ({ p with group }, dropReluctance rest)
  | '\x7b' => none
  | '.' => if p.flags.unicode then some (p.addItem 0, rest) else none
  | '^' | '$' => some (p.addItem 0, rest)
  | '\\' => do
    let (a, rest) ← Atom.readEscape p.flags rest
    return (← p.addAtom? a, rest)
  | c => (p.addAtom? (.character c false)).map (·, rest)

/-- Reads a pattern part by part; each takes at least one character. -/
def readParts? (p : Progress) : Nat → List Char → Option Progress
  | 0, _ => none
  | fuel + 1, cs =>
    match p.flags.skip cs with
    | [] => some p
    | c :: rest =>
      match readPart? p c rest with
      | some (p, rest) => readParts? p fuel rest
      | none => none

/-- Checks a whole pattern. -/
def check (cs : List Char) : Except Fault Unit :=
  match readParts? {} (cs.length + 1) cs with
  | none => .error .malformed
  | some p =>
    if !p.outer.isEmpty || maxNesting < p.group.nesting then .error .malformed
    else if p.hasUnicodeBoundary then .error .unicodeBoundary
    else .ok ()

end Provision.Regex
