import Provision.Regex.Atom

/-!
Classes in brackets: single characters, ranges, named classes and classes within classes, joined to
a union or by the operators for intersection and differences.
-/

namespace Provision.Regex

/-- A class that is not closed yet. -/
structure OpenClass where
  /-- Nothing but dashes has been read. -/
  atStart : Bool := true
  items : Nat := 0
  /-- How deep the deepest item is nested. -/
  depth : Nat := 0
  /-- The depth of what stands in front of an operator. -/
  left : Option Nat := none

namespace OpenClass

def add (k : OpenClass) (depth : Nat) : OpenClass :=
  { k with atStart := false, items := k.items + 1, depth := max k.depth depth }

/-- How deep the class is nested inside its brackets. -/
def nesting (k : OpenClass) : Nat :=
  let right := if k.items ≤ 1 then k.depth else k.depth + 1
  match k.left with
  | some d => 1 + max d right
  | none => right

def withOperator (k : OpenClass) : OpenClass :=
  { atStart := false, left := some k.nesting }

end OpenClass

namespace CharClass

/-- Names of classes of ASCII characters. -/
def names : List String := [
  "alnum", "alpha", "ascii", "blank", "cntrl", "digit", "graph", "lower", "print", "punct", "space",
  "upper", "word", "xdigit"]

/-- Reads a name between colons, as in `[:^alpha:]`, behind its opening bracket; tells whether it is
negated. -/
def readName? : List Char → Option (Bool × List Char)
  | ':' :: cs =>
    let negated := cs.head? = some '^'
    let cs := if negated then cs.tail else cs
    let name := String.ofList (cs.takeWhile (· != ':'))
    match cs.dropWhile (· != ':') with
    | ':' :: ']' :: rest => if names.contains name then some (negated, rest) else none
    | _ => none
  | _ => none

/-- The beginning of a class behind its bracket. Negation lets a class of bytes match a part of a
character. -/
def start? (f : Flags) (cs : List Char) : Option (List Char) :=
  match f.skip cs with
  | '^' :: rest => if f.unicode then some rest else none
  | cs => some cs

/-- A single character or what a backslash begins. -/
def readAtom? (f : Flags) : List Char → Option (Atom × List Char)
  | [] => none
  | '\\' :: rest => Atom.readEscape f rest
  | c :: rest => some (.character c false, rest)

/-- The character that decides whether a dash makes a range: the next one behind space, or behind
the mark of a comment. -/
def next? (f : Flags) (cs : List Char) : Option Char :=
  if !f.verbose then cs.head?
  else
    match cs.dropWhile Text.isBlank with
    | '#' :: rest => (rest.find? (!Text.isBlank ·)).or cs.head?
    | c :: _ => some c
    | [] => cs.head?

/-- Reads one item: an atom, or two characters with a dash between them. A dash in front of a
closing bracket or of another dash makes no range. -/
def readItem? (f : Flags) (cs : List Char) : Option (List Char) := do
  let (low, rest) ← readAtom? f cs
  if !low.isAllowedInClass f then none
  match f.skip rest with
  | '-' :: after =>
    if next? f after = some ']' ∨ next? f after = some '-' then return f.skip rest
    let (high, rest) ← readAtom? f (f.skip after)
    if !high.isAllowedInClass f then none
    match low, high with
    | .character a _, .character b _ => if a ≤ b then return rest else none
    | _, _ => none
  | rest => return rest

/-- A name for a class of ASCII characters is one where the folding of case and negation are. -/
def allowsName (f : Flags) (negated : Bool) : Bool :=
  if f.unicode then !f.ignoreCase else !negated

/-- Reads on in a class, where `outer` are the classes around it, the nearest first; gives how deep
the outermost one is nested, and what follows it. Each round takes at least one character. -/
def readFrom (f : Flags) (outer : List OpenClass) (k : OpenClass) :
    Nat → List Char → Option (Nat × List Char)
  | 0, _ => none
  | fuel + 1, cs =>
    match f.skip cs with
    | [] => none
    | c :: rest =>
      let literal := fun (k : OpenClass) =>
        if Atom.isAllowedInClass f (.character c false) then readFrom f outer k fuel rest else none
      match c, rest with
      | '-', _ =>
        if k.atStart then literal { k.add 0 with atStart := true }
        else if rest.head? = some '-' then readFrom f outer k.withOperator fuel rest.tail
        else (readItem? f (c :: rest)).bind (readFrom f outer (k.add 0) fuel)
      | ']', _ =>
        if k.atStart && k.items == 0 then literal (k.add 0)
        else
          match outer with
          | [] => some (1 + k.nesting, rest)
          | parent :: outer => readFrom f outer (parent.add (1 + k.nesting)) fuel rest
      | '[', _ =>
        match readName? rest with
        | some (negated, rest) =>
          if allowsName f negated then readFrom f outer (k.add 0) fuel rest else none
        | none => (start? f rest).bind (readFrom f (k :: outer) {} fuel)
      | '&', '&' :: rest => readFrom f outer k.withOperator fuel rest
      | '~', '~' :: rest => readFrom f outer k.withOperator fuel rest
      | _, _ => (readItem? f (c :: rest)).bind (readFrom f outer (k.add 0) fuel)

/-- Reads a class behind its opening bracket. -/
def read? (f : Flags) (cs : List Char) : Option (Nat × List Char) :=
  (start? f cs).bind (readFrom f [] {} (cs.length + 1))

end CharClass

end Provision.Regex
