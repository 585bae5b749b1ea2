import Provision.Text.Blank
import Provision.Text.Digits

/-!
The smallest parts of regular expressions: characters, named classes and assertions, and the flags
under which they are read. No tables of Unicode properties are at hand, so the classes of digits,
blanks and word characters and the folding of case are there for ASCII alone.
-/

namespace Provision.Regex

structure Flags where
  unicode : Bool := true
  ignoreCase : Bool := false
  /-- Blanks and comments between the parts of a pattern are passed over. -/
  verbose : Bool := false

namespace Flags

/-- Switches the flag with this letter on or off. Three others are known and change nothing that is
checked here. -/
def set? (f : Flags) (letter : Char) (on : Bool) : Option Flags :=
  match letter with
  | 'u' => some { f with unicode := on }
  | 'i' => some { f with ignoreCase := on }
  | 'x' => some { f with verbose := on }
  | 'm' | 's' | 'R' | 'U' => some f
  | _ => none

/-- Drops blanks and comments, where a comment goes from a number sign to the end of its line. -/
def dropSpace (inComment : Bool) : List Char → List Char
  | [] => []
  | c :: rest =>
    if inComment then dropSpace (c != '\n') rest
    else if Text.isBlank c then dropSpace false rest
    else if c = '#' then dropSpace true rest
    else c :: rest

/-- What is left behind the space that may stand between two parts. -/
def skip (f : Flags) (cs : List Char) : List Char := if f.verbose then dropSpace false cs else cs

end Flags

inductive Atom where
  /-- A character; `asByte` if it is written as a byte of two hexadecimal digits. -/
  | character (c : Char) (asByte : Bool)
  /-- The digits, the blanks or the word characters, or all others. -/
  | named (negated : Bool)
  | assertion
  | wordBoundary
  deriving Repr, DecidableEq

namespace Atom

/-- With Unicode a pattern works on characters, else on bytes, and then must not match a part of a
character. -/
def isAllowed (f : Flags) : Atom → Bool
  | character c asByte =>
    if f.unicode then !f.ignoreCase else !(asByte && 0x80 ≤ c.toNat)
  | named negated => !f.unicode && !negated
  | assertion => true
  | wordBoundary => true

/-- An atom that may stand in a class in brackets. -/
def isAllowedInClass (f : Flags) : Atom → Bool
  | character c _ => if f.unicode then !f.ignoreCase else c.toNat < 0x80
  | named negated => !f.unicode && !negated
  | assertion => false
  | wordBoundary => false

/-- The number written by so many hexadecimal digits. -/
def hexNumber? (f : Flags) (value : Nat) : Nat → List Char → Option (Nat × List Char)
  | 0, cs => some (value, cs)
  | n + 1, cs =>
    match f.skip cs with
    | [] => none
    | c :: rest =>
      match Text.hexValue? c with
      | some d => hexNumber? f (value * 16 + d) n rest
      | none => none

/-- The character whose code point is written by so many hexadecimal digits. -/
def hexCharacter? (f : Flags) (digits : Nat) (cs : List Char) : Option (Atom × List Char) :=
  match hexNumber? f 0 digits cs with
  | some (n, rest) =>
    if n.isValidChar then some (.character (Char.ofNat n) (digits == 2), rest) else none
  | none => none

/-- Characters that stand for themselves behind a backslash: all of ASCII but letters, digits and
angle brackets. -/
def isEscapable (c : Char) : Bool :=
  c.toNat < 0x80 && !c.isAlphanum && c != '<' && c != '>'

/-- Reads what follows a backslash. References to groups are refused, and so are classes of Unicode
properties. -/
def readEscape (f : Flags) : List Char → Option (Atom × List Char)
  | [] => none
  | c :: rest =>
    if isEscapable c then some (.character c false, rest)
    else
      match c with
      | 'x' => hexCharacter? f 2 rest
      | 'u' => hexCharacter? f 4 rest
      | 'U' => hexCharacter? f 8 rest
      | 'd' | 's' | 'w' => some (.named false, rest)
      | 'D' | 'S' | 'W' => some (.named true, rest)
      | 'a' => some (.character '\x07' false, rest)
      | 'f' => some (.character '\x0c' false, rest)
      | 't' => some (.character '\t' false, rest)
      | 'n' => some (.character '\n' false, rest)
      | 'r' => some (.character '\r' false, rest)
      | 'v' => some (.character '\x0b' false, rest)
      | 'A' | 'z' => some (.assertion, rest)
      | 'b' => if rest.head? = some '\x7b' then none else some (.wordBoundary, rest)
      | 'B' | '<' | '>' => some (.wordBoundary, rest)
      | _ => none

end Atom

end Provision.Regex
