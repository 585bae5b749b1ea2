import Provision.Number

/-!
Numerals inside strings: an optional sign, digits, an optional fraction and an optional power of
ten, with nothing before or after. A plain integer that fits in 64 bits is that integer, any other
numeral is the nearest double.
-/

namespace Provision

/-- The parts of a numeral. An absent fraction is an empty run of digits. -/
structure Numeral where
  negative : Bool
  whole : List Char
  fraction : List Char
  exponent : Option (Bool × List Char)
  deriving Repr, DecidableEq

namespace Numeral

/-- Whether a minus sign stands in front, and what follows the sign. -/
def takeSign : List Char → Bool × List Char
  | '+' :: rest => (false, rest)
  | '-' :: rest => (true, rest)
  | rest => (false, rest)

/-- Reads all of a text as the power of ten of a numeral, or as its absence. -/
def exponent? : List Char → Option (Option (Bool × List Char))
  | [] => some none
  | c :: rest =>
    let (negative, ds) := takeSign rest
    if (c = 'e' ∨ c = 'E') ∧ Text.isDigits ds then some (some (negative, ds)) else none

/-- Reads all of a text as a numeral. -/
def read? (text : List Char) : Option Numeral :=
  let (negative, unsigned) := takeSign text
  let (whole, rest) := Text.takeDigits unsigned
  if whole.isEmpty then none else
  match rest with
  | '.' :: rest =>
    let (fraction, rest) := Text.takeDigits rest
    if fraction.isEmpty then none
    else (exponent? rest).map (Numeral.mk negative whole fraction ·)
  | rest => (exponent? rest).map (Numeral.mk negative whole [] ·)

def signed (negative : Bool) (n : Nat) : Int := if negative then -n else n

def exponentValue (n : Numeral) : Int :=
  match n.exponent with
  | none => 0
  | some (negative, ds) => signed negative (Text.ofDigits ds)

/-- The nearest double. -/
def toFloat (n : Numeral) : Float :=
  Binary64.ofDecimal n.negative (Text.ofDigits (n.whole ++ n.fraction))
    (n.exponentValue - n.fraction.length)

/-- The integer written, if there is neither a fraction nor a power of ten. -/
def integer? (n : Numeral) : Option Int :=
  if n.fraction.isEmpty && n.exponent.isNone then some (signed n.negative (Text.ofDigits n.whole))
  else none

def toNumber (n : Numeral) : Number :=
  match n.integer?.bind Number.ofInt? with
  | some i => i
  | none => .float n.toFloat

end Numeral

/-- The number that a string stands for, if all of it is a numeral. -/
def Number.ofText? (s : String) : Option Number := (Numeral.read? s.toList).map Numeral.toNumber

end Provision
