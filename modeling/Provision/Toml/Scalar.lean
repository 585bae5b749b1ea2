import Provision.Calendar.Date
import Provision.Calendar.TimeOfDay
import Provision.Numeral
import Provision.Toml.Basic

/-!
Values of TOML that are written without quotes and brackets: truth values, numbers, dates and times.
Each is a run of characters and is told by its whole shape. Between the digits of a number single
underscores are allowed.
-/

namespace Provision.Toml.Scalar

/-- Characters that such a value may consist of. -/
def isPart (c : Char) : Bool :=
  c.isAlphanum || c == '+' || c == '-' || c == '.' || c == '_' || c == ':'

/-- Takes the underscores out of a run of digits. -/
def ungroup? (isDigit : Char → Bool) : List Char → Option (List Char)
  | [] => none
  | [c] => if isDigit c then some [c] else none
  | c :: '_' :: rest => if isDigit c then (ungroup? isDigit rest).map (c :: ·) else none
  | c :: d :: rest => if isDigit c then (ungroup? isDigit (d :: rest)).map (c :: ·) else none

def hexDigit (c : Char) : Bool :=
  Text.isDigit c || ('a' ≤ c && c ≤ 'f') || ('A' ≤ c && c ≤ 'F')

def octalDigit (c : Char) : Bool := '0' ≤ c && c ≤ '7'

def binaryDigit (c : Char) : Bool := c == '0' || c == '1'

def digitOf (c : Char) : Nat :=
  if Text.isDigit c then Text.digitValue c
  else if 'a' ≤ c then c.toNat - 'a'.toNat + 10
  else c.toNat - 'A'.toNat + 10

/-- An unsigned integer in some base. -/
def inBase? (base : Nat) (isDigit : Char → Bool) (cs : List Char) : Option Toml := do
  let ds ← ungroup? isDigit cs
  let n := ds.foldl (fun n c => n * base + digitOf c) 0
  (Number.int64? n).map .integer

/-- A whole part has no zero in front of another digit. -/
def whole? (cs : List Char) : Option (List Char) := do
  let ds ← ungroup? Text.isDigit cs
  if ds = ['0'] ∨ ds.head? ≠ some '0' then some ds else none

def isExponentMark (c : Char) : Bool := c == 'e' || c == 'E'

def exponent? : List Char → Option (Option (Bool × List Char))
  | [] => some none
  | _ :: rest =>
    let (negative, ds) := Numeral.takeSign rest
    (ungroup? Text.isDigit ds).map fun ds => some (negative, ds)

/-- The parts of a decimal number. -/
def numeral? (cs : List Char) : Option Numeral := do
  let (negative, unsigned) := Numeral.takeSign cs
  let mantissa := unsigned.takeWhile fun c => !isExponentMark c
  let exponent ← exponent? (unsigned.dropWhile fun c => !isExponentMark c)
  match Text.splitFirst? '.' mantissa with
  | none => return ⟨negative, ← whole? mantissa, [], exponent⟩
  | some (before, after) =>
    return ⟨negative, ← whole? before, ← ungroup? Text.isDigit after, exponent⟩

/-- A decimal number. A double too large for its range is refused, but only when positive. -/
def decimal? (cs : List Char) : Option Toml := do
  let n ← numeral? cs
  match n.integer? with
  | some i => (Number.int64? i).map .integer
  | none =>
    let x := n.toFloat
    if Binary64.isFinite x || n.negative then some (.float x) else none

def special? (cs : List Char) : Option Toml :=
  let (negative, name) := Numeral.takeSign cs
  if name = ['i', 'n', 'f'] then
    some (.float (Float.ofBits (Binary64.wordOf negative Binary64.infinitySize)))
  else if name = ['n', 'a', 'n'] then some (.float Binary64.nan)
  else none

def number? (cs : List Char) : Option Toml :=
  match cs with
  | '0' :: 'x' :: rest => inBase? 16 hexDigit rest
  | '0' :: 'o' :: rest => inBase? 8 octalDigit rest
  | '0' :: 'b' :: rest => inBase? 2 binaryDigit rest
  | cs => (special? cs).or (decimal? cs)

/-- The number written by exactly `count` digits. -/
def fixed? (count : Nat) (cs : List Char) : Option Nat :=
  if cs.length = count ∧ Text.isDigits cs then some (Text.ofDigits cs) else none

def isDate (cs : List Char) : Bool :=
  match Text.splitOn '-' cs with
  | [y, m, d] =>
    match fixed? 4 y, fixed? 2 m, fixed? 2 d with
    | some y, some m, some d => decide (Date.Exists ⟨y, m, d⟩)
    | _, _, _ => false
  | _ => false

/-- A time of day, whose sixtieth second may be a leap second, with a fraction of a second. -/
def isTime (cs : List Char) : Bool :=
  let (clock, fraction) := match Text.splitFirst? '.' cs with
    | some (clock, fraction) => (clock, Text.isDigits fraction)
    | none => (cs, true)
  match Text.splitOn ':' clock with
  | [h, m, s] =>
    match fixed? 2 h, fixed? 2 m, fixed? 2 s with
    | some h, some m, some s => fraction && h < 24 && m < 60 && s ≤ 60
    | _, _, _ => false
  | _ => false

def isOffset (cs : List Char) : Bool :=
  match Text.splitOn ':' cs with
  | [h, m] =>
    match fixed? 2 h, fixed? 2 m with
    | some h, some m => h < 24 && m < 60
    | _, _ => false
  | _ => false

/-- A time of day with or without an offset from UTC. -/
def isZonedTime (cs : List Char) : Bool :=
  match cs.reverse with
  | 'Z' :: rest => isTime rest.reverse
  | 'z' :: rest => isTime rest.reverse
  | _ =>
    match Text.splitFirst? '+' cs, Text.splitFirst? '-' cs with
    | some (clock, offset), _ => isTime clock && isOffset offset
    | none, some (clock, offset) => isTime clock && isOffset offset
    | none, none => isTime cs

def isDateTime (cs : List Char) : Bool :=
  let date := cs.take 10
  match cs.drop 10 with
  | [] => isDate date || isTime cs
  | 'T' :: time => isDate date && isZonedTime time
  | 't' :: time => isDate date && isZonedTime time
  | _ => isTime cs

def ofRun? (cs : List Char) : Option Toml :=
  if cs = ['t', 'r', 'u', 'e'] then some (.boolean true)
  else if cs = ['f', 'a', 'l', 's', 'e'] then some (.boolean false)
  else if isDateTime cs then some (.dateTime cs)
  else number? cs

/-- Reads a value from the front of a text. A date may be followed by a blank and a time. -/
def read? (cs : List Char) : Option (Toml × List Char) :=
  let run := cs.takeWhile isPart
  let rest := cs.dropWhile isPart
  let (time, afterTime) := match rest with
    | ' ' :: rest =>
      if (rest.head?.map Text.isDigit).getD false then
        (rest.takeWhile isPart, rest.dropWhile isPart)
      else ([], rest)
    | rest => ([], rest)
  if isDate run && !time.isEmpty then
    if isZonedTime time then some (.dateTime (run ++ ' ' :: time), afterTime) else none
  else (ofRun? run).map fun v => (v, rest)

end Provision.Toml.Scalar
