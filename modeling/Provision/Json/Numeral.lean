import Provision.Json.Basic
import Provision.Numeral

/-!
Numbers in JSON texts. A plain integer that fits in 64 bits stays one. Any other number is a double:
its first digits are gathered as a 64-bit significand, and that is scaled by the power of ten in
double arithmetic, which may miss the nearest double in the last place. A number above the range of
doubles is refused.
-/

namespace Provision.Json

/-- Appends a digit to a significand while it fits in 64 bits. -/
def pushDigit? (n : Nat) (c : Char) : Option Nat :=
  let m := n * 10 + Text.digitValue c
  if m < Nat.pow 2 64 then some m else none

/-- The significand of the digits before the point, and how many digits it leaves out. -/
def wholeSignificand (n : Nat) : List Char → Nat × Nat
  | [] => (n, 0)
  | c :: rest =>
    match pushDigit? n c with
    | some m => wholeSignificand m rest
    | none => (n, rest.length + 1)

/-- The significand continued with the digits after the point, and how many of these it takes in. -/
def fractionSignificand (n : Nat) : List Char → Nat × Nat
  | [] => (n, 0)
  | c :: rest =>
    match pushDigit? n c with
    | some m =>
      let (total, taken) := fractionSignificand m rest
      (total, taken + 1)
    | none => (n, 0)

def powerOfTen (k : Nat) : Float := Binary64.ofRatio false (Nat.pow 10 k) 1

/-- `x · 10 ^ e` by one multiplication or division; a very small number takes more than one. -/
def scale? (x : Float) (e : Int) : Option Float :=
  if e < -308 then
    if Binary64.isZero x then some x else scale? (x / powerOfTen 308) (e + 308)
  else if e < 0 then some (x / powerOfTen (-e).toNat)
  else if e ≤ 308 then
    let y := x * powerOfTen e.toNat
    if Binary64.isFinite y then some y else none
  else if Binary64.isZero x then some x
  else none
termination_by (-e).toNat

/-- The double that a numeral is read as. -/
def float? (n : Numeral) : Option Float :=
  let (whole, dropped) := wholeSignificand 0 n.whole
  let (significand, taken) := fractionSignificand whole n.fraction
  let exponent := n.exponentValue + dropped - taken
  (scale? (Binary64.ofInt significand) exponent).map fun x => if n.negative then -x else x

/-- JSON writes no zero in front of another digit. -/
def plainWhole (ds : List Char) : Bool := ds == ['0'] || ds.head? != some '0'

def ofNumeral? (n : Numeral) : Option Number :=
  if !plainWhole n.whole then none else
  match n.integer? with
  | none => (float? n).map .float
  | some i =>
    if i = 0 ∧ n.negative then some (.float (Binary64.ofRatio true 0 1))
    else
      match Number.ofInt? i with
      | some result => some result
      | none =>
        if i.natAbs < Nat.pow 2 64 then some (.float (Binary64.ofInt i)) else (float? n).map .float

/-- Reads all of a text as a number. -/
def number? (text : List Char) : Option Number :=
  if text.head? = some '+' then none else (Numeral.read? text).bind ofNumeral?

end Provision.Json
