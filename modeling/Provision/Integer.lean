import Provision.Number

/-!
Arithmetic on 64-bit integers. Division of words goes toward zero and a shift of a word drops the
bits that leave it; division that rounds down, its remainder and a shift that keeps every bit are
made from these. Without a result are division by zero and all that does not fit.
-/

namespace Provision.Integer

def add? (x y : Int64) : Option Int64 := Number.int64? (x.toInt + y.toInt)

def sub? (x y : Int64) : Option Int64 := Number.int64? (x.toInt - y.toInt)

def mul? (x y : Int64) : Option Int64 := Number.int64? (x.toInt * y.toInt)

/-- Whether words can be divided: not by zero, and not the least one by -1. -/
def isDivisible (x y : Int64) : Bool := y != 0 && !(x == Int64.minValue && y == -1)

/-- Quotient rounded toward zero. -/
def quotient? (x y : Int64) : Option Int64 := if isDivisible x y then some (x / y) else none

/-- What the quotient toward zero leaves; it has the sign of `x`. -/
def remainder? (x y : Int64) : Option Int64 := if isDivisible x y then some (x % y) else none

def signsDiffer (x y : Int64) : Bool := decide (x < 0) != decide (y < 0)

/-- Quotient rounded down. Between different signs toward zero means up. -/
def floorDiv? (x y : Int64) : Option Int64 :=
  (quotient? x y).bind fun q => if x % y != 0 && signsDiffer x y then sub? q 1 else some q

/-- Remainder with the sign of the divisor. By -1 nothing is left, though words may not be divided
by it. -/
def floorMod? (x y : Int64) : Option Int64 :=
  if y = -1 then some 0
  else (remainder? x y).map fun r => if r != 0 && signsDiffer r y then r + y else r

/-- Bits by which an integer may be shifted. -/
def shiftAmount? (y : Int64) : Option Nat :=
  if 0 ≤ y.toInt ∧ y.toInt < 64 then some y.toInt.toNat else none

/-- Shift to the right; the sign moves in. -/
def shiftRight (x : Int64) (s : Nat) : Int64 := Int64.ofBitVec (x.toBitVec.sshiftRight s)

/-- Shift to the left. Shifting back shows whether bits, or the sign, were lost. -/
def shiftLeft? (x : Int64) (s : Nat) : Option Int64 :=
  let r := Int64.ofBitVec (x.toBitVec <<< s)
  if shiftRight r s = x then some r else none

end Provision.Integer
