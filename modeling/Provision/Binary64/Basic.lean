/-!
Double-precision numbers through their 64-bit words. A word is split into a sign, a significand and
a power of two; a quotient of natural numbers is rounded to the nearest word, a tie to the even
one; and the order of doubles is the order of their places on the number line. All of this is exact
arithmetic on naturals and integers.
-/

namespace Provision.Binary64

/-- Infinity's size: a word whose lower 63 bits reach it is no finite number. -/
def infinitySize : Nat := 2047 * Nat.pow 2 52

/-- What a word stands for. A finite one is `significand · 2 ^ exponent`, negated if so marked. -/
inductive Meaning where
  | nan
  | infinite (negative : Bool)
  | finite (negative : Bool) (significand : Nat) (exponent : Int)
  deriving Repr, DecidableEq

def isNegative (word : UInt64) : Bool := Nat.pow 2 63 ≤ word.toNat

/-- The word without its sign. Sizes are ordered as the numbers they stand for. -/
def size (word : UInt64) : Nat := word.toNat % Nat.pow 2 63

def meaning (word : UInt64) : Meaning :=
  let field : Nat := size word / Nat.pow 2 52
  let fraction := size word % Nat.pow 2 52
  if field = 2047 then
    if fraction = 0 then .infinite (isNegative word) else .nan
  else if field = 0 then .finite (isNegative word) fraction (-1074)
  else .finite (isNegative word) (Nat.pow 2 52 + fraction) ((field : Int) - 1075)

/-- Place of a number on the line of all doubles. Both zeros are at 0, a NaN has no place. -/
def place? (word : UInt64) : Option Int :=
  if infinitySize < size word then none
  else if isNegative word then some (-(size word : Int))
  else some (size word)

/-- Quotient rounded to the nearest natural number, a tie to the even one. -/
def roundDiv (num den : Nat) : Nat :=
  let q := num / den
  let r := num % den
  if 2 * r < den ∨ (2 * r = den ∧ q % 2 = 0) then q else q + 1

/-- `num / den` as a quotient of naturals in units of `2 ^ exponent`. -/
def inUnits (num den : Nat) (exponent : Int) : Nat × Nat :=
  if 0 ≤ exponent then (num, den * Nat.pow 2 exponent.toNat)
  else (num * Nat.pow 2 (-exponent).toNat, den)

/-- The exponent for which `num / den` has 53 binary digits before the point, or the least one. -/
def unitOf (num den : Nat) : Int :=
  let guess : Int := (Nat.log2 num : Int) - Nat.log2 den - 52
  let scaled := inUnits num den guess
  max (if scaled.1 / scaled.2 < Nat.pow 2 52 then guess - 1 else guess) (-1074)

/-- Size of the double nearest to `num / den`. A carry out of the significand moves into the
exponent field by itself; what is too large becomes infinity. -/
def nearestSize (num den : Nat) : Nat :=
  if num = 0 then 0 else
  let unit := unitOf num den
  let scaled := inUnits num den unit
  min ((unit + 1074).toNat * Nat.pow 2 52 + roundDiv scaled.1 scaled.2) infinitySize

def wordOf (negative : Bool) (size : Nat) : UInt64 :=
  UInt64.ofNat (if negative then Nat.pow 2 63 + size else size)

/-- The double nearest to `num / den`, or to its negative. -/
def ofRatio (negative : Bool) (num den : Nat) : Float :=
  Float.ofBits (wordOf negative (nearestSize num den))

/-- The word nearest to an integer. -/
def wordOfInt (n : Int) : UInt64 := wordOf (n < 0) (nearestSize n.natAbs 1)

def ofInt (n : Int) : Float := Float.ofBits (wordOfInt n)

/-- The double nearest to `significand · 10 ^ exponent`. Outside the range of doubles the power of
ten is not computed. -/
def ofDecimal (negative : Bool) (significand : Nat) (exponent : Int) : Float :=
  let length : Int := (Nat.toDigits 10 significand).length
  if significand = 0 ∨ exponent + length < -330 then ofRatio negative 0 1
  else if 320 < exponent + length then Float.ofBits (wordOf negative infinitySize)
  else if 0 ≤ exponent then ofRatio negative (significand * Nat.pow 10 exponent.toNat) 1
  else ofRatio negative significand (Nat.pow 10 (-exponent).toNat)

def isNaN (x : Float) : Bool := infinitySize < size x.toBits

def isFinite (x : Float) : Bool := size x.toBits < infinitySize

def isZero (x : Float) : Bool := size x.toBits == 0

/-- Order of two numbers; a NaN stands in no order to anything. -/
def compare? (x y : UInt64) : Option Ordering := do
  let a ← place? x
  let b ← place? y
  return compare a b

/-- Equality of numbers: the zeros are equal, a NaN equals nothing, and else the words decide. -/
def equal (x y : UInt64) : Bool :=
  if infinitySize < size x ∨ infinitySize < size y then false
  else x == y || (size x == 0 && size y == 0)

def nan : Float := Float.ofBits 0x7ff8000000000000

/-- What is left of `x` after as many whole `y` as fit, counted toward zero. It is exact, and it has
the sign of `x` even when it is zero. -/
def remainder (x y : Float) : Float :=
  match meaning x.toBits, meaning y.toBits with
  | .finite negative m p, .finite _ n q =>
    if n = 0 then nan
    else
      let unit := min p q
      let r := (m * Nat.pow 2 (p - unit).toNat) % (n * Nat.pow 2 (q - unit).toNat)
      let scaled := if 0 ≤ unit then (r * Nat.pow 2 unit.toNat, 1) else (r, Nat.pow 2 (-unit).toNat)
      ofRatio negative scaled.1 scaled.2
  | .finite .., .infinite _ => x
  | _, _ => nan

/-- The remainder brought to the sign of the divisor, as a floored division leaves it. -/
def flooredRemainder (x y : Float) : Float :=
  let r := remainder x y
  if !isZero r && !isNaN r && (isNegative r.toBits != isNegative y.toBits) then r + y else r

end Provision.Binary64
