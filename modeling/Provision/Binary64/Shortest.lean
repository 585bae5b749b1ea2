import Provision.Binary64.Basic

/-!
The shortest decimal of a finite double: of all decimals that round to it, one with the fewest
digits, and of those the nearest. Everything is decided on the exact value `m · 2 ^ q`.
-/

namespace Provision.Binary64

/-- A decimal `0.d₁d₂… · 10 ^ point`, where the digits do not end in a zero. -/
structure Decimal where
  digits : List Char
  point : Int
  deriving Repr, DecidableEq

/-- The numbers that round to `m · 2 ^ q`, in units of a quarter of `2 ^ q` over `den`. The ends
belong to it iff `m` is even. -/
structure Interval where
  low : Nat
  value : Nat
  high : Nat
  den : Nat
  closed : Bool

/-- Below a power of two the neighbours are twice as dense, so the lower half is half as wide. -/
def Interval.around (m : Nat) (q : Int) : Interval :=
  let up := Nat.pow 2 (q - 2).toNat
  let below := if m = Nat.pow 2 52 ∧ -1074 < q then 1 else 2
  { low := (4 * m - below) * up
    value := 4 * m * up
    high := (4 * m + 2) * up
    den := Nat.pow 2 (2 - q).toNat
    closed := m % 2 == 0 }

/-- Whether `c · 10 ^ e` is in the interval. -/
def Interval.holds (i : Interval) (c : Nat) (e : Int) : Bool :=
  let up := Nat.pow 10 e.toNat
  let down := Nat.pow 10 (-e).toNat
  let x := c * up * i.den
  if i.closed then i.low * down ≤ x && x ≤ i.high * down
  else i.low * down < x && x < i.high * down

/-- Which of two equally near decimals is taken. -/
inductive Tie where
  | up
  | even
  deriving Repr, DecidableEq

/-- The nearest multiple of `10 ^ e` in the interval, as a count of these multiples. -/
def Interval.pick? (i : Interval) (tie : Tie) (e : Int) : Option Nat :=
  let up := Nat.pow 10 e.toNat
  let down := Nat.pow 10 (-e).toNat
  let unit := up * i.den
  let c := i.value * down / unit
  let r := i.value * down % unit
  let lowFirst := 2 * r < unit || (2 * r == unit && tie == .even && c % 2 == 0)
  match i.holds c e, i.holds (c + 1) e with
  | true, true => some (if lowFirst then c else c + 1)
  | true, false => some c
  | false, true => some (c + 1)
  | false, false => none

/-- The least power of ten above the value. -/
def Interval.point (i : Interval) : Int :=
  let guess : Int :=
    ((Nat.log2 i.value : Int) - Nat.log2 i.den - 1) * 30103 / 100000
  let above (k : Int) : Bool := i.value * Nat.pow 10 (-k).toNat < i.den * Nat.pow 10 k.toNat
  ((List.range 4).map (fun (n : Nat) => guess + n)).find? above |>.getD (guess + 4)

def Decimal.ofCount (c : Nat) (e : Int) : Decimal :=
  let ds := Nat.toDigits 10 c
  { digits := (ds.reverse.dropWhile (· == '0')).reverse, point := e + ds.length }

/-- The shortest decimal of `m · 2 ^ q` for `0 < m`. Seventeen digits always suffice. -/
def shortest (tie : Tie) (m : Nat) (q : Int) : Decimal :=
  let i := Interval.around m q
  let point := i.point
  let atLength (n : Nat) : Option Decimal :=
    (i.pick? tie (point - n)).map (Decimal.ofCount · (point - n))
  ((List.range' 1 17).findSome? atLength).getD ⟨['0'], 1⟩

end Provision.Binary64
