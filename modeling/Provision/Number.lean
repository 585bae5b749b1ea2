import Provision.Binary64.Notation

/-!
Numbers of the language: 64-bit integers and doubles. An integer operation has a result only when
the exact integer fits; a double carries its own order, in which a NaN has no place.
-/

namespace Provision

inductive Number where
  | integer (n : Int64)
  | float (x : Float)

namespace Number

/-- The 64-bit integer equal to `n`, if there is one. -/
def int64? (n : Int) : Option Int64 :=
  if -Int.pow 2 63 ≤ n ∧ n < Int.pow 2 63 then some (Int64.ofInt n) else none

def ofInt? (n : Int) : Option Number := (int64? n).map integer

/-- The nearest double, as a 64-bit word. -/
def word : Number → UInt64
  | .integer n => Binary64.wordOfInt n.toInt
  | .float x => x.toBits

def toFloat : Number → Float
  | .integer n => Binary64.ofInt n.toInt
  | .float x => x

/-- The additive inverse; the least integer has none. -/
def neg? : Number → Option Number
  | .integer n => ofInt? (-n.toInt)
  | .float x => some (.float (-x))

/-- Two integers are compared exactly, any other pair through the nearest doubles. -/
def compare? : Number → Number → Option Ordering
  | .integer m, .integer n => some (compare m.toInt n.toInt)
  | a, b => Binary64.compare? a.word b.word

/-- Two integers are equal as they are, any other pair by the nearest doubles. -/
def equal : Number → Number → Bool
  | .integer m, .integer n => m == n
  | a, b => Binary64.equal a.word b.word

end Number

end Provision
