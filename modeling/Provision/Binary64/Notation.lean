import Provision.Binary64.Shortest
import Provision.Text.Digits

/-!
How the shortest decimal of a double is laid out. Near one it is written positionally and always
with a point; far from one it is written with a power of ten. The layouts differ in where the
small numbers end and in the sign of the exponent.
-/

namespace Provision.Binary64

/-- The decisions of one written form. -/
structure Layout where
  /-- The least power of ten that is still written positionally. -/
  leastPositional : Int
  /-- From this power of ten on the exponent form is used. -/
  firstLarge : Int
  /-- A positive exponent carries a plus sign. -/
  plusSign : Bool
  /-- How two equally near shortest decimals are told apart. -/
  tie : Tie

/-- The form in which values are shown: `0.0001` but `1e-5`, and `1e16`. -/
def Layout.shown : Layout := ⟨-4, 16, false, .up⟩

/-- The form in which values are serialized: `0.00001` but `1e-6`, and `1e+16`. -/
def Layout.serialized : Layout := ⟨-5, 16, true, .even⟩

/-- The digits with a point after the first `point` of them, filled with zeros on either side. -/
def positional (d : Decimal) : List Char :=
  if d.point ≤ 0 then
    '0' :: '.' :: (List.replicate (-d.point).toNat '0' ++ d.digits)
  else
    let whole := d.digits.take d.point.toNat
    let fraction := d.digits.drop d.point.toNat
    whole ++ List.replicate (d.point.toNat - d.digits.length) '0' ++
      '.' :: (if fraction.isEmpty then ['0'] else fraction)

/-- One digit, the others after a point, and the power of ten. -/
def scientific (layout : Layout) (d : Decimal) : List Char :=
  let exponent := d.point - 1
  let head := match d.digits with
    | [] => ['0']
    | [c] => [c]
    | c :: rest => c :: '.' :: rest
  let sign := if layout.plusSign && 0 ≤ exponent then ['+'] else []
  head ++ 'e' :: (sign ++ Text.decimal exponent)

def Layout.finite (layout : Layout) (m : Nat) (q : Int) : List Char :=
  if m = 0 then ['0', '.', '0'] else
  let d := shortest layout.tie m q
  if layout.leastPositional ≤ d.point - 1 ∧ d.point - 1 < layout.firstLarge then positional d
  else scientific layout d

/-- Text of a double. -/
def Layout.render (layout : Layout) (x : Float) : List Char :=
  let sign (negative : Bool) (text : List Char) := if negative then '-' :: text else text
  match meaning x.toBits with
  | .nan => ['N', 'a', 'N']
  | .infinite negative => sign negative ['i', 'n', 'f']
  | .finite negative m q => sign negative (layout.finite m q)

end Provision.Binary64
