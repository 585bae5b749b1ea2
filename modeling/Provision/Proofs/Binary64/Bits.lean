import Mathlib
import Provision.Numeral
import Provision.Proofs.Number

/-!
Doubles made from words. The word of a number that is no NaN survives the way through a double, so
what is read from a numeral has a place among the doubles, and the double of an integer is zero for
no integer but zero.
-/

namespace Provision

namespace Binary64

open Float.Model UnpackedFloat in
/-- A word that is not beyond infinity has no significand beside an exponent field of ones. -/
theorem isNaNBits_eq_false {word : UInt64} (real : size word ≤ infinitySize) :
    @isNaNBits Format.binary64 word.toBitVec = false := by
  rw [isNaNBits, decide_eq_false_iff_not]
  rintro ⟨exponent, mantissa⟩
  have ones : word.toNat / 2 ^ 52 % 2 ^ 11 = 2047 := by
    have field := congrArg BitVec.toNat exponent
    rw [unpackExponent_def, BitVec.extractLsb'_toNat, Nat.shiftRight_eq_div_pow] at field
    exact field
  refine mantissa (BitVec.eq_of_toNat_eq ?_)
  rw [unpackMantissa_def, BitVec.extractLsb'_toNat]
  show word.toNat >>> 0 % 2 ^ 52 = 0
  have bounded : word.toNat % 2 ^ 63 ≤ 2047 * 2 ^ 52 := real
  rw [Nat.shiftRight_zero]
  omega

theorem toBits_ofBits {word : UInt64} (real : size word ≤ infinitySize) :
    (Float.ofBits word).toBits = word := by
  have packed := @Float.Model.UnpackedFloat.pack_unpack .binary64 word.toBitVec (by decide)
  rw [isNaNBits_eq_false real] at packed
  exact UInt64.toBitVec_inj.mp packed

theorem place?_ne_none_iff (x : Float) : place? x.toBits ≠ none ↔ isNaN x = false := by
  rw [isNaN, decide_eq_false_iff_not]
  exact not_congr place?_eq_none_iff

theorem isNaN_ofBits_wordOf (negative : Bool) {n : Nat} (real : n ≤ infinitySize) :
    isNaN (Float.ofBits (wordOf negative n)) = false := by
  have same : size (wordOf negative n) = n :=
    size_wordOf negative (Nat.lt_of_le_of_lt real infinitySize_lt)
  rw [isNaN, toBits_ofBits (same.symm ▸ real), same]
  exact decide_eq_false (Nat.not_lt.mpr real)

theorem isNaN_ofDecimal (negative : Bool) (significand : Nat) (exponent : Int) :
    isNaN (ofDecimal negative significand exponent) = false := by
  have ratio (num den : Nat) : isNaN (ofRatio negative num den) = false :=
    isNaN_ofBits_wordOf negative (nearestSize_le num den)
  unfold ofDecimal
  dsimp only
  split
  · exact ratio 0 1
  · split
    · exact isNaN_ofBits_wordOf negative (Nat.le_refl _)
    · split <;> exact ratio _ _

/-- There are two words of zero, one for each sign. -/
theorem isZero_iff (x : Float) :
    isZero x = true ↔ x.toBits = 0 ∨ x.toBits = 0x8000000000000000 := by
  have width := x.toBits.toNat_lt
  rw [← UInt64.toNat_inj, ← UInt64.toNat_inj, isZero, beq_iff_eq]
  show x.toBits.toNat % 9223372036854775808 = 0 ↔
    x.toBits.toNat = 0 ∨ x.toBits.toNat = 9223372036854775808
  omega

theorem isZero_ofInt_iff (n : Int) : isZero (ofInt n) = true ↔ n = 0 := by
  have real : nearestSize n.natAbs 1 ≤ infinitySize := nearestSize_le n.natAbs 1
  have same : size (wordOfInt n) = nearestSize n.natAbs 1 :=
    size_wordOf _ (Nat.lt_of_le_of_lt real infinitySize_lt)
  rw [isZero, ofInt, toBits_ofBits (same.symm ▸ real), same, beq_iff_eq,
    nearestSize_one_eq_zero_iff, Int.natAbs_eq_zero]

end Binary64

namespace Number

/-- The integer zero, or the double zero of either sign. -/
def IsZero : Number → Prop
  | .integer n => n = 0
  | .float x => x.toBits = 0 ∨ x.toBits = 0x8000000000000000

theorem isZero_toFloat_iff (n : Number) : Binary64.isZero n.toFloat = true ↔ n.IsZero := by
  cases n with
  | integer n =>
    rw [toFloat, Binary64.isZero_ofInt_iff, ← Int64.toInt_zero, Int64.toInt_inj]
    rfl
  | float x => exact Binary64.isZero_iff x

theorem place?_ne_none_of_ofText? {s : String} {n : Number} (read : ofText? s = some n) :
    n.place? ≠ none := by
  obtain ⟨numeral, -, rfl⟩ := Option.map_eq_some_iff.mp read
  unfold Numeral.toNumber
  split
  case h_1 i exact =>
    obtain ⟨_, -, made⟩ := Option.bind_eq_some_iff.mp exact
    obtain ⟨n, -, rfl⟩ := Option.map_eq_some_iff.mp made
    rw [place?_integer]
    exact Option.some_ne_none _
  case h_2 =>
    have real : Binary64.isNaN numeral.toFloat = false := Binary64.isNaN_ofDecimal ..
    exact (Binary64.place?_ne_none_iff numeral.toFloat).mpr real

end Number

end Provision
