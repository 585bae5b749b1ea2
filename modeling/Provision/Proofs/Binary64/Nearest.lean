import Provision.Binary64.Basic

/-!
Rounding keeps the order of integers: the double nearest to a greater integer does not stand to the
left of the double nearest to a lesser one. Two different integers may share their double, so the
order is kept weakly.
-/

namespace Provision.Binary64

section Words

/-- A number of 63 bits goes into a word beside its sign. -/
theorem toNat_wordOf (negative : Bool) {n : Nat} (fits : n < Nat.pow 2 63) :
    (wordOf negative n).toNat = (if negative then Nat.pow 2 63 else 0) + n := by
  have width : 2 ^ 64 = Nat.pow 2 63 + Nat.pow 2 63 := by decide
  rw [wordOf, UInt64.toNat_ofNat', width]
  cases negative with
  | false =>
    simp only [Bool.false_eq_true, if_false, Nat.zero_add]
    exact Nat.mod_eq_of_lt (Nat.lt_of_lt_of_le fits (Nat.le_add_left _ _))
  | true =>
    simp only [if_true]
    exact Nat.mod_eq_of_lt (Nat.add_lt_add_left fits _)

theorem size_wordOf (negative : Bool) {n : Nat} (fits : n < Nat.pow 2 63) :
    size (wordOf negative n) = n := by
  rw [size, toNat_wordOf negative fits]
  cases negative with
  | false => simp only [Bool.false_eq_true, if_false, Nat.zero_add, Nat.mod_eq_of_lt fits]
  | true => simp only [if_true, Nat.add_mod_left, Nat.mod_eq_of_lt fits]

theorem isNegative_wordOf (negative : Bool) {n : Nat} (fits : n < Nat.pow 2 63) :
    isNegative (wordOf negative n) = negative := by
  rw [isNegative, toNat_wordOf negative fits]
  cases negative with
  | false =>
    apply decide_eq_false
    simp only [Bool.false_eq_true, if_false]
    omega
  | true =>
    apply decide_eq_true
    simp only [if_true]
    omega

theorem infinitySize_lt : infinitySize < Nat.pow 2 63 := by decide

theorem place?_wordOf (negative : Bool) {n : Nat} (real : n ≤ infinitySize) :
    place? (wordOf negative n) = some (if negative then -(n : Int) else n) := by
  have fits : n < Nat.pow 2 63 := Nat.lt_of_le_of_lt real infinitySize_lt
  rw [place?, size_wordOf negative fits, isNegative_wordOf negative fits,
    if_neg (Nat.not_lt.mpr real)]
  cases negative <;> rfl

end Words

section Quotients

variable {m n den : Nat}

/-- A quotient is rounded down or up, whichever is nearer; half way it goes to the even one. -/
theorem roundDiv_cases (n den : Nat) :
    (roundDiv n den = n / den ∧
        (2 * (n % den) < den ∨ 2 * (n % den) = den ∧ n / den % 2 = 0)) ∨
      (roundDiv n den = n / den + 1 ∧
        (den < 2 * (n % den) ∨ 2 * (n % den) = den ∧ n / den % 2 = 1)) := by
  unfold roundDiv
  dsimp only
  split <;> omega

theorem roundDiv_mono (le : m ≤ n) (den : Nat) : roundDiv m den ≤ roundDiv n den := by
  have quotients : m / den ≤ n / den := Nat.div_le_div_right le
  rcases Nat.lt_or_eq_of_le quotients with less | same
  · have left := roundDiv_cases m den
    have right := roundDiv_cases n den
    omega
  · -- equal quotients, so that the remainders decide
    have remainders : m % den ≤ n % den := by
      have split_m := Nat.div_add_mod m den
      have split_n := Nat.div_add_mod n den
      rw [same] at split_m
      omega
    unfold roundDiv
    dsimp only
    rw [same]
    split <;> split <;> omega

theorem le_roundDiv {q : Nat} (positive : 0 < den) (le : q * den ≤ n) : q ≤ roundDiv n den := by
  have quotient : q ≤ n / den := (Nat.le_div_iff_mul_le positive).mpr le
  have rounded := roundDiv_cases n den
  omega

theorem roundDiv_le {q : Nat} (positive : 0 < den) (lt : n < q * den) : roundDiv n den ≤ q := by
  have quotient : n / den < q := (Nat.div_lt_iff_lt_mul positive).mpr lt
  have rounded := roundDiv_cases n den
  omega

end Quotients

section Units

variable {m n d : Nat}

theorem inUnits_den_pos (n : Nat) (unit : Int) : 0 < (inUnits n 1 unit).2 := by
  unfold inUnits
  split
  · exact Nat.mul_pos Nat.one_pos (Nat.two_pow_pos _)
  · exact Nat.one_pos

/-- A number of `d + 1` binary digits has 53 of them before the point. -/
theorem le_inUnits (least : Nat.pow 2 d ≤ n) :
    Nat.pow 2 52 * (inUnits n 1 ((d : Int) - 52)).2 ≤ (inUnits n 1 ((d : Int) - 52)).1 := by
  unfold inUnits
  split
  case isTrue long =>
    have digits : d = 52 + ((d : Int) - 52).toNat := by omega
    calc Nat.pow 2 52 * (1 * Nat.pow 2 ((d : Int) - 52).toNat)
        = Nat.pow 2 (52 + ((d : Int) - 52).toNat) := by
          rw [Nat.one_mul]
          exact (Nat.pow_add ..).symm
      _ = Nat.pow 2 d := by rw [← digits]
      _ ≤ n := least
  case isFalse short =>
    have digits : 52 = d + (-((d : Int) - 52)).toNat := by omega
    calc Nat.pow 2 52 * 1
        = Nat.pow 2 (d + (-((d : Int) - 52)).toNat) := by rw [Nat.mul_one, ← digits]
      _ = Nat.pow 2 d * Nat.pow 2 (-((d : Int) - 52)).toNat := Nat.pow_add ..
      _ ≤ n * Nat.pow 2 (-((d : Int) - 52)).toNat := Nat.mul_le_mul_right _ least

theorem inUnits_lt (beyond : n < Nat.pow 2 (d + 1)) :
    (inUnits n 1 ((d : Int) - 52)).1 < Nat.pow 2 53 * (inUnits n 1 ((d : Int) - 52)).2 := by
  unfold inUnits
  split
  case isTrue long =>
    have digits : d + 1 = 53 + ((d : Int) - 52).toNat := by omega
    calc n < Nat.pow 2 (d + 1) := beyond
      _ = Nat.pow 2 (53 + ((d : Int) - 52).toNat) := by rw [← digits]
      _ = Nat.pow 2 53 * (1 * Nat.pow 2 ((d : Int) - 52).toNat) := by
        rw [Nat.one_mul]
        exact Nat.pow_add ..
  case isFalse short =>
    have digits : 53 = d + 1 + (-((d : Int) - 52)).toNat := by omega
    calc n * Nat.pow 2 (-((d : Int) - 52)).toNat
        < Nat.pow 2 (d + 1) * Nat.pow 2 (-((d : Int) - 52)).toNat :=
          Nat.mul_lt_mul_of_pos_right beyond (Nat.two_pow_pos _)
      _ = Nat.pow 2 (d + 1 + (-((d : Int) - 52)).toNat) := (Nat.pow_add ..).symm
      _ = Nat.pow 2 53 * 1 := by rw [← digits, Nat.mul_one]

theorem inUnits_mono (le : m ≤ n) (unit : Int) :
    (inUnits m 1 unit).1 ≤ (inUnits n 1 unit).1 ∧ (inUnits m 1 unit).2 = (inUnits n 1 unit).2 := by
  unfold inUnits
  split
  · exact ⟨le, rfl⟩
  · exact ⟨Nat.mul_le_mul_right _ le, rfl⟩

/-- The significand of `n` at the exponent where it has 53 digits, rounded. -/
def rounded (n : Nat) (unit : Int) : Nat :=
  roundDiv (inUnits n 1 unit).1 (inUnits n 1 unit).2

theorem rounded_mono (le : m ≤ n) (unit : Int) : rounded m unit ≤ rounded n unit := by
  obtain ⟨numerators, denominators⟩ := inUnits_mono le unit
  rw [rounded, rounded, denominators]
  exact roundDiv_mono numerators _

theorem le_rounded (least : Nat.pow 2 d ≤ n) : Nat.pow 2 52 ≤ rounded n ((d : Int) - 52) :=
  le_roundDiv (inUnits_den_pos n _) (le_inUnits least)

theorem rounded_le (beyond : n < Nat.pow 2 (d + 1)) :
    rounded n ((d : Int) - 52) ≤ Nat.pow 2 53 :=
  roundDiv_le (inUnits_den_pos n _) (inUnits_lt beyond)

end Units

section Naturals

variable {m n : Nat}

theorem unitOf_one (positive : n ≠ 0) : unitOf n 1 = (Nat.log2 n : Int) - 52 := by
  have one : Nat.log2 1 = 0 := by decide
  have enough : Nat.pow 2 52 ≤
      (inUnits n 1 ((Nat.log2 n : Int) - 52)).1 / (inUnits n 1 ((Nat.log2 n : Int) - 52)).2 :=
    (Nat.le_div_iff_mul_le (inUnits_den_pos n _)).mpr (le_inUnits (Nat.log2_self_le positive))
  unfold unitOf
  dsimp only
  rw [one, Int.natCast_zero, Int.sub_zero, if_neg (Nat.not_lt.mpr enough)]
  omega

/-- A carry out of 53 digits leads to the least size with the next exponent. -/
theorem nearestSize_one (positive : n ≠ 0) :
    nearestSize n 1 = min ((Nat.log2 n + 1022) * Nat.pow 2 52 +
      rounded n ((Nat.log2 n : Int) - 52)) infinitySize := by
  have field : ((Nat.log2 n : Int) - 52 + 1074).toNat = Nat.log2 n + 1022 := by omega
  unfold nearestSize
  rw [if_neg positive]
  dsimp only
  rw [unitOf_one positive, field]
  rfl

theorem nearestSize_one_eq_zero_iff : nearestSize n 1 = 0 ↔ n = 0 := by
  by_cases zero : n = 0
  · rw [zero]
    exact iff_of_true rfl rfl
  · have field : 0 < (Nat.log2 n + 1022) * Nat.pow 2 52 :=
      Nat.mul_pos (by omega) (by decide)
    have infinite : 0 < infinitySize := by decide
    rw [nearestSize_one zero]
    omega

theorem nearestSize_mono (le : m ≤ n) : nearestSize m 1 ≤ nearestSize n 1 := by
  by_cases zero : m = 0
  · rw [zero]
    exact Nat.zero_le _
  have positive : n ≠ 0 := by omega
  rw [nearestSize_one zero, nearestSize_one positive]
  refine Nat.le_min.mpr ⟨Nat.le_trans (Nat.min_le_left ..) ?_, Nat.min_le_right ..⟩
  have digits : Nat.log2 m ≤ Nat.log2 n :=
    (Nat.le_log2 positive).mpr (Nat.le_trans (Nat.log2_self_le zero) le)
  rcases Nat.lt_or_eq_of_le digits with fewer | same
  · have carried : rounded m ((Nat.log2 m : Int) - 52) ≤ Nat.pow 2 53 :=
      rounded_le Nat.lt_log2_self
    have full : Nat.pow 2 52 ≤ rounded n ((Nat.log2 n : Int) - 52) :=
      le_rounded (Nat.log2_self_le positive)
    have double : Nat.pow 2 53 = Nat.pow 2 52 + Nat.pow 2 52 := by decide
    have fields : (Nat.log2 m + 1022 + 1) * Nat.pow 2 52 ≤ (Nat.log2 n + 1022) * Nat.pow 2 52 :=
      Nat.mul_le_mul_right _ (by omega)
    rw [Nat.succ_mul] at fields
    omega
  · rw [same]
    exact Nat.add_le_add_left (rounded_mono le _) _

theorem nearestSize_le (num den : Nat) : nearestSize num den ≤ infinitySize := by
  unfold nearestSize
  split
  · exact Nat.zero_le _
  · exact Nat.min_le_right ..

end Naturals

section Integers

/-- Where the double nearest to an integer stands. -/
def placeOfInt (n : Int) : Int :=
  if n < 0 then -(nearestSize n.natAbs 1 : Int) else nearestSize n.natAbs 1

theorem place?_wordOfInt (n : Int) : place? (wordOfInt n) = some (placeOfInt n) := by
  rw [wordOfInt, place?_wordOf _ (nearestSize_le _ _), placeOfInt]
  simp only [decide_eq_true_eq]

theorem placeOfInt_mono {m n : Int} (le : m ≤ n) : placeOfInt m ≤ placeOfInt n := by
  unfold placeOfInt
  split
  case isTrue left =>
    split
    case isTrue right =>
      have sizes : nearestSize n.natAbs 1 ≤ nearestSize m.natAbs 1 := nearestSize_mono (by omega)
      omega
    case isFalse right => omega
  case isFalse left =>
    have right : ¬n < 0 := by omega
    have sizes : nearestSize m.natAbs 1 ≤ nearestSize n.natAbs 1 := nearestSize_mono (by omega)
    rw [if_neg right]
    omega

end Integers

end Provision.Binary64
