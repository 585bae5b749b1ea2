import Provision.Integer
import Provision.Proofs.Numeral

/-!
Arithmetic of 64-bit integers is that of the integers. Each operation gives a word just when the
exact result fits, and then that result: the corrections of a division toward zero make it a
division that rounds down, and shifting back loses nothing just when the product fits.
-/

namespace Provision

theorem Number.int64?_eq_some_iff {n : Int} {z : Int64} : int64? n = some z ↔ z.toInt = n := by
  constructor
  · intro found
    obtain ⟨⟨least, below⟩, made⟩ := Option.ite_none_right_eq_some.mp found
    rw [← Option.some.inj made]
    exact Int64.toInt_ofInt_of_le least below
  · rintro rfl
    exact int64?_toInt z

namespace Integer

variable {x y z : Int64}

section Division

theorem fdiv_eq_of_tmod {m n : Int} (nonzero : n ≠ 0) :
    m.fdiv n = if m.tmod n ≠ 0 ∧ ¬(m < 0 ↔ n < 0) then m.tdiv n - 1 else m.tdiv n := by
  rw [Int.fdiv_eq_tdiv]
  simp only [Int.dvd_iff_tmod_eq_zero]
  by_cases exact : m.tmod n = 0
  · simp [exact]
  rw [if_neg exact]
  rcases Int.lt_or_gt_of_ne nonzero with negative | positive
  · have below : ¬0 ≤ n := by omega
    rw [if_neg below, if_neg below, Int.sign_eq_neg_one_of_neg negative]
    split <;> split <;> omega
  · have above : 0 ≤ n := by omega
    rw [if_pos above, if_pos above, Int.sign_eq_one_of_pos positive]
    split <;> split <;> omega

/-- The remainder of a division toward zero has the sign of the dividend, if it is not zero. -/
theorem tmod_neg_iff {m n : Int} (inexact : m.tmod n ≠ 0) : m.tmod n < 0 ↔ m < 0 := by
  constructor
  · intro negative
    have := Int.tmod_nonneg n (a := m)
    omega
  · intro negative
    have opposite : 0 ≤ (-m).tmod n := Int.tmod_nonneg n (by omega)
    rw [Int.neg_tmod] at opposite
    omega

theorem fmod_eq_of_tmod {m n : Int} (nonzero : n ≠ 0) :
    m.fmod n = if m.tmod n ≠ 0 ∧ ¬(m.tmod n < 0 ↔ n < 0) then m.tmod n + n else m.tmod n := by
  have towardZero := Int.mul_tdiv_add_tmod m n
  have down := Int.mul_fdiv_add_fmod m n
  rw [fdiv_eq_of_tmod nonzero] at down
  by_cases inexact : m.tmod n ≠ 0
  · simp only [tmod_neg_iff inexact]
    split at down
    case isTrue corrected =>
      rw [if_pos corrected]
      rw [Int.mul_sub, Int.mul_one] at down
      omega
    case isFalse kept =>
      rw [if_neg kept]
      omega
  · simp only [inexact, false_and, if_false] at down ⊢
    omega

/-- What is left by a division that rounds down has the sign of the divisor. -/
theorem fmod_bounds (m n : Int) :
    (0 < n → 0 ≤ m.fmod n ∧ m.fmod n < n) ∧ (n < 0 → n < m.fmod n ∧ m.fmod n ≤ 0) := by
  constructor
  · intro positive
    exact ⟨Int.fmod_nonneg_of_pos m positive, Int.fmod_lt_of_pos m positive⟩
  · intro negative
    have positive : 0 < -n := by omega
    have least := Int.fmod_nonneg_of_pos (-m) positive
    have below := Int.fmod_lt_of_pos (-m) positive
    rw [Int.neg_fmod_neg] at least below
    omega

theorem toInt_eq_zero_iff : y.toInt = 0 ↔ y = 0 := by
  rw [← Int64.toInt_inj, Int64.toInt_zero]

theorem isDivisible_iff :
    isDivisible x y = true ↔ y ≠ 0 ∧ ¬(x = Int64.minValue ∧ y = -1) := by
  rw [isDivisible, Bool.and_eq_true, bne_iff_ne, Bool.not_eq_true', ← Bool.not_eq_true,
    Bool.and_eq_true, beq_iff_eq, beq_iff_eq]

theorem toInt_div (divisible : isDivisible x y = true) :
    (x / y).toInt = x.toInt.tdiv y.toInt := by
  obtain ⟨-, inside⟩ := isDivisible_iff.mp divisible
  by_cases least : x = Int64.minValue
  · exact Int64.toInt_div_of_ne_right x y fun minusOne => inside ⟨least, minusOne⟩
  · exact Int64.toInt_div_of_ne_left x y least

theorem bne_zero_iff : (x != 0) = true ↔ x.toInt ≠ 0 := by
  rw [bne_iff_ne, ne_eq, ne_eq, toInt_eq_zero_iff]

theorem signsDiffer_iff : signsDiffer x y = true ↔ ¬(x.toInt < 0 ↔ y.toInt < 0) := by
  rw [signsDiffer, bne_iff_ne, Ne, decide_eq_decide, Int64.lt_iff_toInt_lt, Int64.lt_iff_toInt_lt,
    Int64.toInt_zero]

/-- The quotient rounded down, unless it does not fit: -2⁶³ by -1 is the only such division. -/
theorem floorDiv?_eq_some_iff (nonzero : y ≠ 0) :
    floorDiv? x y = some z ↔ z.toInt = x.toInt.fdiv y.toInt := by
  have divisor : y.toInt ≠ 0 := mt toInt_eq_zero_iff.mp nonzero
  unfold floorDiv? quotient?
  split
  case isTrue divisible =>
    rw [Option.bind_some, fdiv_eq_of_tmod divisor, ← toInt_div divisible, ← Int64.toInt_mod]
    simp only [Bool.and_eq_true, bne_zero_iff, signsDiffer_iff]
    split
    · exact Number.int64?_eq_some_iff
    · rw [Option.some.injEq, ← Int64.toInt_inj, eq_comm]
  case isFalse indivisible =>
    rw [isDivisible_iff] at indivisible
    obtain ⟨rfl, rfl⟩ : x = Int64.minValue ∧ y = -1 := by
      by_cases inside : x = Int64.minValue ∧ y = -1
      · exact inside
      · exact absurd ⟨nonzero, inside⟩ indivisible
    have small := z.toInt_lt
    refine iff_of_false nofun ?_
    intro same
    have large : Int64.minValue.toInt.fdiv (-1 : Int64).toInt = 9223372036854775808 := by decide
    omega

/-- The remainder always fits. -/
theorem floorMod?_eq_some_iff (nonzero : y ≠ 0) :
    floorMod? x y = some z ↔ z.toInt = x.toInt.fmod y.toInt := by
  have divisor : y.toInt ≠ 0 := mt toInt_eq_zero_iff.mp nonzero
  unfold floorMod? remainder?
  split
  case isTrue minusOne =>
    have nothing : x.toInt.fmod y.toInt = 0 := by
      rw [minusOne]
      exact Int.fmod_eq_zero_of_dvd (Int.neg_dvd.mpr (Int.one_dvd _))
    rw [nothing, toInt_eq_zero_iff, Option.some.injEq, eq_comm]
  case isFalse notMinusOne =>
    have divisible : isDivisible x y = true :=
      isDivisible_iff.mpr ⟨nonzero, fun outside => notMinusOne outside.2⟩
    rw [if_pos divisible, Option.map_some, Option.some.injEq, ← Int64.toInt_inj, eq_comm,
      fmod_eq_of_tmod divisor, ← Int64.toInt_mod]
    simp only [Bool.and_eq_true, bne_zero_iff, signsDiffer_iff]
    split
    case isTrue corrected =>
      -- between different signs the sum stays between the two
      have least := (x % y).le_toInt
      have greatest := (x % y).toInt_lt
      have least' := y.le_toInt
      have greatest' := y.toInt_lt
      rw [Int64.toInt_add, Int.bmod_eq_of_le (by omega) (by omega)]
    case isFalse => rfl

end Division

section Shifts

variable {s : Nat}

theorem shiftAmount?_eq_some_iff :
    shiftAmount? y = some s ↔ y.toInt = s ∧ s < 64 := by
  unfold shiftAmount?
  split
  case isTrue inside =>
    rw [Option.some.injEq]
    omega
  case isFalse outside =>
    refine iff_of_false nofun ?_
    omega

theorem toInt_shiftRight (x : Int64) (s : Nat) :
    (shiftRight x s).toInt = x.toInt.fdiv (Int.pow 2 s) := by
  have power : ((2 ^ s : Nat) : Int) = Int.pow 2 s := Int.natCast_pow 2 s
  have positive : 0 ≤ Int.pow 2 s := Int.le_of_lt (Int.pow_pos (by decide))
  rw [shiftRight, Int64.toInt_ofBitVec, BitVec.toInt_sshiftRight, Int64.toInt_toBitVec,
    Int.shiftRight_eq_div_pow, power, Int.fdiv_eq_ediv_of_nonneg _ positive]

/-- A word shifted to the left within 64 bits. -/
theorem toInt_shiftLeft (x : Int64) (s : Nat) :
    (Int64.ofBitVec (x.toBitVec <<< s)).toInt = (x.toInt * Int.pow 2 s).bmod (Nat.pow 2 64) := by
  have product : (x.toInt * Int.pow 2 s).bmod (Nat.pow 2 64) =
      ((x.toBitVec.toNat : Int) * Int.pow 2 s).bmod (Nat.pow 2 64) := by
    rw [← Int64.toInt_toBitVec, BitVec.toInt_eq_toNat_bmod]
    exact Int.bmod_mul_bmod
  rw [Int64.toInt_ofBitVec, BitVec.toInt_shiftLeft, product, Nat.shiftLeft_eq, Int.natCast_mul]
  rfl

theorem shiftLeft?_eq_some_iff (small : s < 64) :
    shiftLeft? x s = some z ↔ z.toInt = x.toInt * Int.pow 2 s := by
  have shifted := toInt_shiftLeft x s
  have positive : Int.pow 2 s ≠ 0 := Int.ne_of_gt (Int.pow_pos (by decide))
  unfold shiftLeft?
  dsimp only
  generalize Int64.ofBitVec (x.toBitVec <<< s) = r at shifted
  -- the bits that were not lost stand above `s` zeros
  have aligned : Int.pow 2 s ∣ r.toInt := by
    have width : ((Nat.pow 2 64 : Nat) : Int) = Int.pow 2 s * Int.pow 2 (64 - s) := by
      have digits : 64 = s + (64 - s) := by omega
      calc ((Nat.pow 2 64 : Nat) : Int) = Int.pow 2 64 := rfl
        _ = Int.pow 2 (s + (64 - s)) := by rw [← digits]
        _ = Int.pow 2 s * Int.pow 2 (64 - s) := Int.pow_add ..
    rw [shifted, Int.bmod_eq_self_sub_mul_bdiv, width, Int.mul_assoc]
    exact Int.dvd_sub (Int.dvd_mul_left ..) (Int.dvd_mul_right ..)
  have kept : shiftRight r s = x ↔ r.toInt = x.toInt * Int.pow 2 s := by
    rw [← Int64.toInt_inj, toInt_shiftRight]
    constructor
    · intro back
      rw [← back, Int.fdiv_mul_cancel aligned]
    · intro exact
      rw [exact, Int.mul_fdiv_cancel _ positive]
  split
  case isTrue back =>
    rw [Option.some.injEq, ← Int64.toInt_inj, kept.mp back, eq_comm]
  case isFalse lost =>
    refine iff_of_false nofun fun fits => lost (kept.mpr ?_)
    rw [shifted, ← fits]
    exact z.toInt_bmod

end Shifts

end Integer

end Provision
