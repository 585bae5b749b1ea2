import Mathlib
import Provision.Proofs.Binary64.Nearest

/-!
Rounding is correct: the double made from a quotient, and the one read from a decimal, is nearest to
it of all doubles, and of two equally near ones it is the even one. Distances are measured among
rationals. For what is too large, infinity's size stands for 2¹⁰²⁴, the next number after the
greatest double.
-/

namespace Provision.Binary64

section Sizes

/-- How often the unit has doubled from the least one, 2⁻¹⁰⁷⁴, at a size. -/
def doublings (s : ℕ) : ℕ := s / 2 ^ 52 - 1

/-- The number that a size stands for. -/
def sizeValue (s : ℕ) : ℚ :=
  ((s - doublings s * 2 ^ 52 : ℕ) : ℚ) * 2 ^ ((doublings s : ℤ) - 1074)

/-- Every size has a significand of 53 digits, or of fewer in the least unit. -/
theorem exists_grid (s : ℕ) :
    ∃ u k, s = u * 2 ^ 52 + k ∧ k < 2 ^ 53 ∧ (u = 0 ∨ 2 ^ 52 ≤ k) ∧
      sizeValue s = k * 2 ^ ((u : ℤ) - 1074) := by
  refine ⟨doublings s, s - doublings s * 2 ^ 52, ?_, ?_, ?_, rfl⟩ <;> unfold doublings <;> omega

/-- A carry out of 53 digits leads to the size of the same number in the next unit. -/
theorem sizeValue_grid {u k : ℕ} (short : k ≤ 2 ^ 53) (full : u = 0 ∨ 2 ^ 52 ≤ k) :
    sizeValue (u * 2 ^ 52 + k) = k * 2 ^ ((u : ℤ) - 1074) := by
  rcases Nat.lt_or_eq_of_le short with less | carried
  · have same : doublings (u * 2 ^ 52 + k) = u := by
      unfold doublings
      omega
    rw [sizeValue, same, Nat.add_sub_cancel_left]
  · have next : doublings (u * 2 ^ 52 + k) = u + 1 := by
      unfold doublings
      omega
    have half : u * 2 ^ 52 + k - (u + 1) * 2 ^ 52 = 2 ^ 52 := by omega
    have unit : ((u + 1 : ℕ) : ℤ) - 1074 = (u : ℤ) - 1074 + 1 := by omega
    rw [sizeValue, next, half, carried, unit, zpow_add_one₀ (by norm_num)]
    push_cast
    ring

/-- A size stands for the number that its word means. -/
theorem meaning_wordOf (negative : Bool) {s : ℕ} (finite : s < infinitySize) :
    ∃ m e, meaning (wordOf negative s) = .finite negative m e ∧ sizeValue s = m * 2 ^ e := by
  have fits : s < Nat.pow 2 63 := Nat.lt_trans finite infinitySize_lt
  have field : s / Nat.pow 2 52 ≠ 2047 := by
    have bound : s < 2047 * Nat.pow 2 52 := finite
    exact (Nat.div_lt_of_lt_mul (Nat.mul_comm .. ▸ bound)).ne
  simp only [meaning, size_wordOf negative fits, isNegative_wordOf negative fits, if_neg field,
    Nat.pow_eq]
  split
  case isTrue least =>
    refine ⟨_, _, rfl, ?_⟩
    have unit : doublings s = 0 := by
      unfold doublings
      omega
    have significand : s - 0 * 2 ^ 52 = s % 2 ^ 52 := by omega
    rw [sizeValue, unit, significand]
    rfl
  case isFalse greater =>
    refine ⟨_, _, rfl, ?_⟩
    have significand : s - doublings s * 2 ^ 52 = 2 ^ 52 + s % 2 ^ 52 := by
      unfold doublings
      omega
    have unit : (doublings s : ℤ) - 1074 = (s / 2 ^ 52 : ℕ) - 1075 := by
      unfold doublings
      omega
    rw [sizeValue, significand, unit]

theorem sizeValue_strictMono : StrictMono sizeValue := by
  refine strictMono_nat_of_lt_succ fun s => ?_
  obtain ⟨u, k, rfl, short, full, value⟩ := exists_grid s
  rw [value, Nat.add_assoc, sizeValue_grid (k := k + 1) (by omega) (by omega)]
  have unit : (0 : ℚ) < 2 ^ ((u : ℤ) - 1074) := by positivity
  exact mul_lt_mul_of_pos_right (by push_cast; linarith) unit

theorem sizeValue_zero : sizeValue 0 = 0 := by simp [sizeValue]

end Sizes

section Quotients

/-- No other multiple of the divisor is nearer than the rounded one, or as near unless the rounded
one is even. -/
theorem roundDiv_nearest (n : ℕ) {den k : ℕ} (positive : 0 < den) (other : k ≠ roundDiv n den) :
    |(roundDiv n den * den - n : ℤ)| < |(k * den - n : ℤ)| ∨
      (|(roundDiv n den * den - n : ℤ)| = |(k * den - n : ℤ)| ∧ roundDiv n den % 2 = 0) := by
  have division : n / den * den + n % den = n := Nat.div_add_mod' n den
  have remainder : n % den < den := Nat.mod_lt n positive
  have rounded := roundDiv_cases n den
  have multiples {i j : ℕ} (before : i < j) : i * den + den ≤ j * den := by
    rw [← Nat.succ_mul]
    exact Nat.mul_le_mul_right den before
  simp only [Int.abs_eq_natAbs, ← Nat.cast_mul]
  generalize roundDiv n den = r at rounded other ⊢
  generalize n / den = q at division rounded
  generalize n % den = m at division rounded remainder
  rcases rounded with ⟨rfl, small⟩ | ⟨rfl, large⟩
  · rcases Nat.lt_or_gt_of_ne other with before | after
    · have below := multiples before
      omega
    · have above := multiples after
      omega
  · rw [Nat.succ_mul]
    rcases Nat.lt_or_gt_of_ne other with before | after
    · rcases Nat.lt_or_eq_of_le (Nat.le_of_lt_succ before) with below | rfl
      · have below := multiples below
        omega
      · omega
    · have above := multiples after
      rw [Nat.succ_mul] at above
      omega

end Quotients

section Units

variable {num den : ℕ}

theorem inUnits_pos (num : ℕ) (positive : 0 < den) (unit : ℤ) : 0 < (inUnits num den unit).2 := by
  unfold inUnits
  split
  · exact Nat.mul_pos positive (Nat.two_pow_pos _)
  · exact positive

/-- Units of another size count the same quotient. -/
theorem inUnits_ratio (num den : ℕ) (unit : ℤ) :
    ((inUnits num den unit).1 / (inUnits num den unit).2 : ℚ) * 2 ^ unit = num / den := by
  unfold inUnits
  split
  case isTrue coarse =>
    obtain ⟨e, rfl⟩ := Int.eq_ofNat_of_zero_le coarse
    simp only [Int.toNat_natCast, Nat.pow_eq, zpow_natCast]
    push_cast
    field_simp
  case isFalse fine =>
    obtain ⟨e, rfl⟩ : ∃ e : ℕ, unit = -(e : ℤ) := ⟨unit.natAbs, by omega⟩
    simp only [neg_neg, Int.toNat_natCast, Nat.pow_eq, zpow_neg, zpow_natCast]
    push_cast
    field_simp

theorem log2_bounds {n : ℕ} (positive : 0 < n) :
    (2 : ℚ) ^ (Nat.log2 n : ℤ) ≤ n ∧ (n : ℚ) < 2 ^ ((Nat.log2 n : ℤ) + 1) := by
  constructor
  · rw [zpow_natCast]
    exact_mod_cast Nat.log2_self_le positive.ne'
  · rw [← Nat.cast_succ, zpow_natCast]
    exact_mod_cast Nat.lt_log2_self

/-- The lengths of two numbers tell their quotient up to a factor of two either way. -/
theorem ratio_bounds (num_pos : 0 < num) (den_pos : 0 < den) :
    (2 : ℚ) ^ ((Nat.log2 num : ℤ) - Nat.log2 den - 1) ≤ num / den ∧
      (num / den : ℚ) < 2 ^ ((Nat.log2 num : ℤ) - Nat.log2 den + 1) := by
  obtain ⟨num_least, num_beyond⟩ := log2_bounds num_pos
  obtain ⟨den_least, den_beyond⟩ := log2_bounds den_pos
  have two : (2 : ℚ) ≠ 0 := two_ne_zero
  have den_pos' : (0 : ℚ) < den := by exact_mod_cast den_pos
  constructor
  · rw [le_div_iff₀ den_pos']
    calc (2 : ℚ) ^ ((Nat.log2 num : ℤ) - Nat.log2 den - 1) * den
        ≤ 2 ^ ((Nat.log2 num : ℤ) - Nat.log2 den - 1) * 2 ^ ((Nat.log2 den : ℤ) + 1) := by gcongr
      _ = 2 ^ (Nat.log2 num : ℤ) := by
        rw [← zpow_add₀ two]
        congr 1
        ring
      _ ≤ num := num_least
  · rw [div_lt_iff₀ den_pos']
    calc (num : ℚ) < 2 ^ ((Nat.log2 num : ℤ) + 1) := num_beyond
      _ = 2 ^ ((Nat.log2 num : ℤ) - Nat.log2 den + 1) * 2 ^ (Nat.log2 den : ℤ) := by
        rw [← zpow_add₀ two]
        congr 1
        ring
      _ ≤ 2 ^ ((Nat.log2 num : ℤ) - Nat.log2 den + 1) * den := by gcongr

/-- Before the point stand more than 52 digits in a unit when the number is large enough. -/
theorem le_div_inUnits_iff (num : ℕ) (den_pos : 0 < den) (unit : ℤ) (k : ℕ) :
    Nat.pow 2 k ≤ (inUnits num den unit).1 / (inUnits num den unit).2 ↔
      (2 : ℚ) ^ (unit + k) ≤ num / den := by
  have positive := inUnits_pos num den_pos unit
  have positive' : (0 : ℚ) < (inUnits num den unit).2 := by exact_mod_cast positive
  have power : (0 : ℚ) < 2 ^ unit := by positivity
  rw [← inUnits_ratio num den unit, add_comm, zpow_add₀ two_ne_zero, mul_le_mul_iff_left₀ power,
    zpow_natCast, Nat.le_div_iff_mul_le positive, le_div_iff₀ positive', Nat.pow_eq]
  exact_mod_cast Iff.rfl

/-- The unit in which a quotient has 53 digits before the point, or the least unit. -/
theorem unitOf_bounds (num_pos : 0 < num) (den_pos : 0 < den) :
    -1074 ≤ unitOf num den ∧ (num / den : ℚ) < 2 ^ (unitOf num den + 53) ∧
      (unitOf num den = -1074 ∨ (2 : ℚ) ^ (unitOf num den + 52) ≤ num / den) := by
  obtain ⟨least, beyond⟩ := ratio_bounds num_pos den_pos
  obtain ⟨unit, same, least', beyond'⟩ : ∃ unit : ℤ, unitOf num den = max unit (-1074) ∧
      (2 : ℚ) ^ (unit + 52) ≤ num / den ∧ (num / den : ℚ) < 2 ^ (unit + 53) := by
    refine ⟨_, rfl, ?_⟩
    split
    case isTrue short =>
      have less := mt (le_div_inUnits_iff num den_pos _ 52).mpr (Nat.not_le.mpr short)
      refine ⟨?_, (not_le.mp less).trans_eq ?_⟩
      · convert least using 2
        ring
      · congr 1
        push_cast
        ring
    case isFalse enough =>
      have long := (le_div_inUnits_iff num den_pos _ 52).mp (Nat.not_lt.mp enough)
      refine ⟨long, beyond.trans_eq ?_⟩
      congr 1
      ring
  rw [same]
  refine ⟨le_max_right .., ?_, ?_⟩
  · exact beyond'.trans_le (zpow_le_zpow_right₀ one_le_two (by omega))
  · rcases le_total unit (-1074) with small | large
    · exact .inl (max_eq_right small)
    · rw [max_eq_left large]
      exact .inr least'

end Units

section Nearest

/-- A value is rounded to `x` rather than to `y`: `x` is nearer to it, or as near and even. -/
def Preferred (value : ℚ) (even : Prop) (x y : ℚ) : Prop :=
  |x - value| < |y - value| ∨ (|x - value| = |y - value| ∧ even)

/-- The size of the double that a value is rounded to. Infinity's size competes as 2¹⁰²⁴. -/
def IsNearest (value : ℚ) (s : ℕ) : Prop :=
  s ≤ infinitySize ∧
    ∀ t ≤ infinitySize, t ≠ s → Preferred value (Even s) (sizeValue s) (sizeValue t)

variable {value x y : ℚ} {even : Prop} {s t : ℕ}

theorem Preferred.le (preferred : Preferred value even x y) : |x - value| ≤ |y - value| := by
  rcases preferred with less | ⟨same, -⟩
  · exact less.le
  · exact same.le

theorem Preferred.both {even' : Prop} (left : Preferred value even x y)
    (right : Preferred value even' y x) : |x - value| = |y - value| ∧ even ∧ even' := by
  have same : |x - value| = |y - value| := le_antisymm left.le right.le
  exact ⟨same, (left.resolve_left same.not_lt).2, (right.resolve_left same.not_gt).2⟩

theorem distance_lt_of_le (less : y < x) (inside : x ≤ value) : |x - value| < |y - value| := by
  rw [abs_of_nonpos (by linarith), abs_of_nonpos (by linarith)]
  linarith

/-- A value is rounded to one double only: between two even ones there is a nearer one. -/
theorem IsNearest.unique (left : IsNearest value s) (right : IsNearest value t) : s = t := by
  by_contra different
  wlog before : s < t generalizing s t
  · exact this right left (Ne.symm different) (by omega)
  obtain ⟨same, ⟨i, _⟩, ⟨j, _⟩⟩ :=
    (left.2 t right.1 (Ne.symm different)).both (right.2 s left.1 different)
  have above : sizeValue s < sizeValue (s + 1) := sizeValue_strictMono (Nat.lt_succ_self s)
  have below : sizeValue (s + 1) < sizeValue t := sizeValue_strictMono (by omega)
  have middle : value = (sizeValue s + sizeValue t) / 2 := by
    rcases abs_eq_abs.mp same with equal | opposite <;> linarith
  have nearer : |sizeValue (s + 1) - value| < |sizeValue s - value| := by
    rw [abs_of_neg (by linarith : sizeValue s - value < 0), abs_lt]
    constructor <;> linarith
  exact absurd nearer (left.2 (s + 1) (before.trans_le right.1) (Nat.succ_ne_self s)).le.not_gt

/-- What lies beyond infinity's size is rounded to infinity. -/
theorem isNearest_infinitySize (large : sizeValue infinitySize ≤ value) :
    IsNearest value infinitySize := by
  refine ⟨le_rfl, fun t real different => .inl (distance_lt_of_le ?_ large)⟩
  exact sizeValue_strictMono (real.lt_of_ne different)

/-- What is less than half of the least positive double is rounded to zero. -/
theorem isNearest_zero (nonneg : 0 ≤ value) (small : 2 * value < sizeValue 1) :
    IsNearest value 0 := by
  refine ⟨Nat.zero_le _, fun t real different => .inl ?_⟩
  have least : sizeValue 1 ≤ sizeValue t :=
    sizeValue_strictMono.monotone (Nat.one_le_iff_ne_zero.mpr different)
  rw [sizeValue_zero, zero_sub, abs_neg, abs_of_nonneg nonneg, abs_of_nonneg (by linarith)]
  linarith

/-- A size preferred to all others, those beyond infinity among them, is cut off at infinity. -/
theorem isNearest_min
    (best : ∀ t, t ≠ s → Preferred value (Even s) (sizeValue s) (sizeValue t)) :
    IsNearest value (min s infinitySize) := by
  rcases Nat.lt_or_ge infinitySize s with beyond | real
  · rw [min_eq_right beyond.le]
    have less : sizeValue infinitySize < sizeValue s := sizeValue_strictMono beyond
    have nearer := (best infinitySize beyond.ne).le
    refine isNearest_infinitySize (not_lt.mp fun inside => ?_)
    rw [abs_of_pos (by linarith), abs_of_pos (by linarith)] at nearer
    linarith
  · rw [min_eq_left real]
    exact ⟨real, fun t _ => best t⟩

end Nearest

section Rounding

variable {num den : ℕ} {value : ℚ}

/-- Distances from a quotient, measured in units, are those from the numerator among the multiples
of the denominator. -/
theorem distance_inUnits (num : ℕ) (den_pos : 0 < den) (unit : ℤ) (k : ℕ) :
    |k * 2 ^ unit - (num / den : ℚ)| =
      |(k * (inUnits num den unit).2 - (inUnits num den unit).1 : ℤ)| *
        (2 ^ unit / (inUnits num den unit).2) := by
  have positive : (0 : ℚ) < (inUnits num den unit).2 := by
    exact_mod_cast inUnits_pos num den_pos unit
  have scale : (0 : ℚ) < 2 ^ unit / (inUnits num den unit).2 := by positivity
  have distance : k * 2 ^ unit - (num / den : ℚ) =
      (k * (inUnits num den unit).2 - (inUnits num den unit).1 : ℤ) *
        (2 ^ unit / (inUnits num den unit).2) := by
    rw [← inUnits_ratio num den unit]
    push_cast
    field_simp
  rw [distance, abs_mul, abs_of_pos scale, Int.cast_abs]

/-- Among the multiples of a unit the rounded quotient is the nearest. -/
theorem roundDiv_preferred (num : ℕ) (den_pos : 0 < den) (unit : ℤ) {r k : ℕ}
    (rounded : r = roundDiv (inUnits num den unit).1 (inUnits num den unit).2) (other : k ≠ r) :
    Preferred (num / den) (Even r) (r * 2 ^ unit) (k * 2 ^ unit) := by
  have positive := inUnits_pos num den_pos unit
  have positive' : (0 : ℚ) < (inUnits num den unit).2 := by exact_mod_cast positive
  have scale : (0 : ℚ) < 2 ^ unit / (inUnits num den unit).2 := by positivity
  rw [Preferred, distance_inUnits num den_pos, distance_inUnits num den_pos,
    mul_lt_mul_iff_left₀ scale, mul_left_inj' scale.ne', Int.cast_lt, Int.cast_inj, Nat.even_iff]
  subst rounded
  exact roundDiv_nearest _ positive other

/-- A size that is the best among those with its own unit is the best of all: what has a lesser unit
lies on the other side of the least size that fills its own. -/
theorem preferred_of_grid {u r t : ℕ} (short : r ≤ 2 ^ 53) (full : u = 0 ∨ 2 ^ 52 ≤ r)
    (large : u = 0 ∨ 2 ^ 52 * 2 ^ ((u : ℤ) - 1074) ≤ value)
    (best : ∀ k : ℕ, k ≠ r →
      Preferred value (Even r) (r * 2 ^ ((u : ℤ) - 1074)) (k * 2 ^ ((u : ℤ) - 1074)))
    (other : t ≠ u * 2 ^ 52 + r) :
    Preferred value (Even (u * 2 ^ 52 + r)) (sizeValue (u * 2 ^ 52 + r)) (sizeValue t) := by
  have here : sizeValue (u * 2 ^ 52 + r) = r * 2 ^ ((u : ℤ) - 1074) := sizeValue_grid short full
  obtain ⟨v, k, shape, short', full', there⟩ := exists_grid t
  rcases Nat.lt_or_ge v u with finer | coarser
  · have base : sizeValue (u * 2 ^ 52 + 2 ^ 52) = (2 ^ 52 : ℕ) * 2 ^ ((u : ℤ) - 1074) :=
      sizeValue_grid (by norm_num) (.inr le_rfl)
    have below : sizeValue t < sizeValue (u * 2 ^ 52 + 2 ^ 52) := sizeValue_strictMono (by omega)
    have inside : sizeValue (u * 2 ^ 52 + 2 ^ 52) ≤ value := by
      rw [base, Nat.cast_pow, Nat.cast_ofNat]
      exact large.resolve_left (by omega)
    have near : |sizeValue (u * 2 ^ 52 + r) - value| ≤
        |sizeValue (u * 2 ^ 52 + 2 ^ 52) - value| := by
      by_cases same : 2 ^ 52 = r
      · rw [same]
      · rw [here, base]
        exact (best (2 ^ 52) same).le
    exact .inl (near.trans_lt (distance_lt_of_le below inside))
  · have multiple : sizeValue t = ((k * 2 ^ (v - u) : ℕ) : ℚ) * 2 ^ ((u : ℤ) - 1074) := by
      have unit : (v : ℤ) - 1074 = ((v - u : ℕ) : ℤ) + ((u : ℤ) - 1074) := by omega
      rw [there, unit, zpow_add₀ two_ne_zero, zpow_natCast]
      push_cast
      ring
    have different : k * 2 ^ (v - u) ≠ r := by
      intro same
      rw [same, ← here] at multiple
      exact other (sizeValue_strictMono.injective multiple)
    have parity : Even (u * 2 ^ 52 + r) ↔ Even r := by
      rw [Nat.even_iff, Nat.even_iff]
      omega
    rw [parity, here, multiple]
    exact best _ different

/-- The size made from a quotient is that of the nearest double. -/
theorem isNearest_nearestSize (num : ℕ) (den_pos : 0 < den) :
    IsNearest (num / den) (nearestSize num den) := by
  unfold nearestSize
  split
  case isTrue zero =>
    rw [zero, Nat.cast_zero, zero_div]
    refine isNearest_zero le_rfl ?_
    rw [mul_zero, ← sizeValue_zero]
    exact sizeValue_strictMono one_pos
  case isFalse nonzero =>
    obtain ⟨least, beyond, full⟩ := unitOf_bounds (Nat.pos_of_ne_zero nonzero) den_pos
    dsimp only
    generalize unitOf num den = unit at *
    obtain ⟨u, rfl⟩ : ∃ u : ℕ, unit = (u : ℤ) - 1074 := ⟨(unit + 1074).toNat, by omega⟩
    have field : ((u : ℤ) - 1074 + 1074).toNat = u := by omega
    have first : u = 0 ∨ (2 : ℚ) ^ ((u : ℤ) - 1074 + 52) ≤ num / den :=
      full.imp_left fun same => by omega
    have positive := inUnits_pos num den_pos ((u : ℤ) - 1074)
    rw [field]
    refine isNearest_min fun t other => preferred_of_grid ?_ ?_ ?_ ?_ other
    · have quotient := mt (le_div_inUnits_iff num den_pos _ 53).mp (not_le.mpr beyond)
      exact roundDiv_le positive ((Nat.div_lt_iff_lt_mul positive).mp (Nat.not_le.mp quotient))
    · refine first.imp_right fun digits => ?_
      have quotient := (le_div_inUnits_iff num den_pos _ 52).mpr digits
      exact le_roundDiv positive ((Nat.le_div_iff_mul_le positive).mp quotient)
    · refine first.imp_right fun digits => ?_
      rwa [zpow_add₀ two_ne_zero, mul_comm] at digits
    · exact fun k different => roundDiv_preferred num den_pos _ rfl different

end Rounding

section Decimals

/-- The double that a value is rounded to, with the sign put on. -/
def IsNearestDouble (negative : Bool) (value : ℚ) (x : Float) : Prop :=
  ∃ s, IsNearest value s ∧ x = Float.ofBits (wordOf negative s)

/-- An integer becomes the nearest double. -/
theorem isNearestDouble_ofInt (n : ℤ) : IsNearestDouble (n < 0) |n| (ofInt n) := by
  have nearest := isNearest_nearestSize n.natAbs one_pos
  rw [Nat.cast_one, div_one, Nat.cast_natAbs, Int.cast_abs] at nearest
  exact ⟨_, nearest, rfl⟩

variable {significand : ℕ} {exponent : ℤ}

end Decimals

end Provision.Binary64
