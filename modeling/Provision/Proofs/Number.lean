import Provision.Number
import Provision.Proofs.Binary64.Nearest

/-!
The order of numbers. Two integers are compared exactly, any other two by the places of their
doubles. Places never contradict the exact order, so there is one strict order of all numbers; but
an integer may share its place with others, and a double at that place equals each of them.
-/

namespace Provision

namespace Binary64

theorem compare?_eq_some_iff {x y : UInt64} {o : Ordering} :
    compare? x y = some o ↔
      ∃ p q, place? x = some p ∧ place? y = some q ∧ compare p q = o := by
  simp only [compare?, bind, Option.bind_eq_some_iff, pure, Option.some.injEq, exists_and_left]

theorem compare?_swap (x y : UInt64) : compare? y x = (compare? x y).map Ordering.swap := by
  unfold compare?
  cases place? x with
  | none => cases place? y <;> rfl
  | some p =>
    cases place? y with
    | none => rfl
    | some q => exact congrArg some (Int.compare_swap p q).symm

theorem place?_eq_none_iff {x : UInt64} : place? x = none ↔ infinitySize < size x := by
  unfold place?
  split
  case isTrue beyond => exact iff_of_true rfl beyond
  case isFalse real =>
    refine iff_of_false ?_ real
    split <;> exact Option.some_ne_none _

/-- Words at one place differ in the sign of a zero at most. -/
theorem place?_eq_iff {x y : UInt64} (real : ¬ infinitySize < size x)
    (real' : ¬ infinitySize < size y) :
    place? x = place? y ↔ x = y ∨ size x = 0 ∧ size y = 0 := by
  have half : Nat.pow 2 63 = 9223372036854775808 := rfl
  have width := x.toNat_lt
  have width' := y.toNat_lt
  rw [place?, place?, if_neg real, if_neg real', ← UInt64.toNat_inj]
  simp only [size, isNegative, decide_eq_true_eq, half]
  split <;> split <;> simp only [Option.some_inj] <;> omega

/-- Equality and order agree, though the one goes by words and the other by places. -/
theorem equal_iff {x y : UInt64} : equal x y = true ↔ compare? x y = some .eq := by
  have placed : compare? x y = some .eq ↔ place? x = place? y ∧ place? x ≠ none := by
    rw [compare?_eq_some_iff]
    simp only [Int.compare_eq_eq]
    constructor
    · rintro ⟨p, _, left, right, rfl⟩
      exact ⟨left.trans right.symm, left ▸ Option.some_ne_none p⟩
    · rintro ⟨same, somewhere⟩
      obtain ⟨p, left⟩ := Option.ne_none_iff_exists'.mp somewhere
      exact ⟨p, p, left, same ▸ left, rfl⟩
  rw [placed, equal]
  split
  case isTrue unreal =>
    refine iff_of_false Bool.false_ne_true ?_
    rintro ⟨same, somewhere⟩
    rcases unreal with left | right
    · exact somewhere (place?_eq_none_iff.mpr left)
    · exact somewhere (same.trans (place?_eq_none_iff.mpr right))
  case isFalse real =>
    obtain ⟨left, right⟩ := not_or.mp real
    have somewhere : place? x ≠ none := mt place?_eq_none_iff.mp left
    simp only [place?_eq_iff left right, somewhere, ne_eq, not_false_eq_true, and_true,
      Bool.or_eq_true, Bool.and_eq_true, beq_iff_eq]

end Binary64

namespace Number

def isFloat : Number → Bool
  | .integer _ => false
  | .float _ => true

theorem exists_integers {a b : Number} (exact : ¬(a.isFloat = true ∨ b.isFloat = true)) :
    ∃ m n, a = .integer m ∧ b = .integer n := by
  cases a with
  | float x => exact absurd (.inl rfl) exact
  | integer m =>
    cases b with
    | float y => exact absurd (.inr rfl) exact
    | integer n => exact ⟨m, n, rfl, rfl⟩

/-- The place of the nearest double; a NaN has none. -/
def place? (a : Number) : Option Int := Binary64.place? a.word

theorem place?_integer (n : Int64) : (integer n).place? = some (Binary64.placeOfInt n.toInt) :=
  Binary64.place?_wordOfInt n.toInt

theorem compare?_integers (m n : Int64) :
    compare? (.integer m) (.integer n) = some (compare m.toInt n.toInt) := rfl

theorem compare?_swap (a b : Number) : b.compare? a = (a.compare? b).map Ordering.swap := by
  cases a with
  | float x => cases b <;> exact Binary64.compare?_swap ..
  | integer m =>
    cases b with
    | float y => exact Binary64.compare?_swap ..
    | integer n =>
      rw [compare?_integers, compare?_integers, Option.map_some, Int.compare_swap]

theorem compare?_of_isFloat {a b : Number} (mixed : a.isFloat = true ∨ b.isFloat = true) :
    a.compare? b = Binary64.compare? a.word b.word := by
  cases a with
  | float x => cases b <;> rfl
  | integer m =>
    cases b with
    | float y => rfl
    | integer n =>
      rcases mixed with first | last
      · cases first
      · cases last

/-- Where the places of two numbers differ they decide, and with a double among the two they decide
always. -/
theorem places_of_compare? {a b : Number} {o : Ordering} (compared : a.compare? b = some o) :
    ∃ p q, a.place? = some p ∧ b.place? = some q ∧ (p < q → o = .lt) ∧ (q < p → o = .gt) ∧
      (a.isFloat = true ∨ b.isFloat = true → compare p q = o) := by
  by_cases mixed : a.isFloat = true ∨ b.isFloat = true
  · rw [compare?_of_isFloat mixed] at compared
    obtain ⟨p, q, left, right, rfl⟩ := Binary64.compare?_eq_some_iff.mp compared
    exact ⟨p, q, left, right, Int.compare_eq_lt.mpr, Int.compare_eq_gt.mpr, fun _ => rfl⟩
  · obtain ⟨m, n, rfl, rfl⟩ := exists_integers mixed
    cases Option.some.inj compared
    refine ⟨_, _, place?_integer m, place?_integer n, ?_, ?_, fun float => absurd float mixed⟩
    · intro before
      refine Int.compare_eq_lt.mpr (Int.not_le.mp fun le => ?_)
      exact absurd (Binary64.placeOfInt_mono le) (Int.not_le.mpr before)
    · intro after
      refine Int.compare_eq_gt.mpr (Int.not_le.mp fun le => ?_)
      exact absurd (Binary64.placeOfInt_mono le) (Int.not_le.mpr after)

section Chains

variable {a b c : Number}

theorem compare?_lt_trans (ab : a.compare? b = some .lt) (bc : b.compare? c = some .lt) :
    a.compare? c = some .lt := by
  obtain ⟨p, q, ofA, ofB, -, notAfter, strict⟩ := places_of_compare? ab
  obtain ⟨q', r, ofB', ofC, -, notAfter', strict'⟩ := places_of_compare? bc
  cases ofB.symm.trans ofB'
  have le : p ≤ q := Int.not_lt.mp fun after => nomatch notAfter after
  have le' : q ≤ r := Int.not_lt.mp fun after => nomatch notAfter' after
  by_cases ends : a.isFloat = true ∨ c.isFloat = true
  · have before : p < r := by
      rcases ends with first | last
      · exact Int.lt_of_lt_of_le (Int.compare_eq_lt.mp (strict (.inl first))) le'
      · exact Int.lt_of_le_of_lt le (Int.compare_eq_lt.mp (strict' (.inr last)))
    rw [compare?_of_isFloat ends]
    exact Binary64.compare?_eq_some_iff.mpr ⟨p, r, ofA, ofC, Int.compare_eq_lt.mpr before⟩
  · obtain ⟨m, k, rfl, rfl⟩ := exists_integers ends
    refine congrArg some (Int.compare_eq_lt.mpr ?_)
    cases b with
    | integer n =>
      exact Int.lt_trans (Int.compare_eq_lt.mp (Option.some.inj ab))
        (Int.compare_eq_lt.mp (Option.some.inj bc))
    | float y =>
      -- the double lies strictly between the places of the two integers
      have before : p < q := Int.compare_eq_lt.mp (strict (.inr rfl))
      have before' : q < r := Int.compare_eq_lt.mp (strict' (.inl rfl))
      cases ofA.symm.trans (place?_integer m)
      cases ofC.symm.trans (place?_integer k)
      refine Int.not_le.mp fun le => ?_
      exact absurd (Binary64.placeOfInt_mono le) (Int.not_le.mpr (Int.lt_trans before before'))

/-- Equality and order agree, though each goes its own way. -/
theorem equal_iff : a.equal b = true ↔ a.compare? b = some .eq := by
  cases a with
  | float x => cases b <;> exact Binary64.equal_iff
  | integer m =>
    cases b with
    | float y => exact Binary64.equal_iff
    | integer n =>
      rw [compare?_integers, Option.some_inj, Int.compare_eq_eq, Int64.toInt_inj]
      exact beq_iff_eq

theorem equal_comm (a b : Number) : a.equal b = b.equal a := by
  rw [Bool.eq_iff_iff, equal_iff, equal_iff, compare?_swap a b]
  cases a.compare? b with
  | none => exact Iff.rfl
  | some o => cases o <;> simp

theorem equal_self_iff : a.equal a = true ↔ a.place? ≠ none := by
  cases a with
  | integer n =>
    refine iff_of_true (equal_iff.mpr (congrArg some (Int.compare_eq_eq.mpr rfl))) ?_
    rw [place?_integer]
    exact Option.some_ne_none _
  | float x =>
    rw [equal_iff, compare?_of_isFloat (.inl rfl), Binary64.compare?_eq_some_iff]
    constructor
    · rintro ⟨p, q, here, -⟩ nowhere
      exact Option.some_ne_none p (here.symm.trans nowhere)
    · intro somewhere
      obtain ⟨p, here⟩ := Option.ne_none_iff_exists'.mp somewhere
      exact ⟨p, p, here, here, Int.compare_eq_eq.mpr rfl⟩

theorem place?_eq_of_equal (ab : a.equal b = true) :
    ∃ p, a.place? = some p ∧ b.place? = some p := by
  obtain ⟨p, q, ofA, ofB, notBefore, notAfter, -⟩ := places_of_compare? (equal_iff.mp ab)
  have same : p = q :=
    Int.le_antisymm (Int.not_lt.mp fun after => nomatch notAfter after)
      (Int.not_lt.mp fun before => nomatch notBefore before)
  exact ⟨p, ofA, same ▸ ofB⟩

/-- Numbers that equal the same number are equal, unless they are different integers. -/
theorem equal_trans_iff (ab : a.equal b = true) (bc : b.equal c = true) :
    a.equal c = true ↔ ∀ m n, a = .integer m → c = .integer n → m = n := by
  obtain ⟨p, ofA, ofB⟩ := place?_eq_of_equal ab
  obtain ⟨q, ofB', ofC⟩ := place?_eq_of_equal bc
  cases ofB.symm.trans ofB'
  by_cases ends : a.isFloat = true ∨ c.isFloat = true
  · refine iff_of_true (equal_iff.mpr ?_) ?_
    · rw [compare?_of_isFloat ends]
      exact Binary64.compare?_eq_some_iff.mpr ⟨p, p, ofA, ofC, Int.compare_eq_eq.mpr rfl⟩
    · rintro m n rfl rfl
      rcases ends with first | last
      · cases first
      · cases last
  · obtain ⟨m, n, rfl, rfl⟩ := exists_integers ends
    rw [equal_iff, compare?_integers, Option.some.injEq, Int.compare_eq_eq, Int64.toInt_inj]
    constructor
    · rintro rfl m' n' left right
      exact integer.inj (left.symm.trans right)
    · intro agree
      exact agree m n rfl rfl

end Chains

end Number

end Provision
