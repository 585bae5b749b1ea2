import Provision.Proofs.Binary64.Bits
import Provision.Proofs.Integer
import Provision.Value.Operation

/-!
Arithmetic on values. Two integers give the exact integer result or none at all, and why there is
none depends on the operands alone. With a double among the operands nothing overflows: a division
by zero and a shift are refused, and everything else gives a double.
-/

namespace Provision

namespace Arithmetic

def Divides (op : Arithmetic) : Prop := op = .divide ∨ op = .modulo

def Shifts (op : Arithmetic) : Prop := op = .leftShift ∨ op = .rightShift

/-- The exact result of an operator on integers of any size. Quotients are rounded down. There is
none for a division by zero and for a shift by fewer than 0 or more than 63 bits. -/
inductive Exact : Arithmetic → Int → Int → Int → Prop where
  | plus {x y : Int} : Exact .plus x y (x + y)
  | minus {x y : Int} : Exact .minus x y (x - y)
  | times {x y : Int} : Exact .times x y (x * y)
  | divide {x y : Int} (nonzero : y ≠ 0) : Exact .divide x y (x.fdiv y)
  | modulo {x y : Int} (nonzero : y ≠ 0) : Exact .modulo x y (x - y * x.fdiv y)
  | leftShift {x : Int} {s : Nat} (small : s ≤ 63) : Exact .leftShift x s (x * 2 ^ s)
  | rightShift {x : Int} {s : Nat} (small : s ≤ 63) : Exact .rightShift x s (x.fdiv (2 ^ s))

def Fits (z : Int) : Prop := -2 ^ 63 ≤ z ∧ z < 2 ^ 63

/-- The shift amount is out of range, or the exact result is. -/
def OutOfRange (op : Arithmetic) (x y : Int) : Prop :=
  (op.Shifts ∧ ¬(0 ≤ y ∧ y ≤ 63)) ∨ ∃ z, Exact op x y z ∧ ¬Fits z

theorem Divides.not_shifts {op : Arithmetic} (divides : op.Divides) : ¬op.Shifts := by
  rcases divides with rfl | rfl <;> rintro (same | same) <;> cases same

section Exact

variable {op : Arithmetic} {x y z w : Int}

theorem Exact.unique (left : Exact op x y z) (right : Exact op x y w) : z = w := by
  cases left <;> cases right <;> rfl

theorem Exact.not_byZero (exact : Exact op x y z) : ¬(op.Divides ∧ y = 0) := by
  rintro ⟨divides, zero⟩
  cases exact with
  | divide nonzero => exact nonzero zero
  | modulo nonzero => exact nonzero zero
  | _ => rcases divides with same | same <;> cases same

theorem Exact.amount (exact : Exact op x y z) (shifts : op.Shifts) : 0 ≤ y ∧ y ≤ 63 := by
  cases exact with
  | leftShift small => omega
  | rightShift small => omega
  | _ => rcases shifts with same | same <;> cases same

theorem Exact.outOfRange_iff (exact : Exact op x y z) : op.OutOfRange x y ↔ ¬Fits z := by
  constructor
  · rintro (⟨shifts, outside⟩ | ⟨w, exact', large⟩)
    · exact absurd (exact.amount shifts) outside
    · exact exact.unique exact' ▸ large
  · intro large
    exact .inr ⟨z, exact, large⟩

theorem not_outOfRange_of_byZero (divides : op.Divides) : ¬op.OutOfRange x 0 := by
  rintro (⟨shifts, -⟩ | ⟨z, exact, -⟩)
  · exact divides.not_shifts shifts
  · exact exact.not_byZero ⟨divides, rfl⟩

end Exact

/-- The one quotient of 64-bit integers that does not fit is 2⁶³. -/
theorem outOfRange_divide_iff {x y : Int64} :
    OutOfRange .divide x.toInt y.toInt ↔ x = Int64.minValue ∧ y = -1 := by
  rw [← Int64.toInt_inj, ← Int64.toInt_inj]
  show _ ↔ x.toInt = -9223372036854775808 ∧ y.toInt = -1
  constructor
  · rintro (⟨same | same, -⟩ | ⟨_, ⟨nonzero⟩, large⟩)
    · cases same
    · cases same
    have least := x.le_toInt
    have greatest := x.toInt_lt
    have size := Int.natAbs_fdiv_le_natAbs x.toInt y.toInt
    have quotient : x.toInt.fdiv y.toInt = 9223372036854775808 := by
      unfold Fits at large
      omega
    have division := Int.mul_fdiv_add_fmod x.toInt y.toInt
    have remainder := Integer.fmod_bounds x.toInt y.toInt
    rw [quotient] at division size
    omega
  · rintro ⟨least, minusOne⟩
    rw [least, minusOne]
    exact .inr ⟨9223372036854775808, .divide (by decide), fun fits => absurd fits.2 (by decide)⟩

theorem fits_toInt (n : Int64) : Fits n.toInt := ⟨n.le_toInt, n.toInt_lt⟩

theorem Fits.exists_toInt {z : Int} (fits : Fits z) : ∃ n : Int64, n.toInt = z :=
  ⟨Int64.ofInt z, Int64.toInt_ofInt_of_le fits.1 fits.2⟩

end Arithmetic

namespace Value

open Arithmetic

section Integers

/-- How an operator on two integers ends. -/
inductive Ending (op : Arithmetic) (x y : Int64) : Except Refusal Number → Prop where
  | byZero (divides : op.Divides) (zero : y = 0) : Ending op x y (.error .byZero)
  | tooLarge (outside : op.OutOfRange x.toInt y.toInt) : Ending op x y (.error .tooLarge)
  | exact {n : Int64} (result : Exact op x.toInt y.toInt n.toInt) :
      Ending op x y (.ok (.integer n))

variable {op : Arithmetic} {x y : Int64}

theorem ending_fitting {r : Option Int64} {z : Int} (exact : Exact op x.toInt y.toInt z)
    (found : ∀ n, r = some n ↔ n.toInt = z) : Ending op x y (fitting r) := by
  cases r with
  | some n => exact .exact ((found n).mp rfl ▸ exact)
  | none =>
    refine .tooLarge (exact.outOfRange_iff.mpr fun fits => ?_)
    obtain ⟨n, same⟩ := fits.exists_toInt
    cases (found n).mpr same

theorem shiftAmount?_cases (y : Int64) :
    (Integer.shiftAmount? y = none ∧ ¬(0 ≤ y.toInt ∧ y.toInt ≤ 63)) ∨
      ∃ s : Nat, Integer.shiftAmount? y = some s ∧ y.toInt = s ∧ s ≤ 63 := by
  cases amount : Integer.shiftAmount? y with
  | none =>
    refine .inl ⟨rfl, fun inside => ?_⟩
    have found : Integer.shiftAmount? y = some y.toInt.toNat :=
      Integer.shiftAmount?_eq_some_iff.mpr (by omega)
    cases amount.symm.trans found
  | some s =>
    obtain ⟨same, small⟩ := Integer.shiftAmount?_eq_some_iff.mp amount
    exact .inr ⟨s, rfl, same, by omega⟩

theorem ending_integerResult (op : Arithmetic) (x y : Int64) :
    Ending op x y (integerResult op x y) := by
  cases op with
  | plus => exact ending_fitting .plus fun _ => Number.int64?_eq_some_iff
  | minus => exact ending_fitting .minus fun _ => Number.int64?_eq_some_iff
  | times => exact ending_fitting .times fun _ => Number.int64?_eq_some_iff
  | divide =>
    rw [integerResult]
    split
    case isTrue zero => exact .byZero (.inl rfl) zero
    case isFalse nonzero =>
      exact ending_fitting (.divide (mt Integer.toInt_eq_zero_iff.mp nonzero)) fun _ =>
        Integer.floorDiv?_eq_some_iff nonzero
  | modulo =>
    rw [integerResult]
    split
    case isTrue zero => exact .byZero (.inr rfl) zero
    case isFalse nonzero =>
      refine ending_fitting (.modulo (mt Integer.toInt_eq_zero_iff.mp nonzero)) fun n => ?_
      rw [← Int.fmod_def]
      exact Integer.floorMod?_eq_some_iff nonzero
  | leftShift =>
    rw [integerResult]
    rcases shiftAmount?_cases y with ⟨missing, outside⟩ | ⟨s, found, same, small⟩
    · rw [missing]
      exact .tooLarge (.inl ⟨.inl rfl, outside⟩)
    · rw [found, Option.bind_some]
      exact ending_fitting (same ▸ .leftShift small) fun n =>
        Integer.shiftLeft?_eq_some_iff (by omega)
  | rightShift =>
    rw [integerResult]
    rcases shiftAmount?_cases y with ⟨missing, outside⟩ | ⟨s, found, same, small⟩
    · rw [missing]
      exact .tooLarge (.inl ⟨.inr rfl, outside⟩)
    · rw [found, Option.map_some]
      have exact : Exact .rightShift x.toInt y.toInt (x.toInt.fdiv (2 ^ s)) :=
        same ▸ .rightShift small
      refine ending_fitting exact fun n => ?_
      rw [Option.some.injEq, ← Int64.toInt_inj, Integer.toInt_shiftRight, eq_comm]
      rfl

end Integers

section Floats

/-- How an operator ends as soon as one of two numbers is a double. -/
inductive FloatEnding (op : Arithmetic) (divisor : Number) : Except Refusal Number → Prop where
  | byZero (divides : op.Divides) (zero : divisor.IsZero) :
      FloatEnding op divisor (.error .byZero)
  | unsuited (shifts : op.Shifts) : FloatEnding op divisor (.error .unsuited)
  | float {z : Float} (nonzero : ¬(op.Divides ∧ divisor.IsZero)) (suited : ¬op.Shifts) :
      FloatEnding op divisor (.ok (.float z))

theorem ending_numberResult {m n : Number} (op : Arithmetic)
    (mixed : m.isFloat = true ∨ n.isFloat = true) : FloatEnding op n (numberResult op m n) := by
  have doubles : numberResult op m n = floatResult op m.toFloat n.toFloat := by
    cases m with
    | float x => rfl
    | integer x =>
      cases n with
      | float y => rfl
      | integer y => rcases mixed with first | last <;> contradiction
  rw [doubles]
  cases op with
  | plus => exact .float (by simp [Divides]) (by simp [Shifts])
  | minus => exact .float (by simp [Divides]) (by simp [Shifts])
  | times => exact .float (by simp [Divides]) (by simp [Shifts])
  | divide =>
    rw [floatResult]
    split
    case isTrue zero => exact .byZero (.inl rfl) (n.isZero_toFloat_iff.mp zero)
    case isFalse nonzero =>
      exact .float (fun zero => nonzero (n.isZero_toFloat_iff.mpr zero.2)) (by simp [Shifts])
  | modulo =>
    rw [floatResult]
    split
    case isTrue zero => exact .byZero (.inr rfl) (n.isZero_toFloat_iff.mp zero)
    case isFalse nonzero =>
      exact .float (fun zero => nonzero (n.isZero_toFloat_iff.mpr zero.2)) (by simp [Shifts])
  | leftShift => exact .unsuited (.inl rfl)
  | rightShift => exact .unsuited (.inr rfl)

end Floats

section Operators

variable {op : Arithmetic} {a b : Value} {m n : Number}

/-- The error that a refusal becomes; it names the operands as they were before coercion. -/
def Refusal.error (op : Arithmetic) (a b : Value) : Refusal → EvalError
  | .byZero => .divisionByZero op a b
  | .tooLarge => .overflow op a b
  | .unsuited => .typeMismatch (.arithmetic op) a.kind b.kind

theorem applyBinary_of_left (left : a.number? = none) :
    applyBinary (.arithmetic op) a b = .error (.notANumber (.arithmetic op) a) := by
  rw [applyBinary, arithmetic, left]

theorem applyBinary_of_right (left : a.number? ≠ none) (right : b.number? = none) :
    applyBinary (.arithmetic op) a b = .error (.notANumber (.arithmetic op) b) := by
  obtain ⟨m, coerced⟩ := Option.ne_none_iff_exists'.mp left
  rw [applyBinary, arithmetic, coerced, right]

theorem applyBinary_of_ok {r : Number} (left : a.number? = some m) (right : b.number? = some n)
    (result : numberResult op m n = .ok r) :
    applyBinary (.arithmetic op) a b = .ok (ofNumber r) := by
  rw [applyBinary, arithmetic, left, right]
  simp only [result]

theorem applyBinary_of_refusal {r : Refusal} (left : a.number? = some m)
    (right : b.number? = some n) (result : numberResult op m n = .error r) :
    applyBinary (.arithmetic op) a b = .error (r.error op a b) := by
  rw [applyBinary, arithmetic, left, right]
  cases r <;> simp only [result, Refusal.error]

end Operators

section Outcomes

variable {a b : Value} {x y : Int64}

/-- How an operator ends on operands that are integers. -/
structure IntegersEnd (op : Arithmetic) (a b : Value) (x y : Int64) : Prop where
  byZero : applyBinary (.arithmetic op) a b = .error (.divisionByZero op a b) ↔
    op.Divides ∧ y = 0
  overflow : applyBinary (.arithmetic op) a b = .error (.overflow op a b) ↔
    op.OutOfRange x.toInt y.toInt
  integer : ∀ v, applyBinary (.arithmetic op) a b = .ok v ↔
    ∃ n : Int64, v = .integer n ∧ Exact op x.toInt y.toInt n.toInt
  otherwise : ¬(op.Divides ∧ y = 0) → ¬op.OutOfRange x.toInt y.toInt →
    ∃ n : Int64, applyBinary (.arithmetic op) a b = .ok (.integer n)

theorem integersEnd (left : a.number? = some (.integer x)) (right : b.number? = some (.integer y))
    (op : Arithmetic) : IntegersEnd op a b x y := by
  have ending := ending_integerResult op x y
  generalize result : integerResult op x y = r at ending
  cases ending with
  | byZero divides zero =>
    have outcome := applyBinary_of_refusal left right result
    have inside : ¬op.OutOfRange x.toInt y.toInt := zero ▸ not_outOfRange_of_byZero divides
    constructor
    · exact iff_of_true outcome ⟨divides, zero⟩
    · exact iff_of_false (outcome.trans_ne nofun) inside
    · intro v
      refine iff_of_false (outcome.trans_ne nofun) ?_
      rintro ⟨n, -, exact⟩
      exact exact.not_byZero ⟨divides, Integer.toInt_eq_zero_iff.mpr zero⟩
    · exact fun nonzero => absurd ⟨divides, zero⟩ nonzero
  | tooLarge outside =>
    have outcome := applyBinary_of_refusal left right result
    constructor
    · refine iff_of_false (outcome.trans_ne nofun) ?_
      rintro ⟨divides, rfl⟩
      exact not_outOfRange_of_byZero divides outside
    · exact iff_of_true outcome outside
    · intro v
      refine iff_of_false (outcome.trans_ne nofun) ?_
      rintro ⟨n, -, exact⟩
      exact exact.outOfRange_iff.mp outside (fits_toInt n)
    · exact fun _ inside => absurd outside inside
  | @exact n exact =>
    have outcome := applyBinary_of_ok left right result
    constructor
    · refine iff_of_false (outcome.trans_ne nofun) ?_
      rintro ⟨divides, zero⟩
      exact exact.not_byZero ⟨divides, Integer.toInt_eq_zero_iff.mpr zero⟩
    · refine iff_of_false (outcome.trans_ne nofun) fun outside => ?_
      exact exact.outOfRange_iff.mp outside (fits_toInt n)
    · intro v
      rw [outcome, Except.ok.injEq]
      constructor
      · rintro rfl
        exact ⟨n, rfl, exact⟩
      · rintro ⟨k, rfl, exact'⟩
        rw [Int64.toInt_inj.mp (exact.unique exact')]
        rfl
    · exact fun _ _ => ⟨n, outcome⟩

/-- How an operator ends on operands of which at least one is a double. -/
structure FloatsEnd (op : Arithmetic) (a b : Value) (divisor : Number) : Prop where
  byZero : applyBinary (.arithmetic op) a b = .error (.divisionByZero op a b) ↔
    op.Divides ∧ divisor.IsZero
  unsuited : applyBinary (.arithmetic op) a b =
    .error (.typeMismatch (.arithmetic op) a.kind b.kind) ↔ op.Shifts
  float : (∃ z, applyBinary (.arithmetic op) a b = .ok (.float z)) ↔
    ¬(op.Divides ∧ divisor.IsZero) ∧ ¬op.Shifts
  neverOverflows : ∀ p l r, applyBinary (.arithmetic op) a b ≠ .error (.overflow p l r)

theorem floatsEnd {m n : Number} (left : a.number? = some m) (right : b.number? = some n)
    (mixed : m.isFloat = true ∨ n.isFloat = true) (op : Arithmetic) : FloatsEnd op a b n := by
  have ending := ending_numberResult op mixed
  generalize result : numberResult op m n = r at ending
  cases ending with
  | byZero divides zero =>
    have outcome := applyBinary_of_refusal left right result
    constructor
    · exact iff_of_true outcome ⟨divides, zero⟩
    · exact iff_of_false (outcome.trans_ne nofun) divides.not_shifts
    · exact iff_of_false (by rw [outcome]; nofun) fun clear => clear.1 ⟨divides, zero⟩
    · exact fun p l r => outcome.trans_ne nofun
  | unsuited shifts =>
    have outcome := applyBinary_of_refusal left right result
    constructor
    · exact iff_of_false (outcome.trans_ne nofun) fun zero => zero.1.not_shifts shifts
    · exact iff_of_true outcome shifts
    · exact iff_of_false (by rw [outcome]; nofun) fun clear => clear.2 shifts
    · exact fun p l r => outcome.trans_ne nofun
  | @float z nonzero suited =>
    have outcome := applyBinary_of_ok left right result
    constructor
    · exact iff_of_false (outcome.trans_ne nofun) nonzero
    · exact iff_of_false (outcome.trans_ne nofun) suited
    · exact iff_of_true ⟨z, outcome⟩ ⟨nonzero, suited⟩
    · exact fun p l r => outcome.trans_ne nofun

/-- Operators on operands that are integers, be it as numerals in strings: the result is the exact
one, and it is given just when there is one and it fits. A quotient does not fit in one case only; a
remainder always fits, and has the sign of the divisor. -/
theorem arithmetic_of_integers (left : a.number? = some (.integer x))
    (right : b.number? = some (.integer y)) :
    (∀ op, IntegersEnd op a b x y) ∧
      (applyBinary (.arithmetic .divide) a b = .error (.overflow .divide a b) ↔
        x = Int64.minValue ∧ y = -1) ∧
      (y ≠ 0 → ∃ r : Int64, applyBinary (.arithmetic .modulo) a b = .ok (.integer r) ∧
        (0 < y.toInt → 0 ≤ r.toInt ∧ r.toInt < y.toInt) ∧
        (y.toInt < 0 → y.toInt < r.toInt ∧ r.toInt ≤ 0)) := by
  have ends := integersEnd left right
  refine ⟨ends, (ends .divide).overflow.trans outOfRange_divide_iff, fun nonzero => ?_⟩
  have exact : Exact .modulo x.toInt y.toInt (x.toInt.fmod y.toInt) := by
    rw [Int.fmod_def]
    exact .modulo (mt Integer.toInt_eq_zero_iff.mp nonzero)
  have bounds := Integer.fmod_bounds x.toInt y.toInt
  have fits : Fits (x.toInt.fmod y.toInt) := by
    have divisor : y.toInt ≠ 0 := mt Integer.toInt_eq_zero_iff.mp nonzero
    have least := y.le_toInt
    have greatest := y.toInt_lt
    unfold Fits
    omega
  obtain ⟨r, same⟩ := fits.exists_toInt
  rw [← same] at exact bounds
  exact ⟨r, ((ends .modulo).integer (.integer r)).mpr ⟨r, rfl, exact⟩, bounds⟩

/-- The least integer, written in a string, over -1 and its remainder by -1. -/
theorem arithmetic_of_integers_least :
    let a : Value := .string "-9223372036854775808"
    let b : Value := .integer (-1)
    a.number? = some (.integer Int64.minValue) ∧ b.number? = some (.integer (-1)) ∧
      applyBinary (.arithmetic .divide) a b = .error (.overflow .divide a b) ∧
      applyBinary (.arithmetic .modulo) a b = .ok (.integer 0) := by
  intro a b
  have left : a.number? = some (.integer Int64.minValue) := by rfl
  have right : b.number? = some (.integer (-1)) := rfl
  obtain ⟨ends, overflows, -⟩ := arithmetic_of_integers left right
  refine ⟨left, right, overflows.mpr ⟨rfl, rfl⟩, ((ends .modulo).integer _).mpr ⟨0, rfl, ?_⟩⟩
  exact .modulo (x := Int64.minValue.toInt) (by decide)

/-- What decides how an arithmetic operator ends, in this order: whether the left operand is a
number, whether the right one is, and, of two integers or with a double among the two, the operator
and the numbers. -/
theorem arithmetic_decided (op : Arithmetic) (a b : Value) :
    (a.number? = none →
      applyBinary (.arithmetic op) a b = .error (.notANumber (.arithmetic op) a)) ∧
    (a.number? ≠ none → b.number? = none →
      applyBinary (.arithmetic op) a b = .error (.notANumber (.arithmetic op) b)) ∧
    (∀ x y, a.number? = some (.integer x) → b.number? = some (.integer y) →
      IntegersEnd op a b x y) ∧
    ∀ m n, a.number? = some m → b.number? = some n → m.isFloat = true ∨ n.isFloat = true →
      FloatsEnd op a b n := by
  refine ⟨applyBinary_of_left, applyBinary_of_right, ?_, ?_⟩
  · intro x y left right
    exact integersEnd left right op
  · intro m n left right mixed
    exact floatsEnd left right mixed op

/-- A numeral with a power of ten is a double, which is not shifted; and nothing is divided by the
double that is zero with a minus sign. -/
theorem arithmetic_decided_doubles :
    let thousand : Value := .string "1e3"
    let zero : Value := .float (Float.ofBits 0x8000000000000000)
    applyBinary (.arithmetic .leftShift) thousand (.integer 2) =
        .error (.typeMismatch (.arithmetic .leftShift) .string .integer) ∧
      applyBinary (.arithmetic .divide) thousand zero =
        .error (.divisionByZero .divide thousand zero) := by
  intro thousand zero
  obtain ⟨x, double⟩ : ∃ x, thousand.number? = some (.float x) := ⟨_, rfl⟩
  obtain ⟨-, -, -, shifted⟩ := arithmetic_decided .leftShift thousand (.integer 2)
  obtain ⟨-, -, -, divided⟩ := arithmetic_decided .divide thousand zero
  have negative : (Float.ofBits 0x8000000000000000).toBits = 0x8000000000000000 :=
    Binary64.toBits_ofBits (by decide)
  exact ⟨(shifted _ _ double rfl (.inl rfl)).unsuited.mpr (.inl rfl),
    (divided _ _ double rfl (.inl rfl)).byZero.mpr ⟨.inl rfl, .inr negative⟩⟩

end Outcomes

end Value

end Provision
