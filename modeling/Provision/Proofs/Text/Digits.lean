import Provision.Text.Digits

/-!
The digits of a number: decimal digits only, at least one, no zero in front of another, and reading
them gives the number back. Where a number is written in a fixed width, zeros in front change
nothing of this.
-/

namespace Provision.Text

theorem isDigit_of_mem_digits {n : Nat} {c : Char} (member : c ∈ digits n) : isDigit c = true :=
  Nat.isDigit_of_mem_toDigits (by decide) (by decide) member

theorem digits_ne_nil (n : Nat) : digits n ≠ [] := Nat.toDigits_ne_nil

theorem ofDigits_eq_ofDigitChars (cs : List Char) : ofDigits cs = Nat.ofDigitChars 10 cs 0 := by
  simp only [ofDigits, Nat.ofDigitChars, digitValue, Nat.mul_comm]

theorem ofDigits_digits (n : Nat) : ofDigits (digits n) = n := by
  rw [ofDigits_eq_ofDigitChars]
  exact Nat.ofDigitChars_ten_toDigits

theorem head?_digits_ne_zero {n : Nat} (positive : 0 < n) : (digits n).head? ≠ some '0' := by
  induction n using Nat.strongRecOn with
  | ind n ih =>
    by_cases small : n < 10
    · rw [digits, Nat.toDigits_of_lt_base small]
      simp only [List.head?_cons, ne_eq, Option.some.injEq, Nat.digitChar_eq_zero]
      omega
    · have shorter := ih (n / 10) (by omega) (by omega)
      rw [digits, Nat.toDigits_of_base_le (by decide) (by omega), List.head?_append]
      cases front : Nat.toDigits 10 (n / 10) with
      | nil => exact absurd front Nat.toDigits_ne_nil
      | cons c rest =>
        rw [digits, front] at shorter
        exact shorter

theorem takeDigits_append {cs : List Char} (rest : List Char) (h : ∀ c ∈ cs, isDigit c = true) :
    takeDigits (cs ++ rest) = (cs ++ (takeDigits rest).1, (takeDigits rest).2) := by
  simp only [takeDigits, List.takeWhile_append_of_pos h, List.dropWhile_append_of_pos h]

theorem isDigits_iff {cs : List Char} :
    isDigits cs = true ↔ cs ≠ [] ∧ ∀ c ∈ cs, isDigit c = true := by
  simp only [isDigits, Bool.and_eq_true, Bool.not_eq_true', List.isEmpty_eq_false_iff,
    List.all_eq_true, ne_eq]

theorem isDigit_iff_mem {c : Char} :
    isDigit c = true ↔ c ∈ ['0', '1', '2', '3', '4', '5', '6', '7', '8', '9'] := by
  constructor
  · intro digit
    have each : ∀ n, n < 10 →
        Char.ofNat (0x30 + n) ∈ ['0', '1', '2', '3', '4', '5', '6', '7', '8', '9'] := by decide
    simp only [isDigit, Bool.and_eq_true, decide_eq_true_eq, Char.le_def,
      UInt32.le_iff_toNat_le] at digit
    have code : 0x30 + (c.toNat - 0x30) = c.toNat := Nat.add_sub_cancel' digit.1
    have small : c.toNat - 0x30 < 10 := by
      have top : c.toNat ≤ 0x39 := digit.2
      omega
    have member := each _ small
    rwa [code, Char.ofNat_toNat] at member
  · intro member
    have each : ['0', '1', '2', '3', '4', '5', '6', '7', '8', '9'].all isDigit = true := by decide
    exact List.all_eq_true.mp each c member

/-- A run of digits is taken up to what follows it, which must not begin with another digit. -/
theorem takeDigits_run {ds rest : List Char} (digits : ∀ c ∈ ds, isDigit c = true)
    (stops : ∀ c ∈ rest.head?, isDigit c = false) : takeDigits (ds ++ rest) = (ds, rest) := by
  have none : takeDigits rest = ([], rest) := by
    cases rest with
    | nil => rfl
    | cons c cs =>
      have stop : ¬isDigit c = true := Bool.eq_false_iff.mp (stops c rfl)
      rw [takeDigits, List.takeWhile_cons_of_neg stop, List.dropWhile_cons_of_neg stop]
  rw [takeDigits_append rest digits, none, List.append_nil]

theorem eq_append_takeDigits (cs : List Char) :
    cs = (takeDigits cs).1 ++ (takeDigits cs).2 := List.takeWhile_append_dropWhile.symm

theorem isDigit_of_mem_takeDigits {cs : List Char} {c : Char} (member : c ∈ (takeDigits cs).1) :
    isDigit c = true :=
  List.all_eq_true.mp List.all_takeWhile c member

theorem digitValue_le {c : Char} (digit : isDigit c = true) : digitValue c ≤ 9 := by
  simp only [isDigit, Bool.and_eq_true, decide_eq_true_eq, Char.le_def,
    UInt32.le_iff_toNat_le] at digit
  exact Nat.sub_le_of_le_add digit.2

/-- So many digits write no number beyond the nines. -/
theorem ofDigits_lt {ds : List Char} (digits : ∀ c ∈ ds, isDigit c = true) :
    ofDigits ds < Nat.pow 10 ds.length := by
  -- The digits read so far count for more with each digit that follows.
  have step : ∀ start, ds.foldl (fun n c => n * 10 + digitValue c) start <
      (start + 1) * Nat.pow 10 ds.length := by
    induction ds with
    | nil =>
      intro start
      show start < (start + 1) * 1
      omega
    | cons c rest ih =>
      intro start
      have digit := digitValue_le (digits c List.mem_cons_self)
      have next := ih (fun d member => digits d (List.mem_cons_of_mem c member))
        (start * 10 + digitValue c)
      calc (c :: rest).foldl (fun n c => n * 10 + digitValue c) start
          < (start * 10 + digitValue c + 1) * Nat.pow 10 rest.length := next
        _ ≤ ((start + 1) * 10) * Nat.pow 10 rest.length := Nat.mul_le_mul_right _ (by omega)
        _ = (start + 1) * Nat.pow 10 (rest.length + 1) := by
          rw [Nat.mul_assoc, Nat.mul_comm 10]
          rfl
  have whole := step 0
  rwa [Nat.zero_add, Nat.one_mul] at whole

theorem ofDigits_pos {c : Char} (digit : isDigit c = true) (nonzero : c ≠ '0')
    (cs : List Char) : 0 < ofDigits (c :: cs) := by
  have value : 0 < c.toNat - '0'.toNat := by
    rw [Nat.sub_pos_iff_lt]
    refine Nat.lt_of_le_of_ne ?_ fun same => nonzero (Char.toNat_inj.mp same.symm)
    simp only [isDigit, Bool.and_eq_true, decide_eq_true_eq, Char.le_def,
      UInt32.le_iff_toNat_le] at digit
    exact digit.1
  rw [ofDigits_eq_ofDigitChars, Nat.ofDigitChars_cons, Nat.ofDigitChars_eq_ofDigitChars_zero,
    Nat.mul_zero, Nat.zero_add]
  exact Nat.add_pos_left (Nat.mul_pos (Nat.pow_pos (by decide)) value) _

/-- The number is written with exactly so many digits. -/
structure Written (width : Nat) (ds : List Char) (n : Nat) : Prop where
  length : ds.length = width
  digits : ∀ c ∈ ds, isDigit c = true
  value : ofDigits ds = n

theorem Written.eq_cons {width : Nat} {ds : List Char} {n : Nat} (written : Written width ds n)
    (positive : 0 < width) : ∃ c cs, ds = c :: cs ∧ isDigit c = true := by
  cases ds with
  | nil =>
    have := written.length
    simp only [List.length_nil] at this
    omega
  | cons c cs => exact ⟨c, cs, rfl, written.digits c List.mem_cons_self⟩

theorem Written.isDigits {width : Nat} {ds : List Char} {n : Nat} (written : Written width ds n)
    (positive : 0 < width) : isDigits ds = true := by
  obtain ⟨c, cs, rfl, -⟩ := written.eq_cons positive
  exact isDigits_iff.mpr ⟨List.cons_ne_nil c cs, written.digits⟩

theorem Written.lt {width : Nat} {ds : List Char} {n : Nat} (written : Written width ds n) :
    n < Nat.pow 10 width := by
  rw [← written.value, ← written.length]
  exact ofDigits_lt written.digits

theorem written_paddedDigits {width n : Nat} (fits : (digits n).length ≤ width) :
    Written width (paddedDigits width n) n := by
  constructor
  · rw [paddedDigits, List.length_append, List.length_replicate]
    omega
  · intro c member
    rcases List.mem_append.mp member with padding | digit
    · rw [List.eq_of_mem_replicate padding]
      rfl
    · exact isDigit_of_mem_digits digit
  · rw [ofDigits_eq_ofDigitChars, paddedDigits, Nat.ofDigitChars_append,
      Nat.ofDigitChars_replicate_zero, Nat.mul_zero, ← ofDigits_eq_ofDigitChars, ofDigits_digits]

theorem written_of_lt {width n : Nat} (positive : 0 < width) (small : n < Nat.pow 10 width) :
    Written width (paddedDigits width n) n :=
  written_paddedDigits ((Nat.length_toDigits_le_iff (by decide) positive).mpr small)

theorem decimal_eq (n : Int) :
    decimal n = if n < 0 then '-' :: digits n.natAbs else digits n.natAbs := by
  cases n with
  | ofNat n => rfl
  | negSucc n => rw [if_pos (Int.negSucc_lt_zero n)]; rfl

/-- The text of an integer begins with a minus sign or a digit and goes on with digits. -/
theorem decimal_eq_cons (n : Int) :
    ∃ c cs, decimal n = c :: cs ∧ (c = '-' ∨ isDigit c = true) ∧ ∀ d ∈ cs, isDigit d = true := by
  rw [decimal_eq]
  split
  · exact ⟨'-', _, rfl, .inl rfl, fun d member => isDigit_of_mem_digits member⟩
  · cases shape : digits n.natAbs with
    | nil => exact absurd shape (digits_ne_nil _)
    | cons c cs =>
      have digit : ∀ d ∈ c :: cs, isDigit d = true :=
        fun d member => isDigit_of_mem_digits (shape ▸ member)
      exact ⟨c, cs, rfl, .inr (digit c List.mem_cons_self),
        fun d member => digit d (List.mem_cons_of_mem c member)⟩

end Provision.Text
