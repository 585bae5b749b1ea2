import Provision.Proofs.Text.Digits
import Provision.Text.LowerCase

/-!
Lower-casing and the characters of numerals. Only a character of numerals is made into one, so a
text and its lower-case form look alike where a numeral is sought. No character vanishes, and texts
are in the order of their lower-case forms.
-/

namespace Provision.Text

open CaseTable

section Characters

/-- The characters that stand in numerals. -/
def numeralChars : List Char := "0123456789+-.eE".toList

/-- What is checked of the few characters of numerals, without a search through all characters. -/
theorem forall_numeralChars {p : Char → Prop} [DecidablePred p]
    (checked : (numeralChars.all fun c => decide (p c)) = true) : ∀ c ∈ numeralChars, p c := by
  simpa only [List.all_eq_true, decide_eq_true_eq] using checked

theorem numeralChars_bounds : ∀ d ∈ numeralChars, 0 < d.toNat ∧ d.toNat ≤ 0x65 :=
  forall_numeralChars (by decide)

theorem numeralChars_letter : ∀ d ∈ numeralChars, 0x61 ≤ d.toNat → d.toNat = 0x65 :=
  forall_numeralChars (by decide)

/-- Past the letters A to Z, no simple lower-case form is as low as the letters of numerals. -/
theorem lowerRuns_high : ∀ r ∈ lowerRuns.tail, 0x65 < r.first + r.shift := by
  decide +kernel

theorem lowerChar_of_mem : ∀ c ∈ numeralChars, lowerChar c = [c.toLower] :=
  forall_numeralChars (by decide +kernel)

/-- A code that is not a character's stands for the character of code zero. -/
theorem toNat_ofNat_of_pos {n : Nat} (positive : 0 < (Char.ofNat n).toNat) :
    (Char.ofNat n).toNat = n := by
  by_cases valid : n.isValidChar
  · rw [Char.ofNat, dif_pos valid]
    rfl
  · rw [Char.ofNat, dif_neg valid] at positive
    exact absurd positive (Nat.lt_irrefl 0)

theorem mem_of_mem_lowerChar {c d : Char} (here : d ∈ lowerChar c) (numeral : d ∈ numeralChars) :
    c ∈ numeralChars := by
  obtain ⟨positive, low⟩ := numeralChars_bounds d numeral
  unfold lowerChar at here
  split at here
  case isTrue dotted =>
    rcases List.mem_cons.mp here with rfl | dot
    · exact absurd numeral (by decide)
    · rw [List.mem_singleton.mp dot] at numeral
      exact absurd numeral (by decide)
  case isFalse =>
    split at here
    case h_2 => exact List.mem_singleton.mp here ▸ numeral
    case h_1 r found =>
      obtain rfl := List.mem_singleton.mp here
      have code := toNat_ofNat_of_pos positive
      have covered : r.first ≤ c.toNat ∧ c.toNat ≤ r.last := by
        have covers := List.find?_some found
        simp only [Run.covers, Bool.and_eq_true, decide_eq_true_eq] at covers
        exact covers.1
      rcases List.mem_cons.mp (List.mem_of_find?_eq_some found) with rfl | later
      · -- among the letters A to Z, only the form of E stands in numerals
        have capital : 0x41 ≤ c.toNat := covered.1
        have shifted : (Char.ofNat ((c.toNat : Int) + 32).toNat).toNat = c.toNat + 32 :=
          code.trans (Int.toNat_natCast (c.toNat + 32))
        have letter : c.toNat + 32 = 0x65 :=
          shifted ▸ numeralChars_letter _ numeral (by rw [shifted]; omega)
        have same : c = 'E' := Char.toNat_inj.mp (Nat.add_right_cancel letter)
        rw [same]
        decide
      · have high := lowerRuns_high r later
        omega

theorem lowerChar_ne_nil (c : Char) : lowerChar c ≠ [] := by
  unfold lowerChar
  split
  · exact List.cons_ne_nil _ _
  · split <;> exact List.cons_ne_nil _ _

end Characters

section Texts

theorem lowerFrom_cons_of_mem {c : Char} (member : c ∈ numeralChars) (before rest : List Char) :
    lowerFrom before (c :: rest) = c.toLower :: lowerFrom (c :: before) rest := by
  have plain : c ≠ 'Σ' := fun sigma => absurd (sigma ▸ member) (by decide)
  rw [lowerFrom, if_neg plain, lowerChar_of_mem c member]
  rfl

theorem lowerFrom_cons_of_not_mem {c : Char} (outside : c ∉ numeralChars)
    (before rest : List Char) :
    ∃ d ds, lowerFrom before (c :: rest) = d :: ds ∧ d ∉ numeralChars := by
  rw [lowerFrom]
  split
  · split
    · exact ⟨'ς', _, rfl, by decide⟩
    · exact ⟨'σ', _, rfl, by decide⟩
  · cases form : lowerChar c with
    | nil => exact absurd form (lowerChar_ne_nil c)
    | cons d ds =>
      have first : d ∈ lowerChar c := form ▸ List.mem_cons_self
      exact ⟨d, _, rfl, fun numeral => outside (mem_of_mem_lowerChar first numeral)⟩

theorem lower_eq_nil_iff {cs : List Char} : lower cs = [] ↔ cs = [] := by
  cases cs with
  | nil => exact iff_of_true rfl rfl
  | cons c rest =>
    refine iff_of_false ?_ (List.cons_ne_nil c rest)
    by_cases member : c ∈ numeralChars
    · rw [lower, lowerFrom_cons_of_mem member]
      exact List.cons_ne_nil _ _
    · obtain ⟨d, ds, form, -⟩ := lowerFrom_cons_of_not_mem member [] rest
      rw [lower, form]
      exact List.cons_ne_nil _ _

end Texts

section Front

theorem mem_numeralChars_of_isDigit {c : Char} (digit : isDigit c = true) :
    c ∈ numeralChars := by
  have front : numeralChars =
      ['0', '1', '2', '3', '4', '5', '6', '7', '8', '9'] ++ ['+', '-', '.', 'e', 'E'] := by decide
  rw [front]
  exact List.mem_append_left _ (isDigit_iff_mem.mp digit)

/-- A property that only characters of numerals have, in either case of letters. -/
structure MarksNumerals (mark : Char → Prop) : Prop where
  toLower_iff : ∀ c ∈ numeralChars, mark c.toLower ↔ mark c
  mem : ∀ c, mark c → c ∈ numeralChars

theorem isDigit_marksNumerals : MarksNumerals (isDigit · = true) :=
  ⟨forall_numeralChars (by decide), fun _ digit => mem_numeralChars_of_isDigit digit⟩

theorem eq_marksNumerals {x : Char} (sign : x = '+' ∨ x = '-' ∨ x = '.') :
    MarksNumerals (· = x) := by
  rcases sign with rfl | rfl | rfl
  all_goals
    refine ⟨forall_numeralChars (by decide), ?_⟩
    rintro c rfl
    decide

theorem exponentMark_marksNumerals : MarksNumerals (fun c => c = 'e' ∨ c = 'E') where
  toLower_iff := forall_numeralChars (by decide)
  mem c letter := by rcases letter with rfl | rfl <;> decide

/-- A lower-case form begins the way its text does, as far as a reader of numerals can see. -/
theorem lowerFrom_front (before : List Char) (c : Char) (rest : List Char) :
    ∃ d ds, lowerFrom before (c :: rest) = d :: ds ∧
      ∀ mark, MarksNumerals mark → (mark d ↔ mark c) := by
  by_cases member : c ∈ numeralChars
  · refine ⟨_, _, lowerFrom_cons_of_mem member before rest, ?_⟩
    intro mark marks
    exact marks.toLower_iff c member
  · obtain ⟨d, ds, form, outside⟩ := lowerFrom_cons_of_not_mem member before rest
    refine ⟨d, ds, form, ?_⟩
    intro mark marks
    exact iff_of_false (mt (marks.mem d) outside) (mt (marks.mem c) member)

theorem lowerFrom_cons_of_isDigit {c : Char} (digit : isDigit c = true) (before rest : List Char) :
    lowerFrom before (c :: rest) = c :: lowerFrom (c :: before) rest := by
  have fixed : ∀ d ∈ numeralChars, isDigit d = true → d.toLower = d :=
    forall_numeralChars (by decide)
  have member := mem_numeralChars_of_isDigit digit
  rw [lowerFrom_cons_of_mem member, fixed c member digit]

/-- The digits in front stay, and what follows them is lower-cased where it stands. -/
theorem takeDigits_lowerFrom (before cs : List Char) :
    ∃ before', takeDigits (lowerFrom before cs) =
      ((takeDigits cs).1, lowerFrom before' (takeDigits cs).2) := by
  induction cs generalizing before with
  | nil => exact ⟨before, rfl⟩
  | cons c rest ih =>
    by_cases digit : isDigit c = true
    · obtain ⟨before', taken⟩ := ih (c :: before)
      refine ⟨before', ?_⟩
      rw [lowerFrom_cons_of_isDigit digit]
      simp only [takeDigits, List.takeWhile_cons_of_pos digit, List.dropWhile_cons_of_pos digit,
        Prod.mk.injEq] at taken ⊢
      exact ⟨congrArg (c :: ·) taken.1, taken.2⟩
    · obtain ⟨d, ds, form, alike⟩ := lowerFrom_front before c rest
      have digit' : ¬isDigit d = true := mt (alike _ isDigit_marksNumerals).mp digit
      refine ⟨before, ?_⟩
      simp only [takeDigits, List.takeWhile_cons, List.dropWhile_cons, digit, digit', form,
        Bool.false_eq_true, if_false]

theorem lowerFrom_of_digits {cs : List Char} (digits : cs.all isDigit = true) (before : List Char) :
    lowerFrom before cs = cs := by
  induction cs generalizing before with
  | nil => rfl
  | cons c rest ih =>
    rw [List.all_cons, Bool.and_eq_true] at digits
    rw [lowerFrom_cons_of_isDigit digits.1, ih digits.2]

theorem isDigits_lowerFrom (before cs : List Char) :
    isDigits (lowerFrom before cs) = isDigits cs := by
  have all : ∀ before, (lowerFrom before cs).all isDigit = cs.all isDigit := by
    induction cs with
    | nil => exact fun _ => rfl
    | cons c rest ih =>
      intro before
      by_cases digit : isDigit c = true
      · rw [lowerFrom_cons_of_isDigit digit, List.all_cons, List.all_cons, ih]
      · obtain ⟨d, ds, form, alike⟩ := lowerFrom_front before c rest
        have digit' : ¬isDigit d = true := mt (alike _ isDigit_marksNumerals).mp digit
        rw [form, List.all_cons, List.all_cons, Bool.eq_false_iff.mpr digit,
          Bool.eq_false_iff.mpr digit', Bool.false_and, Bool.false_and]
  have empty : (lowerFrom before cs).isEmpty = cs.isEmpty := by
    cases cs with
    | nil => rfl
    | cons c rest =>
      obtain ⟨d, ds, form, -⟩ := lowerFrom_front before c rest
      rw [form, List.isEmpty_cons, List.isEmpty_cons]
  rw [isDigits, isDigits, all, empty]

end Front

section Order

/-- The characters by which a text is compared. -/
def folded (s : String) : List Char := lower s.toList

variable {s t : String}

theorem compareFolded_eq_lt_iff : compareFolded s t = .lt ↔ folded s < folded t := by
  unfold compareFolded folded
  dsimp only
  split
  case isTrue before => exact iff_of_true rfl before
  case isFalse notBefore =>
    refine iff_of_false ?_ notBefore
    split <;> nofun

theorem compareFolded_eq_eq_iff : compareFolded s t = .eq ↔ folded s = folded t := by
  unfold compareFolded folded
  dsimp only
  split
  case isTrue before =>
    refine iff_of_false nofun fun same => ?_
    rw [same] at before
    exact List.lt_irrefl _ before
  case isFalse =>
    split
    case isTrue same => exact iff_of_true rfl same
    case isFalse different => exact iff_of_false nofun different

theorem compareFolded_eq_gt_iff : compareFolded s t = .gt ↔ folded t < folded s := by
  have before := compareFolded_eq_lt_iff (s := s) (t := t)
  have same := compareFolded_eq_eq_iff (s := s) (t := t)
  rcases Std.lt_trichotomy (folded s) (folded t) with less | equal | greater
  · rw [before.mpr less]
    exact iff_of_false nofun (List.lt_asymm less)
  · rw [same.mpr equal, equal]
    exact iff_of_false nofun (List.lt_irrefl _)
  · refine iff_of_true ?_ greater
    cases compared : compareFolded s t with
    | gt => rfl
    | lt => exact absurd greater (List.lt_asymm (before.mp compared))
    | eq => exact absurd (same.mp compared ▸ greater) (List.lt_irrefl _)

theorem compareFolded_swap (s t : String) : compareFolded t s = (compareFolded s t).swap := by
  cases compared : compareFolded s t with
  | lt => exact compareFolded_eq_gt_iff.mpr (compareFolded_eq_lt_iff.mp compared)
  | eq => exact compareFolded_eq_eq_iff.mpr (compareFolded_eq_eq_iff.mp compared).symm
  | gt => exact compareFolded_eq_lt_iff.mpr (compareFolded_eq_gt_iff.mp compared)

theorem compareFolded_eq_lt_iff_not (different : folded s ≠ folded t) :
    compareFolded s t = .lt ↔ ¬compareFolded t s = .lt := by
  rw [compareFolded_eq_lt_iff, compareFolded_eq_lt_iff]
  rcases Std.lt_trichotomy (folded s) (folded t) with before | same | after
  · exact iff_of_true before (List.lt_asymm before)
  · exact absurd same different
  · exact iff_of_false (List.lt_asymm after) fun notAfter => notAfter after

end Order

end Provision.Text
