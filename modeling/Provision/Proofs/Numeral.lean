import Provision.Numeral
import Provision.Proofs.Text.Digits
import Provision.Proofs.Text.LowerCase

/-!
The decimal text of an integer is a numeral without fraction and power of ten, and stands for that
integer. Numerals do not depend on the case of letters.
-/

namespace Provision

theorem Numeral.takeSign_digits (n : Nat) : takeSign (Text.digits n) = (false, Text.digits n) := by
  cases shape : Text.digits n with
  | nil => exact absurd shape (Text.digits_ne_nil n)
  | cons c rest =>
    have digit : Text.isDigit c = true :=
      Text.isDigit_of_mem_digits (shape ▸ List.mem_cons_self)
    unfold takeSign
    split <;> simp_all [Text.isDigit]

theorem Numeral.read?_decimal (n : Int) :
    read? (Text.decimal n) = some ⟨decide (n < 0), Text.digits n.natAbs, [], none⟩ := by
  have digits : Text.takeDigits (Text.digits n.natAbs) = (Text.digits n.natAbs, []) := by
    simpa [Text.takeDigits] using
      Text.takeDigits_append [] fun c member => Text.isDigit_of_mem_digits (n := n.natAbs) member
  have sign : takeSign (Text.decimal n) = (decide (n < 0), Text.digits n.natAbs) := by
    rw [Text.decimal_eq]
    split
    case isTrue negative => simp [takeSign, negative]
    case isFalse positive => simp [takeSign_digits, positive]
  simp only [read?, sign, digits, List.isEmpty_iff, Text.digits_ne_nil, if_false, exponent?,
    Option.map_some]

theorem Numeral.integer?_of_decimal (n : Int) :
    integer? ⟨decide (n < 0), Text.digits n.natAbs, [], none⟩ = some n := by
  simp only [integer?, Text.ofDigits_digits, signed, List.isEmpty_nil, Option.isNone_none,
    Bool.and_self, if_true, Option.some.injEq]
  split
  case isTrue negative =>
    have := of_decide_eq_true negative
    omega
  case isFalse positive =>
    have : ¬n < 0 := fun negative => positive (decide_eq_true negative)
    omega

theorem Number.int64?_toInt (n : Int64) : int64? n.toInt = some n := by
  rw [int64?, if_pos ⟨n.le_toInt, n.toInt_lt⟩, Int64.ofInt_toInt]

theorem Number.ofInt?_toInt (n : Int64) : ofInt? n.toInt = some (.integer n) := by
  rw [ofInt?, int64?_toInt, Option.map_some]

section LowerCase

namespace Numeral

open Text

theorem takeSign_of_ne {c : Char} (rest : List Char) (plus : c ≠ '+') (minus : c ≠ '-') :
    takeSign (c :: rest) = (false, c :: rest) := by
  unfold takeSign
  split
  case h_1 shape => exact absurd (List.cons.inj shape).1 plus
  case h_2 shape => exact absurd (List.cons.inj shape).1 minus
  case h_3 => rfl

theorem takeSign_lowerFrom (before cs : List Char) :
    ∃ before', takeSign (lowerFrom before cs) =
      ((takeSign cs).1, lowerFrom before' (takeSign cs).2) := by
  cases cs with
  | nil => exact ⟨before, rfl⟩
  | cons c rest =>
    by_cases plus : c = '+'
    · rw [plus, lowerFrom_cons_of_mem (by decide)]
      exact ⟨_, rfl⟩
    by_cases minus : c = '-'
    · rw [minus, lowerFrom_cons_of_mem (by decide)]
      exact ⟨_, rfl⟩
    refine ⟨before, ?_⟩
    obtain ⟨d, ds, form, alike⟩ := lowerFrom_front before c rest
    have plus' : d ≠ '+' := mt (alike _ (eq_marksNumerals (.inl rfl))).mp plus
    have minus' : d ≠ '-' := mt (alike _ (eq_marksNumerals (.inr (.inl rfl)))).mp minus
    rw [takeSign_of_ne rest plus minus, form, takeSign_of_ne ds plus' minus']

theorem exponent?_lowerFrom (before cs : List Char) :
    exponent? (lowerFrom before cs) = exponent? cs := by
  cases cs with
  | nil => rfl
  | cons c rest =>
    by_cases letter : c = 'e' ∨ c = 'E'
    · have member : c ∈ numeralChars := exponentMark_marksNumerals.mem c letter
      have letter' : c.toLower = 'e' ∨ c.toLower = 'E' :=
        (exponentMark_marksNumerals.toLower_iff c member).mpr letter
      obtain ⟨before', sign⟩ := takeSign_lowerFrom (c :: before) rest
      rw [lowerFrom_cons_of_mem member]
      simp only [exponent?, sign, letter, letter', true_and, isDigits_lowerFrom]
      split
      case isTrue digits =>
        rw [isDigits, Bool.and_eq_true] at digits
        rw [lowerFrom_of_digits digits.2]
      case isFalse => rfl
    · obtain ⟨d, ds, form, alike⟩ := lowerFrom_front before c rest
      have letter' : ¬(d = 'e' ∨ d = 'E') := mt (alike _ exponentMark_marksNumerals).mp letter
      rw [form]
      simp only [exponent?, letter, letter', false_and, if_false]

/-- A text is a numeral just when its lower-case form is, and they are the same numeral. -/
theorem read?_lower (cs : List Char) : read? (lower cs) = read? cs := by
  obtain ⟨before, sign⟩ := takeSign_lowerFrom [] cs
  obtain ⟨before', digits⟩ := takeDigits_lowerFrom before (takeSign cs).2
  unfold lower read?
  simp only [sign, digits]
  split
  case isTrue => rfl
  case isFalse =>
    generalize (takeDigits (takeSign cs).2).2 = after
    cases after with
    | nil => rfl
    | cons c rest =>
      by_cases point : c = '.'
      · obtain ⟨before'', fraction⟩ := takeDigits_lowerFrom ('.' :: before') rest
        have form : lowerFrom before' ('.' :: rest) = '.' :: lowerFrom ('.' :: before') rest :=
          lowerFrom_cons_of_mem (by decide) before' rest
        rw [point, form]
        simp only [fraction, exponent?_lowerFrom]
      · obtain ⟨d, ds, form, alike⟩ := lowerFrom_front before' c rest
        have point' : d ≠ '.' := mt (alike _ (eq_marksNumerals (.inr (.inr rfl)))).mp point
        have exponents := exponent?_lowerFrom before' (c :: rest)
        rw [form] at exponents ⊢
        split
        case h_1 shape => exact absurd (List.cons.inj shape).1 point'
        case h_2 =>
          split
          case h_1 shape => exact absurd (List.cons.inj shape).1 point
          case h_2 => rw [exponents]

end Numeral

theorem Number.ofText?_eq_of_folded {s t : String} (same : Text.folded s = Text.folded t) :
    ofText? s = ofText? t := by
  unfold ofText?
  rw [← Numeral.read?_lower s.toList, ← Numeral.read?_lower t.toList]
  exact congrArg (fun cs => (Numeral.read? cs).map Numeral.toNumber) same

/-- A numeral does not agree in lower case with a text that is none. -/
theorem Number.folded_ne {s t : String} {n : Number} (numeral : ofText? s = some n)
    (plain : ofText? t = none) : Text.folded s ≠ Text.folded t := by
  intro same
  rw [ofText?_eq_of_folded same, plain] at numeral
  contradiction

end LowerCase

end Provision
