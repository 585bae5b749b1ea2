import Provision.Proofs.Command.Binding
import Provision.Proofs.Json.SignedDigits
import Provision.Proofs.Numeral.Spelling
import Provision.Value.Operation

/-!
Integers as bindings. JSON reads some texts of a sign and digits and refuses others, which are bound
as strings; arithmetic takes both for the integer that is written. The one exception is the zero
with a minus sign, which JSON reads as a double.
-/

namespace Provision.Value

section Coercion

variable {op : Arithmetic} {a b r : Value}

/-- Each arithmetic operator has the same results on both values. -/
structure CalculatesAs (a b : Value) : Prop where
  negated : ∀ r, applyUnary .minus a = .ok r ↔ applyUnary .minus b = .ok r
  onLeft : ∀ op c r,
    applyBinary (.arithmetic op) a c = .ok r ↔ applyBinary (.arithmetic op) b c = .ok r
  onRight : ∀ op c r,
    applyBinary (.arithmetic op) c a = .ok r ↔ applyBinary (.arithmetic op) c b = .ok r

theorem negation_eq_ok_iff : applyUnary .minus a = .ok r ↔
    ∃ m k, a.number? = some m ∧ m.neg? = some k ∧ ofNumber k = r := by
  rw [applyUnary]
  cases coerced : a.number? with
  | none => simp
  | some m =>
    cases result : m.neg? with
    | none => simp [result]
    | some k => simp [result]

theorem arithmetic_eq_ok_iff : applyBinary (.arithmetic op) a b = .ok r ↔
    ∃ m n k, a.number? = some m ∧ b.number? = some n ∧ numberResult op m n = .ok k ∧
      ofNumber k = r := by
  rw [applyBinary, arithmetic]
  cases left : a.number? with
  | none => simp
  | some m =>
    cases right : b.number? with
    | none => simp
    | some n =>
      cases result : numberResult op m n with
      | ok k => simp [result]
      | error e => cases e <;> simp [result]

theorem calculatesAs_of_number? (same : a.number? = b.number?) : a.CalculatesAs b where
  negated r := by rw [negation_eq_ok_iff, negation_eq_ok_iff, same]
  onLeft op c r := by rw [arithmetic_eq_ok_iff, arithmetic_eq_ok_iff, same]
  onRight op c r := by rw [arithmetic_eq_ok_iff, arithmetic_eq_ok_iff, same]

end Coercion

end Provision.Value

namespace Provision.Command

open Numeral (SignedDigits)

variable {name t : String} {n : Int64}

theorem number?_bindingValue (written : SignedDigits n t.toList) (notNegativeZero : t ≠ "-0") :
    (bindingValue t.toList).number? = some (.integer n) := by
  have chars : t.toList ≠ ['-', '0'] := fun same => notNegativeZero (String.toList_inj.mp same)
  rw [bindingValue]
  cases read : Json.read? t.toList with
  | none =>
    dsimp only
    rw [String.ofList_toList]
    exact Number.ofText?_of_signedDigits written
  | some j =>
    rw [Json.eq_integer_of_read? written chars read]
    rfl

/-- A text of digits, with or without a sign, that writes a 64-bit integer is bound as a value that
counts as this integer wherever a number is wanted, as the text itself does as a string, so that
arithmetic has the same results on both. The text `-0` alone is bound as the double -0.0. -/
theorem readBinding_signedDigits (plain : IsBindingName name)
    (written : SignedDigits n t.toList) :
    (Value.string t).number? = some (.integer n) ∧
      ∃ v, readBinding (name ++ "=" ++ t) = .ok (name, v) ∧
        (t ≠ "-0" → v.number? = some (.integer n) ∧ v.CalculatesAs (.string t)) ∧
          (t = "-0" → v = .float (Float.ofBits 0x8000000000000000)) := by
  have asString : (Value.string t).number? = some (.integer n) :=
    Number.ofText?_of_signedDigits written
  refine ⟨asString, bindingValue t.toList, readBinding_append plain t, ?_, ?_⟩
  · intro notNegativeZero
    have bound := number?_bindingValue written notNegativeZero
    exact ⟨bound, Value.calculatesAs_of_number? (bound.trans asString.symm)⟩
  · rintro rfl
    rfl

/-- The least integer with a zero in front, which JSON does not read as a number. -/
theorem readBinding_signedDigits_least :
    let t := "-09223372036854775808"
    IsBindingName "x" ∧ SignedDigits Int64.minValue t.toList ∧ t ≠ "-0" ∧
      Json.read? t.toList = none ∧
      (Value.string t).number? = some (.integer Int64.minValue) ∧
        ∃ v, readBinding ("x" ++ "=" ++ t) = .ok ("x", v) ∧
          v.number? = some (.integer Int64.minValue) ∧ v.CalculatesAs (.string t) := by
  intro t
  have plain : IsBindingName "x" := isBindingName_iff.mpr ⟨by decide, by decide, rfl⟩
  have digits : Text.isDigits "09223372036854775808".toList = true := by decide
  have value : Int64.minValue.toInt =
      Numeral.signed true (Text.ofDigits "09223372036854775808".toList) := by decide
  have chars : t.toList = ['-'] ++ "09223372036854775808".toList := by decide
  have written : SignedDigits Int64.minValue t.toList := by
    rw [chars]
    exact .intro .minus digits value
  have notNegativeZero : t ≠ "-0" := by decide
  obtain ⟨asString, v, bound, counts, -⟩ := readBinding_signedDigits plain written
  exact ⟨plain, written, notNegativeZero, by decide, asString, v, bound,
    counts notNegativeZero⟩

/-- The zero with a minus sign is bound as a double. Added to an integer this gives a double, where
the text as a string gives an integer. -/
theorem readBinding_negative_zero :
    let bound : Value := .float (Float.ofBits 0x8000000000000000)
    SignedDigits 0 "-0".toList ∧ readBinding "x=-0" = .ok ("x", bound) ∧
      bound.number? ≠ some (.integer 0) ∧ (Value.string "-0").number? = some (.integer 0) ∧
      (∀ i, Value.applyBinary (.arithmetic .plus) (.integer 1) bound ≠ .ok (.integer i)) ∧
        Value.applyBinary (.arithmetic .plus) (.integer 1) (.string "-0") = .ok (.integer 1) := by
  intro bound
  have digit : Text.isDigits ['0'] = true := rfl
  have written : SignedDigits 0 "-0".toList := .intro .minus digit (by decide)
  have asString : (Value.string "-0").number? = some (.integer 0) :=
    Number.ofText?_of_signedDigits written
  refine ⟨written, rfl, nofun, asString, nofun, ?_⟩
  exact Value.arithmetic_eq_ok_iff.mpr ⟨_, _, .integer 1, rfl, asString, rfl, rfl⟩

end Provision.Command
