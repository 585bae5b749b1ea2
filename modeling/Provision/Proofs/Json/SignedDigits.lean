import Provision.Proofs.Json.Lexing
import Provision.Proofs.Numeral.Spelling
import Provision.Json.Reader

/-!
Signs and digits as JSON. JSON refuses a plus sign and a zero in front of another digit. What it
does not refuse it reads as the 64-bit integer that is written, but for a zero with a minus sign,
which JSON reads as a double.
-/

namespace Provision.Json

open Numeral (SignedDigits)

section Numbers

variable {ds : List Char}

/-- No zero stands in front of another digit, so only one text of digits writes zero. -/
theorem eq_zero_of_plainWhole (digits : Text.isDigits ds = true) (plain : plainWhole ds = true)
    (zero : Text.ofDigits ds = 0) : ds = ['0'] := by
  obtain ⟨nonempty, digits⟩ := Text.isDigits_iff.mp digits
  obtain ⟨c, cs, rfl⟩ := List.exists_cons_of_ne_nil nonempty
  by_cases lead : c = '0'
  · simpa [plainWhole, lead] using plain
  · have positive := Text.ofDigits_pos (digits c List.mem_cons_self) lead cs
    omega

theorem eq_integer_of_number? {n : Int64} {text : List Char} (written : SignedDigits n text)
    (notNegativeZero : text ≠ ['-', '0']) {m : Number} (read : number? text = some m) :
    m = .integer n := by
  obtain @⟨negative, _, ds, sign, digits, value⟩ := written
  have spelled := Numeral.spelled_signed_digits sign digits
  have writes : Numeral.integer? ⟨negative, ds, [], none⟩ = some n.toInt :=
    Numeral.integer?_eq_some_iff.mpr ⟨⟨rfl, rfl⟩, value⟩
  rw [number?, Numeral.read?_of_spelled spelled, Option.bind_some, ofNumeral?, writes] at read
  simp only [Number.ofInt?_toInt] at read
  split at read
  case isTrue => cases read
  case isFalse =>
    split at read
    case isTrue => cases read
    case isFalse plain =>
      split at read
      case isTrue zero =>
        obtain ⟨zero, rfl⟩ := zero
        have noDigits : Text.ofDigits ds = 0 := by
          simp only [Numeral.signed, zero, if_true] at value
          omega
        have single := eq_zero_of_plainWhole digits (by simpa using plain) noDigits
        cases sign
        exact absurd (congrArg ('-' :: ·) single) notNegativeZero
      case isFalse => exact (Option.some.inj read).symm

end Numbers

section Documents

variable {c : Char} {cs : List Char}

theorem read?_numeric (first : c = '-' ∨ Text.isDigit c = true)
    (rest : ∀ d ∈ cs, Token.isNumeric d = true) :
    read? (c :: cs) = (number? (c :: cs)).map .number := by
  have gathered := lexFrom_numeric first rest []
  rw [List.append_nil] at gathered
  rw [read?, Token.lex, gathered, Token.lexFrom, Token.finish, List.reverse_reverse]
  cases number? (c :: cs) <;> rfl

/-- Whatever document a sign and digits are, but for the negative zero, it is the integer. -/
theorem eq_integer_of_read? {n : Int64} {text : List Char} (written : SignedDigits n text)
    (notNegativeZero : text ≠ ['-', '0']) {j : Json} (read : read? text = some j) :
    j = .number (.integer n) := by
  have number : read? text = (number? text).map .number := by
    obtain ⟨sign, digits, -⟩ := written
    obtain ⟨nonempty, each⟩ := Text.isDigits_iff.mp digits
    have numeric := fun d member => isNumeric_of_isDigit (each d member)
    cases sign with
    | plus => cases read
    | minus => exact read?_numeric (.inl rfl) numeric
    | none =>
      obtain ⟨c, cs, rfl⟩ := List.exists_cons_of_ne_nil nonempty
      exact read?_numeric (.inr (each c List.mem_cons_self))
        fun d member => numeric d (List.mem_cons_of_mem c member)
  obtain ⟨m, found, rfl⟩ := Option.map_eq_some_iff.mp (number.symm.trans read)
  rw [eq_integer_of_number? written notNegativeZero found]

end Documents

end Provision.Json
