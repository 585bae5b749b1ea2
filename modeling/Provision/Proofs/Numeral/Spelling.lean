import Provision.Proofs.Integer
import Provision.Proofs.Numeral

/-!
How numerals are spelled. Reading takes apart exactly the texts that the grammar of numerals allows,
and into the parts of which the text is made; the number is an integer where a plain numeral writes
one that fits, and a double elsewhere.
-/

namespace Provision.Numeral

/-- The texts of a sign: none or a plus sign, or a minus sign. -/
inductive SignSpelling : Bool → List Char → Prop where
  | none : SignSpelling false []
  | plus : SignSpelling false ['+']
  | minus : SignSpelling true ['-']

inductive FractionSpelling : List Char → List Char → Prop where
  | none : FractionSpelling [] []
  | point {ds : List Char} (digits : Text.isDigits ds = true) : FractionSpelling ds ('.' :: ds)

inductive ExponentSpelling : Option (Bool × List Char) → List Char → Prop where
  | none : ExponentSpelling none []
  | power {mark : Char} {negative : Bool} {sign ds : List Char} (letter : mark = 'e' ∨ mark = 'E')
      (signed : SignSpelling negative sign) (digits : Text.isDigits ds = true) :
      ExponentSpelling (some (negative, ds)) (mark :: (sign ++ ds))

/-- The text writes this numeral: its parts stand one after the other, and nothing else does. -/
inductive Spelled : Numeral → List Char → Prop where
  | intro {negative : Bool} {whole fraction : List Char} {exponent : Option (Bool × List Char)}
      {signText fractionText exponentText : List Char} (sign : SignSpelling negative signText)
      (digits : Text.isDigits whole = true) (point : FractionSpelling fraction fractionText)
      (power : ExponentSpelling exponent exponentText) :
      Spelled ⟨negative, whole, fraction, exponent⟩
        (signText ++ (whole ++ (fractionText ++ exponentText)))

/-- The text is a sign, if any, and digits, and it writes this 64-bit integer. -/
inductive SignedDigits (n : Int64) : List Char → Prop where
  | intro {negative : Bool} {signText ds : List Char} (sign : SignSpelling negative signText)
      (digits : Text.isDigits ds = true) (value : n.toInt = signed negative (Text.ofDigits ds)) :
      SignedDigits n (signText ++ ds)

section Reading

theorem takeSign_run {negative : Bool} {sign ds : List Char} (rest : List Char)
    (signed : SignSpelling negative sign) (digits : Text.isDigits ds = true) :
    takeSign (sign ++ (ds ++ rest)) = (negative, ds ++ rest) := by
  cases signed with
  | plus => rfl
  | minus => rfl
  | none =>
    obtain ⟨nonempty, digits⟩ := Text.isDigits_iff.mp digits
    cases ds with
    | nil => exact absurd rfl nonempty
    | cons d ds =>
      have digit := digits d List.mem_cons_self
      refine takeSign_of_ne (ds ++ rest) ?_ ?_
      · rintro rfl
        contradiction
      · rintro rfl
        contradiction

theorem exists_sign (cs : List Char) :
    ∃ sign, SignSpelling (takeSign cs).1 sign ∧ cs = sign ++ (takeSign cs).2 := by
  unfold takeSign
  split
  · exact ⟨['+'], .plus, rfl⟩
  · exact ⟨['-'], .minus, rfl⟩
  · exact ⟨[], .none, rfl⟩

theorem exponent?_eq_some_iff {cs : List Char} {exponent : Option (Bool × List Char)} :
    exponent? cs = some exponent ↔ ExponentSpelling exponent cs := by
  constructor
  · intro read
    cases cs with
    | nil =>
      cases read
      exact .none
    | cons c rest =>
      obtain ⟨sign, signed, shape⟩ := exists_sign rest
      simp only [exponent?] at read
      generalize takeSign rest = parts at read signed shape
      obtain ⟨⟨letter, digits⟩, same⟩ := Option.ite_none_right_eq_some.mp read
      cases same
      rw [shape]
      exact .power letter signed digits
  · rintro (_ | ⟨letter, signed, digits⟩)
    · rfl
    · have parts := takeSign_run [] signed digits
      rw [List.append_nil] at parts
      simp only [exponent?, parts, letter, digits, true_and, if_true]

theorem ExponentSpelling.head?_not {exponent : Option (Bool × List Char)} {text : List Char}
    (power : ExponentSpelling exponent text) :
    ∀ c ∈ text.head?, Text.isDigit c = false ∧ c ≠ '.' := by
  cases power with
  | none => nofun
  | power letter signed digits =>
    intro c first
    cases first
    rcases letter with rfl | rfl <;> decide

/-- Behind the digits of a numeral stands no further digit. -/
theorem head?_not_digit {fraction : List Char} {exponent : Option (Bool × List Char)}
    {fractionText exponentText : List Char} (point : FractionSpelling fraction fractionText)
    (power : ExponentSpelling exponent exponentText) :
    ∀ c ∈ (fractionText ++ exponentText).head?, Text.isDigit c = false := by
  intro c first
  cases point with
  | none => exact (power.head?_not c first).1
  | point digits =>
    cases first
    rfl

theorem Spelled.of_read? {cs : List Char} {n : Numeral} (read : read? cs = some n) :
    n.Spelled cs := by
  obtain ⟨sign, signed, shape⟩ := exists_sign cs
  simp only [read?] at read
  generalize takeSign cs = parts at read signed shape
  obtain ⟨negative, unsigned⟩ := parts
  have run := Text.eq_append_takeDigits unsigned
  have inRun : ∀ c ∈ (Text.takeDigits unsigned).1, Text.isDigit c = true :=
    fun c member => Text.isDigit_of_mem_takeDigits member
  dsimp only at read run signed shape
  generalize Text.takeDigits unsigned = parts at read run inRun
  obtain ⟨whole, rest⟩ := parts
  dsimp only at read run inRun
  obtain ⟨nonempty, after⟩ := Option.ite_none_left_eq_some.mp read
  have digits : Text.isDigits whole = true :=
    Text.isDigits_iff.mpr ⟨mt List.isEmpty_iff.mpr nonempty, inRun⟩
  rw [shape, run]
  split at after
  case h_1 _ rest =>
    have run' := Text.eq_append_takeDigits rest
    have inRun' : ∀ c ∈ (Text.takeDigits rest).1, Text.isDigit c = true :=
      fun c member => Text.isDigit_of_mem_takeDigits member
    generalize Text.takeDigits rest = parts at after run' inRun'
    obtain ⟨nonempty', after⟩ := Option.ite_none_left_eq_some.mp after
    obtain ⟨exponent, power, rfl⟩ := Option.map_eq_some_iff.mp after
    have digits' : Text.isDigits parts.1 = true :=
      Text.isDigits_iff.mpr ⟨mt List.isEmpty_iff.mpr nonempty', inRun'⟩
    rw [run']
    exact .intro signed digits (.point digits') (exponent?_eq_some_iff.mp power)
  case h_2 =>
    obtain ⟨exponent, power, rfl⟩ := Option.map_eq_some_iff.mp after
    exact .intro signed digits .none (exponent?_eq_some_iff.mp power)

theorem read?_of_spelled {cs : List Char} {n : Numeral} (spelled : n.Spelled cs) :
    read? cs = some n := by
  obtain ⟨signed, digits, point, power⟩ := spelled
  obtain ⟨nonempty, inRun⟩ := Text.isDigits_iff.mp digits
  have run := Text.takeDigits_run inRun (head?_not_digit point power)
  unfold read?
  rw [takeSign_run _ signed digits]
  dsimp only
  rw [run]
  dsimp only
  rw [if_neg (mt List.isEmpty_iff.mp nonempty)]
  have read := exponent?_eq_some_iff.mpr power
  cases point with
  | none =>
    rw [List.nil_append]
    split
    case h_1 rest => exact absurd rfl (power.head?_not '.' rfl).2
    case h_2 => rw [read, Option.map_some]
  | point digits' =>
    obtain ⟨nonempty', inRun'⟩ := Text.isDigits_iff.mp digits'
    have stops := fun c first => (power.head?_not c first).1
    simp only [List.cons_append, Text.takeDigits_run inRun' stops]
    rw [if_neg (mt List.isEmpty_iff.mp nonempty'), read, Option.map_some]

theorem spelled_signed_digits {negative : Bool} {sign ds : List Char}
    (signed : SignSpelling negative sign) (digits : Text.isDigits ds = true) :
    Spelled ⟨negative, ds, [], none⟩ (sign ++ ds) := by
  have spelled := Spelled.intro signed digits .none .none
  rwa [List.append_nil, List.append_nil] at spelled

theorem read?_eq_some_iff {cs : List Char} {n : Numeral} : read? cs = some n ↔ n.Spelled cs :=
  ⟨Spelled.of_read?, read?_of_spelled⟩

end Reading

section Meaning

/-- Neither a point nor a power of ten is written. -/
def IsPlain (n : Numeral) : Prop := n.fraction = [] ∧ n.exponent = none

/-- The 64-bit integer that a plain numeral writes. -/
def Writes (n : Numeral) (i : Int64) : Prop :=
  n.IsPlain ∧ i.toInt = signed n.negative (Text.ofDigits n.whole)

variable {n : Numeral}

theorem integer?_eq_some_iff {z : Int} :
    n.integer? = some z ↔ n.IsPlain ∧ z = signed n.negative (Text.ofDigits n.whole) := by
  rw [integer?, Option.ite_none_right_eq_some, Bool.and_eq_true, List.isEmpty_iff,
    Option.isNone_iff_eq_none, Option.some.injEq, eq_comm (b := z)]
  rfl

theorem integer?_bind_ofInt? {m : Number} :
    n.integer?.bind Number.ofInt? = some m ↔ ∃ i, m = .integer i ∧ n.Writes i := by
  rw [Option.bind_eq_some_iff]
  constructor
  · rintro ⟨z, written, made⟩
    obtain ⟨i, fits, rfl⟩ := Option.map_eq_some_iff.mp made
    obtain ⟨plain, same⟩ := integer?_eq_some_iff.mp written
    exact ⟨i, rfl, plain, (Number.int64?_eq_some_iff.mp fits).trans same⟩
  · rintro ⟨i, rfl, plain, same⟩
    exact ⟨i.toInt, integer?_eq_some_iff.mpr ⟨plain, same⟩, Number.ofInt?_toInt i⟩

theorem toNumber_eq_integer_iff {i : Int64} : n.toNumber = .integer i ↔ n.Writes i := by
  unfold toNumber
  split
  case h_1 m found =>
    obtain ⟨j, rfl, written⟩ := integer?_bind_ofInt?.mp found
    rw [Number.integer.injEq]
    constructor
    · rintro rfl
      exact written
    · intro written'
      exact Int64.toInt_inj.mp (written.2.trans written'.2.symm)
  case h_2 missing =>
    refine iff_of_false nofun fun written => ?_
    rw [integer?_bind_ofInt?.mpr ⟨i, rfl, written⟩] at missing
    cases missing

end Meaning

end Provision.Numeral

namespace Provision.Number

open Numeral

theorem ofText?_eq_some_iff {s : String} {m : Number} :
    ofText? s = some m ↔ ∃ n : Numeral, n.Spelled s.toList ∧ n.toNumber = m := by
  rw [ofText?, Option.map_eq_some_iff]
  simp only [read?_eq_some_iff]

theorem ofText?_of_signedDigits {i : Int64} {s : String} (written : SignedDigits i s.toList) :
    ofText? s = some (.integer i) := by
  generalize chars : s.toList = text at written
  obtain ⟨sign, digits, value⟩ := written
  exact ofText?_eq_some_iff.mpr ⟨_, chars ▸ spelled_signed_digits sign digits,
    toNumber_eq_integer_iff.mpr ⟨⟨rfl, rfl⟩, value⟩⟩

end Provision.Number
