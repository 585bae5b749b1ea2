import Provision.Proofs.Number
import Provision.Proofs.Numeral
import Provision.Value.Operation

/-!
The order of values. Each pair is compared by itself, two numerals as numbers and any other two
strings as texts. So three strings can stand in a circle: a text that is no numeral may lie between
two numerals which as numbers are not in the order of their texts. That is the only way in which the
order fails to be transitive.
-/

namespace Provision.Value

variable {a b c : Value}

section Pairs

/-- `a < b` is true. -/
def Less (a b : Value) : Prop := applyBinary (.compare .less) a b = .ok (.boolean true)

/-- `a < b` has a value. -/
def Comparable (a b : Value) : Prop := ∃ v, applyBinary (.compare .less) a b = .ok v

theorem less_iff : Less a b ↔ a.compare? b = some .lt := by
  rw [Less, applyBinary]
  cases a.compare? b with
  | none => exact iff_of_false nofun nofun
  | some o =>
    cases o with
    | lt => exact iff_of_true rfl rfl
    | eq => exact iff_of_false nofun nofun
    | gt => exact iff_of_false nofun nofun

theorem comparable_iff : Comparable a b ↔ ∃ o, a.compare? b = some o := by
  rw [Comparable, applyBinary]
  cases a.compare? b with
  | none => exact iff_of_false (fun defined => nomatch defined.choose_spec) nofun
  | some o => exact iff_of_true ⟨_, rfl⟩ ⟨o, rfl⟩

/-- How two values compare: as numbers, or as texts of which one at least is no numeral. -/
inductive Compared : Value → Value → Ordering → Prop
  | numbers {a b : Value} {m n : Number} {o : Ordering} (left : a.number? = some m)
      (right : b.number? = some n) (order : m.compare? n = some o) : Compared a b o
  | texts {s t : String} {o : Ordering} (plain : Number.ofText? s = none ∨ Number.ofText? t = none)
      (order : Text.compareFolded s t = o) : Compared (.string s) (.string t) o

theorem compared_of_compare? {o : Ordering} (compared : a.compare? b = some o) :
    Compared a b o := by
  unfold compare? at compared
  split at compared
  case h_1 m n left right => exact .numbers left right compared
  case h_2 absent =>
    split at compared
    case h_1 s t =>
      refine .texts ?_ (Option.some.inj compared)
      cases left : Number.ofText? s with
      | none => exact .inl rfl
      | some m =>
        cases right : Number.ofText? t with
        | none => exact .inr rfl
        | some n => exact absurd right (absent m n left)
    case h_2 => cases compared

theorem compare?_of_numbers {m n : Number} (left : a.number? = some m)
    (right : b.number? = some n) : a.compare? b = m.compare? n := by
  unfold compare?
  rw [left, right]

theorem compare?_of_texts {s t : String}
    (plain : Number.ofText? s = none ∨ Number.ofText? t = none) :
    compare? (.string s) (.string t) = some (Text.compareFolded s t) := by
  unfold compare?
  rw [number?, number?]
  cases left : Number.ofText? s with
  | none => rfl
  | some m =>
    cases right : Number.ofText? t with
    | none => rfl
    | some n =>
      rcases plain with missing | missing
      · exact absurd (left.symm.trans missing) (Option.some_ne_none m)
      · exact absurd (right.symm.trans missing) (Option.some_ne_none n)

end Pairs

section Triples

/-- A text that is no numeral, between the texts of two numerals that are not in this order as
numbers. -/
inductive Wedged : Value → Value → Value → Prop
  | intro {s u t : String} {m n : Number} (first : Number.ofText? s = some m)
      (plain : Number.ofText? u = none) (last : Number.ofText? t = some n)
      (above : Text.compareFolded s u = .lt) (below : Text.compareFolded u t = .lt)
      (contrary : m.compare? n ≠ some .lt) : Wedged (.string s) (.string u) (.string t)

theorem Wedged.less (wedged : Wedged a b c) : Less a b ∧ Less b c ∧ ¬Less a c := by
  rw [less_iff, less_iff, less_iff]
  cases wedged with
  | @intro s u t m n first plain last above below contrary =>
    refine ⟨?_, ?_, ?_⟩
    · rw [compare?_of_texts (.inr plain), above]
    · rw [compare?_of_texts (.inl plain), below]
    · have numbers : compare? (.string s) (.string t) = m.compare? n :=
        compare?_of_numbers first last
      rwa [numbers]

/-- Some one of three values is wedged between the other two. -/
def Knotted (a b c : Value) : Prop := Wedged a b c ∨ Wedged b c a ∨ Wedged c a b

theorem less_asymm (ab : Less a b) : ¬Less b a := by
  intro ba
  rw [less_iff] at ab ba
  cases compared_of_compare? ab with
  | numbers left right order =>
    rw [compare?_of_numbers right left, Number.compare?_swap, order] at ba
    cases ba
  | texts plain order =>
    rw [compare?_of_texts plain.symm, Option.some.injEq, Text.compareFolded_eq_lt_iff] at ba
    exact List.lt_asymm (Text.compareFolded_eq_lt_iff.mp order) ba

/-- A step between numbers and a second step that do not make one: the second leads to a text, which
the order of texts places before the first number. -/
theorem knotted_of_numbers {l m : Number} {o : Ordering} (ofA : a.number? = some l)
    (ofB : b.number? = some m) (lm : l.compare? m = some .lt) (bc : Compared b c .lt)
    (ac : Compared a c o) (broken : a.compare? c ≠ some .lt) : Knotted a b c := by
  cases bc with
  | @numbers _ _ m' n _ ofB' ofC mn =>
    cases ofB.symm.trans ofB'
    rw [compare?_of_numbers ofA ofC] at broken
    exact absurd (Number.compare?_lt_trans lm mn) broken
  | @texts s t _ plain st =>
    have plain : Number.ofText? t = none :=
      plain.resolve_left fun missing => nomatch missing.symm.trans ofB
    cases ac with
    | numbers _ ofC => exact nomatch plain.symm.trans ofC
    | @texts r _ _ _ rt =>
      rw [compare?_of_texts (.inr plain), ne_eq, Option.some.injEq] at broken
      have below : Text.compareFolded t r = .lt :=
        (Text.compareFolded_eq_lt_iff_not (Number.folded_ne ofA plain).symm).mpr broken
      have contrary : m.compare? l ≠ some .lt := by
        rw [Number.compare?_swap, lm]
        exact nofun
      exact .inr (.inl (.intro ofB plain ofA st below contrary))

/-- A step between texts and a second step that do not make one: either the second is one between
numbers, and leads to a numeral before the text, or it leads from the text to a numeral again. -/
theorem knotted_of_texts {r s : String} {o : Ordering}
    (plain : Number.ofText? r = none ∨ Number.ofText? s = none)
    (rs : Text.compareFolded r s = .lt) (bc : Compared (.string s) c .lt)
    (ac : Compared (.string r) c o) (broken : compare? (.string r) c ≠ some .lt) :
    Knotted (.string r) (.string s) c := by
  cases bc with
  | @numbers _ _ m n _ ofB ofC mn =>
    have plain : Number.ofText? r = none :=
      plain.resolve_right fun missing => nomatch missing.symm.trans ofB
    cases ac with
    | numbers ofA _ => exact nomatch plain.symm.trans ofA
    | @texts _ t _ _ rt =>
      rw [compare?_of_texts (.inl plain), ne_eq, Option.some.injEq] at broken
      have above : Text.compareFolded t r = .lt :=
        (Text.compareFolded_eq_lt_iff_not (Number.folded_ne ofC plain)).mpr broken
      have contrary : n.compare? m ≠ some .lt := by
        rw [Number.compare?_swap, mn]
        exact nofun
      exact .inr (.inr (.intro ofC plain ofB above rs contrary))
  | @texts _ t _ _ st =>
    cases ac with
    | @numbers _ _ l n _ ofA ofC ln =>
      have plain : Number.ofText? s = none :=
        plain.resolve_left fun missing => nomatch missing.symm.trans ofA
      rw [compare?_of_numbers ofA ofC] at broken
      exact .inl (.intro ofA plain ofC rs st broken)
    | texts plain _ =>
      -- three comparisons of texts
      rw [compare?_of_texts plain, ne_eq, Option.some.injEq, Text.compareFolded_eq_lt_iff] at broken
      rw [Text.compareFolded_eq_lt_iff] at rs st
      exact absurd (List.lt_trans rs st) broken

theorem knotted_of_not_less (ab : Less a b) (bc : Less b c) (ac : Comparable a c)
    (broken : ¬Less a c) : Knotted a b c := by
  obtain ⟨o, ac⟩ := comparable_iff.mp ac
  rw [less_iff] at ab bc broken
  have bc := compared_of_compare? bc
  have ac := compared_of_compare? ac
  cases compared_of_compare? ab with
  | numbers ofA ofB lm => exact knotted_of_numbers ofA ofB lm bc ac broken
  | texts plain rs => exact knotted_of_texts plain rs bc ac broken

/-- Where `<` is defined on all pairs of three values, two steps make one if and only if none of the
three is wedged between the others; and only with one that is can the three stand in a circle. -/
theorem less_trans_iff (ab : Less a b) (bc : Less b c) (ac : Comparable a c) :
    (Less a c ↔ ¬Knotted a b c) ∧ (Less c a → Knotted a b c) := by
  refine ⟨⟨?_, ?_⟩, ?_⟩
  · rintro less (wedged | wedged | wedged)
    · exact wedged.less.2.2 less
    · exact less_asymm less wedged.less.2.1
    · exact less_asymm less wedged.less.1
  · intro free
    exact Classical.byContradiction fun broken => free (knotted_of_not_less ab bc ac broken)
  · intro circle
    exact knotted_of_not_less ab bc ac (less_asymm circle)

/-- The first two are compared as texts, and so are the second and the third, but the third and the
first as numbers. -/
theorem less_circle :
    Less (.string "10") (.string "1a") ∧ Less (.string "1a") (.string "9") ∧
      Comparable (.string "10") (.string "9") ∧ ¬Less (.string "10") (.string "9") ∧
      Less (.string "9") (.string "10") := by
  simp only [less_iff, comparable_iff]
  refine ⟨by decide +kernel, by decide +kernel, ⟨.gt, by decide +kernel⟩, by decide +kernel,
    by decide +kernel⟩

theorem less_trans_iff_ten :
    Less (.string "10") (.string "1a") ∧ Less (.string "1a") (.string "9") ∧
      Knotted (.string "10") (.string "1a") (.string "9") := by
  have first : Less (.string "10") (.string "1a") := less_iff.mpr (by decide +kernel)
  have second : Less (.string "1a") (.string "9") := less_iff.mpr (by decide +kernel)
  have circle : Less (.string "9") (.string "10") := less_iff.mpr (by decide +kernel)
  have comparable : Comparable (.string "10") (.string "9") :=
    comparable_iff.mpr ⟨.gt, by decide +kernel⟩
  exact ⟨first, second, (less_trans_iff first second comparable).2 circle⟩

end Triples

end Provision.Value
