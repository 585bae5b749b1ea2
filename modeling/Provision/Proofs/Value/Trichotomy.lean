import Provision.Proofs.Value.Equality
import Provision.Proofs.Value.Order

/-!
Equality and the four comparisons of two values are computed apart from each other, but they never
disagree. Either no comparison of the two is defined, in whichever order they stand, or the two are
in exactly one of three orders, and all the operators say what that order says.
-/

namespace Provision.Value

variable {a b : Value} {o : Ordering}

section Pairs

theorem compare?_of_compared (compared : Compared a b o) : a.compare? b = some o := by
  cases compared with
  | numbers left right order => rw [compare?_of_numbers left right, order]
  | texts plain order => rw [compare?_of_texts plain, order]

theorem Compared.symm (compared : Compared a b o) : Compared b a o.swap := by
  cases compared with
  | numbers left right order =>
    apply Compared.numbers right left
    rw [Number.compare?_swap, order, Option.map_some]
  | @texts s t _ plain order =>
    apply Compared.texts plain.symm
    rw [Text.compareFolded_swap, order]

/-- Turned round, two values compare the other way round, or not at all as before. -/
theorem compare?_swap (a b : Value) : b.compare? a = (a.compare? b).map Ordering.swap := by
  cases forth : a.compare? b with
  | some o => exact compare?_of_compared (compared_of_compare? forth).symm
  | none =>
    cases back : b.compare? a with
    | none => rfl
    | some o =>
      have defined := compare?_of_compared (compared_of_compare? back).symm
      rw [forth] at defined
      contradiction

theorem equal_of_texts {s t : String}
    (plain : Number.ofText? s = none ∨ Number.ofText? t = none) :
    equal (.string s) (.string t) = Text.sameButCase s t := by
  unfold equal
  rw [number?, number?]
  cases left : Number.ofText? s with
  | none => rfl
  | some m =>
    have defined : Number.ofText? s ≠ none := by
      rw [left]
      exact Option.some_ne_none m
    rw [plain.resolve_left defined]

/-- Where two values have an order, equality is one of its three cases. -/
theorem equal_of_compare? (compared : a.compare? b = some o) : a.equal b = (o == .eq) := by
  cases compared_of_compare? compared with
  | numbers left right order =>
    rw [equal_of_numbers left right, Bool.eq_iff_iff, Number.equal_iff, order, Option.some_inj,
      beq_iff_eq]
  | @texts s t _ plain order =>
    rw [equal_of_texts plain, Bool.eq_iff_iff, beq_iff_eq, ← order, Text.compareFolded_eq_eq_iff]
    exact beq_iff_eq

end Pairs

section Operators

/-- Every comparison of the two values, in this order, is refused for their kinds. -/
def Unordered (a b : Value) : Prop :=
  ∀ c : Comparison,
    applyBinary (.compare c) a b = .error (.typeMismatch (.compare c) a.kind b.kind)

/-- All operators say of the two values that they stand in this order. -/
structure Ranked (a b : Value) (o : Ordering) : Prop where
  less : applyBinary (.compare .less) a b = .ok (.boolean (o == .lt))
  equal : applyBinary .equal a b = .ok (.boolean (o == .eq))
  greater : applyBinary (.compare .greater) a b = .ok (.boolean (o == .gt))
  lessEqual : applyBinary (.compare .lessEqual) a b = .ok (.boolean (o == .lt || o == .eq))
  greaterEqual : applyBinary (.compare .greaterEqual) a b = .ok (.boolean (o == .gt || o == .eq))

theorem unordered_of_compare? (missing : a.compare? b = none) : Unordered a b := by
  intro c
  rw [applyBinary, missing]

theorem ranked_of_compare? (compared : a.compare? b = some o) : Ranked a b o := by
  have holds : ∀ c : Comparison, applyBinary (.compare c) a b = .ok (.boolean (c.holds o)) := by
    intro c
    rw [applyBinary, compared]
  constructor
  · exact holds .less
  · rw [applyBinary, equal_of_compare? compared]
  · exact holds .greater
  · rw [holds .lessEqual]
    cases o <;> rfl
  · rw [holds .greaterEqual]
    cases o <;> rfl

/-- Of two values either no comparison is defined, in either order of the two, or they stand in one
of three orders: the first is less, or they are equal, or the first is greater. The operators agree
on which of these it is, and on its reverse when the values are exchanged. -/
theorem unordered_or_ranked (a b : Value) :
    (Unordered a b ∧ Unordered b a) ∨ ∃ o : Ordering, Ranked a b o ∧ Ranked b a o.swap := by
  have back := compare?_swap a b
  cases forth : a.compare? b with
  | none =>
    rw [forth] at back
    left
    exact ⟨unordered_of_compare? forth, unordered_of_compare? back⟩
  | some o =>
    rw [forth] at back
    right
    exact ⟨o, ranked_of_compare? forth, ranked_of_compare? back⟩

end Operators

end Provision.Value
