import Provision.Proofs.Calendar.Weekday

/-!
The tokens of a day: its digit, or one of its spellings in any case of letters, with any blanks
around it. No token writes two days, so reading gives the one day that a token writes, and every day
is written by its own name.
-/

namespace Provision.Weekday

/-- The token writes this day. -/
def Writes (token : List Char) (d : Weekday) : Prop :=
  Text.trim token = d.digit ∨
    ∃ spelling ∈ d.spellings, Text.lowerAscii (Text.trim token) = spelling.toList

instance (token : List Char) (d : Weekday) : Decidable (Writes token d) :=
  inferInstanceAs (Decidable (_ ∨ _))

/-- What stands in a token of the day between the blanks, in lower case. -/
def forms (d : Weekday) : List (List Char) := d.digit :: d.spellings.map String.toList

variable {token : List Char} {d e : Weekday}

theorem lowerAscii_digit (d : Weekday) : Text.lowerAscii d.digit = d.digit := by
  cases d <;> rfl

theorem Writes.mem_forms (writes : Writes token d) :
    Text.lowerAscii (Text.trim token) ∈ d.forms := by
  rcases writes with digit | ⟨spelling, listed, lower⟩
  · rw [digit, lowerAscii_digit]
    exact List.mem_cons_self
  · rw [lower]
    exact List.mem_cons_of_mem _ (List.mem_map_of_mem listed)

theorem forms_disjoint : ∀ d ∈ all, ∀ e ∈ all, ∀ form ∈ d.forms, form ∈ e.forms → d = e := by
  decide

theorem Writes.unique (first : Writes token d) (second : Writes token e) : d = e :=
  forms_disjoint d d.mem_all e e.mem_all _ first.mem_forms second.mem_forms

/-- Reading looks for the first day that the token writes. -/
theorem read?_eq_find? (token : String) :
    read? token = all.find? fun d => decide (Writes token.toList d) := by
  unfold read? denotedBy?
  congr 1
  funext d
  rw [Bool.eq_iff_iff, decide_eq_true_iff, Writes]
  simp only [Bool.or_eq_true, beq_iff_eq, List.any_eq_true]

theorem read?_eq_some_iff {token : String} : read? token = some d ↔ Writes token.toList d := by
  rw [read?_eq_find?]
  constructor
  · intro found
    have written := List.find?_some found
    exact of_decide_eq_true written
  · intro writes
    cases found : all.find? fun d => decide (Writes token.toList d) with
    | none =>
      have refused := List.find?_eq_none.mp found d d.mem_all
      exact absurd (decide_eq_true writes) refused
    | some e =>
      have written := List.find?_some found
      have other : Writes token.toList e := of_decide_eq_true written
      rw [other.unique writes]

theorem writes_name (d : Weekday) : Writes d.name.toList d := by
  cases d <;> exact .inr ⟨_, List.mem_cons_self, rfl⟩

end Provision.Weekday
