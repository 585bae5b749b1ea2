import Provision.Text.Split

/-!
Cutting a text at a character: the parts are the text again with the character between them, and
they are free of it. Where the text is cut at the first occurrence only, the first part is.
-/

namespace Provision.Text

variable {sep : Char}

theorem splitFirst?_eq_some_iff {cs before after : List Char} :
    splitFirst? sep cs = some (before, after) ↔ cs = before ++ sep :: after ∧ sep ∉ before := by
  induction cs generalizing before with
  | nil => simp [splitFirst?]
  | cons c rest ih =>
    rw [splitFirst?]
    split
    case isTrue here =>
      subst here
      constructor
      · intro cut
        cases cut
        exact ⟨rfl, List.not_mem_nil⟩
      · rintro ⟨shape, free⟩
        cases before with
        | nil =>
          cases shape
          rfl
        | cons d ds =>
          cases shape
          exact absurd List.mem_cons_self free
    case isFalse elsewhere =>
      constructor
      · intro cut
        obtain ⟨⟨front, back⟩, found, same⟩ := Option.map_eq_some_iff.mp cut
        cases same
        obtain ⟨rfl, free⟩ := ih.mp found
        refine ⟨rfl, ?_⟩
        intro member
        rcases List.mem_cons.mp member with same | later
        · exact elsewhere same.symm
        · exact free later
      · rintro ⟨shape, free⟩
        cases before with
        | nil =>
          cases shape
          exact absurd rfl elsewhere
        | cons d ds =>
          cases shape
          have later : sep ∉ ds := fun member => free (List.mem_cons_of_mem _ member)
          rw [ih.mpr ⟨rfl, later⟩, Option.map_some]

section EveryOccurrence

theorem splitOn_of_free {cs : List Char} (free : sep ∉ cs) : splitOn sep cs = [cs] := by
  induction cs with
  | nil => rfl
  | cons c rest ih =>
    have other : c ≠ sep := fun same => free (same ▸ List.mem_cons_self)
    rw [splitOn, if_neg other, ih fun member => free (List.mem_cons_of_mem c member)]

theorem splitOn_append {part : List Char} (free : sep ∉ part) (rest : List Char) :
    splitOn sep (part ++ sep :: rest) = part :: splitOn sep rest := by
  induction part with
  | nil => rw [List.nil_append, splitOn, if_pos rfl]
  | cons c cs ih =>
    have other : c ≠ sep := fun same => free (same ▸ List.mem_cons_self)
    rw [List.cons_append, splitOn, if_neg other,
      ih fun member => free (List.mem_cons_of_mem c member)]

theorem splitOn_parts (sep : Char) (cs : List Char) :
    splitOn sep cs ≠ [] ∧ (∀ part ∈ splitOn sep cs, sep ∉ part) ∧
      [sep].intercalate (splitOn sep cs) = cs := by
  induction cs with
  | nil => simp [splitOn]
  | cons c rest ih =>
    obtain ⟨nonempty, free, joined⟩ := ih
    rw [splitOn]
    generalize splitOn sep rest = parts at nonempty free joined
    split
    case isTrue here =>
      refine ⟨List.cons_ne_nil _ _, ?_, ?_⟩
      · rintro part (_ | ⟨_, member⟩)
        · exact List.not_mem_nil
        · exact free part member
      · rw [here, ← joined]
        cases parts with
        | nil => exact absurd rfl nonempty
        | cons part parts => simp
    case isFalse elsewhere =>
      cases parts with
      | nil => exact absurd rfl nonempty
      | cons front parts =>
        refine ⟨List.cons_ne_nil _ _, ?_, ?_⟩
        · rintro part (_ | ⟨_, member⟩)
          · rintro (_ | ⟨_, later⟩)
            · exact elsewhere rfl
            · exact free front List.mem_cons_self later
          · exact free part (List.mem_cons_of_mem _ member)
        · rw [← joined]
          cases parts <;> simp

/-- The parts are the only pieces free of the character that make up the text. -/
theorem splitOn_eq_iff {cs : List Char} {parts : List (List Char)} :
    splitOn sep cs = parts ↔
      parts ≠ [] ∧ (∀ part ∈ parts, sep ∉ part) ∧ [sep].intercalate parts = cs := by
  constructor
  · rintro rfl
    exact splitOn_parts sep cs
  · rintro ⟨nonempty, free, rfl⟩
    induction parts with
    | nil => exact absurd rfl nonempty
    | cons part parts ih =>
      have first := free part List.mem_cons_self
      cases parts with
      | nil => simpa using splitOn_of_free first
      | cons next parts =>
        have later := ih (List.cons_ne_nil _ _)
          fun part member => free part (List.mem_cons_of_mem _ member)
        rw [List.intercalate_cons_cons, List.append_assoc, List.singleton_append,
          splitOn_append first, later]

end EveryOccurrence

end Provision.Text
