import Provision.Text.Blank
import Provision.Text.Digits

/-!
Trimming leaves nothing of the texts that are blank, and of no others. What is left of a text has no
blank at either end, and with blanks around it is the text. A text with no blank at either end is
left as it is, and it is what is left of it when blanks are put around it.
-/

namespace Provision.Text

theorem allBlank_cons (c : Char) (cs : List Char) :
    AllBlank (c :: cs) ↔ isBlank c = true ∧ AllBlank cs := List.forall_mem_cons

theorem dropWhile_isBlank_eq_nil_iff (cs : List Char) :
    cs.dropWhile isBlank = [] ↔ AllBlank cs := by
  induction cs with
  | nil => exact iff_of_true rfl (List.forall_mem_nil _)
  | cons c rest ih =>
    rw [List.dropWhile_cons, allBlank_cons]
    split
    case isTrue blank => simp only [ih, blank, true_and]
    case isFalse dark => simp only [reduceCtorEq, dark, false_and]

theorem allBlank_trimLeft_iff (cs : List Char) : AllBlank (trimLeft cs) ↔ AllBlank cs := by
  induction cs with
  | nil => rfl
  | cons c rest ih =>
    rw [trimLeft, List.dropWhile_cons]
    split
    case isTrue blank =>
      rw [allBlank_cons, ← ih]
      simp only [blank, true_and, trimLeft]
    case isFalse => rfl

theorem trim_eq_nil_iff (cs : List Char) : trim cs = [] ↔ AllBlank cs := by
  rw [trim, trimRight, List.reverse_eq_nil_iff, dropWhile_isBlank_eq_nil_iff,
    ← allBlank_trimLeft_iff cs]
  simp only [AllBlank, List.mem_reverse]

theorem isBlank_of_isDigit {c : Char} (digit : isDigit c = true) : isBlank c = false := by
  simp only [isDigit, Bool.and_eq_true, decide_eq_true_eq, Char.le_def,
    UInt32.le_iff_toNat_le] at digit
  have low : 0x30 ≤ c.toNat := digit.1
  have high : c.toNat ≤ 0x39 := digit.2
  simp only [isBlank, Bool.or_eq_false_iff, Bool.and_eq_false_iff, decide_eq_false_iff_not,
    beq_eq_false_iff_ne]
  omega

theorem trimLeft_cons {c : Char} (dark : isBlank c = false) (cs : List Char) :
    trimLeft (c :: cs) = c :: cs := by
  rw [trimLeft, List.dropWhile_cons_of_neg (Bool.eq_false_iff.mp dark)]

/-- Neither the first nor the last character of a text is blank. -/
def IsTrimmed (cs : List Char) : Prop :=
  (∀ c ∈ cs.head?, isBlank c = false) ∧ ∀ c ∈ cs.getLast?, isBlank c = false

theorem trim_eq_self {cs : List Char} (trimmed : IsTrimmed cs) : trim cs = cs := by
  have front : ∀ {ds : List Char}, (∀ c ∈ ds.head?, isBlank c = false) → trimLeft ds = ds := by
    intro ds first
    cases ds with
    | nil => rfl
    | cons c rest => exact trimLeft_cons (first c rfl) rest
  have back : trimLeft cs.reverse = cs.reverse := by
    apply front
    rw [List.head?_reverse]
    exact trimmed.2
  rw [trim, front trimmed.1, trimRight, ← trimLeft, back, List.reverse_reverse]

theorem head?_trimLeft (cs : List Char) : ∀ c ∈ (trimLeft cs).head?, isBlank c = false := by
  intro c first
  have dark := List.head?_dropWhile_not isBlank cs
  rw [← trimLeft, Option.mem_def.mp first] at dark
  exact dark

theorem exists_blanks_behind (cs : List Char) :
    ∃ after, AllBlank after ∧ cs = trimRight cs ++ after := by
  refine ⟨(cs.reverse.takeWhile isBlank).reverse, ?_, ?_⟩
  · intro c member
    exact List.all_eq_true.mp List.all_takeWhile c (List.mem_reverse.mp member)
  · rw [trimRight, ← List.reverse_append, List.takeWhile_append_dropWhile, List.reverse_reverse]

/-- A text is what trimming leaves of it, with blanks around. -/
theorem exists_blanks_around (cs : List Char) :
    ∃ before after, AllBlank before ∧ AllBlank after ∧ cs = before ++ (trim cs ++ after) := by
  obtain ⟨after, blank, whole⟩ := exists_blanks_behind (trimLeft cs)
  refine ⟨cs.takeWhile isBlank, after, ?_, blank, ?_⟩
  · exact fun c member => List.all_eq_true.mp List.all_takeWhile c member
  · rw [trim, ← whole, trimLeft, List.takeWhile_append_dropWhile]

theorem isTrimmed_trim (cs : List Char) : IsTrimmed (trim cs) := by
  constructor
  · intro c first
    obtain ⟨after, -, whole⟩ := exists_blanks_behind (trimLeft cs)
    apply head?_trimLeft cs
    rw [whole, ← trim, List.head?_append, Option.mem_def.mp first]
    rfl
  · intro c last
    apply head?_trimLeft (trimLeft cs).reverse
    rwa [trim, trimRight, List.getLast?_reverse] at last

theorem trimLeft_append_of_allBlank {before : List Char} (blank : AllBlank before)
    (cs : List Char) : trimLeft (before ++ cs) = trimLeft cs :=
  List.dropWhile_append_of_pos blank

theorem trimRight_append_of_allBlank {after : List Char} (blank : AllBlank after)
    (cs : List Char) : trimRight (cs ++ after) = trimRight cs := by
  have reversed : AllBlank after.reverse := fun c member => blank c (List.mem_reverse.mp member)
  rw [trimRight, List.reverse_append, ← trimLeft, trimLeft_append_of_allBlank reversed]
  rfl

theorem trim_between {before cs after : List Char} (front : AllBlank before)
    (trimmed : IsTrimmed cs) (back : AllBlank after) : trim (before ++ (cs ++ after)) = cs := by
  rw [trim, trimLeft_append_of_allBlank front]
  cases cs with
  | nil =>
    have nothing : trimLeft after = [] := (dropWhile_isBlank_eq_nil_iff after).mpr back
    rw [List.nil_append, nothing]
    rfl
  | cons c rest =>
    have dark := trimmed.1 c rfl
    have unchanged := trim_eq_self trimmed
    rw [trim, trimLeft_cons dark] at unchanged
    rw [List.cons_append, trimLeft_cons dark, ← List.cons_append,
      trimRight_append_of_allBlank back, unchanged]

end Provision.Text
