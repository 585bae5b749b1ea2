import Provision.Command.Eval
import Provision.Proofs.Text.Blank
import Provision.Proofs.Text.Split

/-!
Names of bindings read a second time. A binding takes from its name the blanks around it and then
the dollar signs in front, once and in this order. So a name that was read is read as itself but for
one case: a blank that stood behind the dollar signs comes to the front of the name, and the second
reading takes it away.
-/

namespace Provision.Command

open Text (AllBlank IsTrimmed isBlank trim)

/-- A blank follows the dollar signs in front. -/
def HasBlankBehindDollars (cs : List Char) : Prop :=
  ∃ blanks dollars c rest, cs = blanks ++ (dollars ++ c :: rest) ∧ AllBlank blanks ∧
    dollars ≠ [] ∧ (∀ d ∈ dollars, d = '$') ∧ isBlank c = true

section Characters

variable {cs : List Char}

theorem head?_bindingName_ne (cs : List Char) : (bindingName cs).head? ≠ some '$' := by
  intro first
  have other := List.head?_dropWhile_not (· == '$') (trim cs)
  rw [← bindingName, first] at other
  cases other

/-- A text is dollar signs and the name, with blanks around. -/
theorem exists_name_parts (cs : List Char) : ∃ blanks dollars after,
    AllBlank blanks ∧ (∀ d ∈ dollars, d = '$') ∧ AllBlank after ∧
      trim cs = dollars ++ bindingName cs ∧
      cs = blanks ++ (dollars ++ (bindingName cs ++ after)) := by
  obtain ⟨blanks, after, front, back, whole⟩ := Text.exists_blanks_around cs
  have cut : trim cs = (trim cs).takeWhile (· == '$') ++ bindingName cs :=
    List.takeWhile_append_dropWhile.symm
  refine ⟨blanks, (trim cs).takeWhile (· == '$'), after, front, ?_, back, cut, ?_⟩
  · exact fun d member => eq_of_beq (List.all_eq_true.mp List.all_takeWhile d member)
  · rw [← List.append_assoc _ (bindingName cs), ← cut, ← whole]

theorem bindingName_eq_self_iff :
    bindingName cs = cs ↔ IsTrimmed cs ∧ cs.head? ≠ some '$' := by
  constructor
  · intro same
    obtain ⟨blanks, dollars, after, -, -, -, trimmed, whole⟩ := exists_name_parts cs
    rw [same] at trimmed whole
    have lengths := congrArg List.length whole
    simp only [List.length_append] at lengths
    have none : dollars = [] := List.eq_nil_of_length_eq_zero (by omega)
    rw [none, List.nil_append] at trimmed
    exact ⟨trimmed ▸ Text.isTrimmed_trim cs, same ▸ head?_bindingName_ne cs⟩
  · rintro ⟨trimmed, noDollar⟩
    rw [bindingName, Text.trim_eq_self trimmed]
    cases cs with
    | nil => rfl
    | cons c rest =>
      apply List.dropWhile_cons_of_neg
      rintro dollar
      exact noDollar (congrArg some (eq_of_beq dollar))

theorem dropWhile_dollars {dollars : List Char} (signs : ∀ d ∈ dollars, d = '$') {c : Char}
    (other : c ≠ '$') (rest : List Char) :
    (dollars ++ c :: rest).dropWhile (· == '$') = c :: rest := by
  rw [List.dropWhile_append_of_pos fun d member => beq_iff_eq.mpr (signs d member)]
  exact List.dropWhile_cons_of_neg fun dollar => other (eq_of_beq dollar)

theorem ne_dollar_of_isBlank {c : Char} (blank : isBlank c = true) : c ≠ '$' := by
  rintro rfl
  contradiction

/-- The last character of a name is never blank, and the first one is in one case only. -/
theorem isTrimmed_bindingName_iff (nonempty : bindingName cs ≠ []) :
    IsTrimmed (bindingName cs) ↔ ¬HasBlankBehindDollars cs := by
  obtain ⟨blanks, dollars, after, front, signs, -, trimmed, whole⟩ := exists_name_parts cs
  have noDollar := head?_bindingName_ne cs
  obtain ⟨c, rest, name⟩ := List.exists_cons_of_ne_nil nonempty
  rw [name] at noDollar trimmed whole ⊢
  constructor
  · rintro ⟨first, -⟩ ⟨blanks', dollars', b, rest', shape, front', some', signs', blank⟩
    obtain ⟨d, ds, rfl⟩ := List.exists_cons_of_ne_nil some'
    have dark : isBlank d = false := signs' d List.mem_cons_self ▸ rfl
    have left : Text.trimLeft cs = d :: ds ++ b :: rest' := by
      rw [shape, Text.trimLeft_append_of_allBlank front', List.cons_append,
        Text.trimLeft_cons dark]
    obtain ⟨after', -, behind⟩ := Text.exists_blanks_behind (Text.trimLeft cs)
    rw [← trim, trimmed, left, List.append_assoc] at behind
    -- Behind the dollar signs both cuts go on alike.
    have same := congrArg (List.dropWhile (· == '$')) behind
    rw [dropWhile_dollars signs' (ne_dollar_of_isBlank blank), List.cons_append,
      dropWhile_dollars signs fun dollar => noDollar (congrArg some dollar)] at same
    rw [(List.cons.inj same).1, first c rfl] at blank
    cases blank
  · intro plain
    have ends := Text.isTrimmed_trim cs
    rw [trimmed] at ends
    constructor
    · rintro _ ⟨⟩
      rw [Bool.eq_false_iff]
      intro blank
      refine plain ⟨blanks, dollars, c, rest ++ after, whole, front, ?_, signs, blank⟩
      rintro rfl
      rw [ends.1 c rfl] at blank
      cases blank
    · intro d last
      apply ends.2
      rw [List.getLast?_append, Option.mem_def.mp last]
      rfl

end Characters

section Arguments

variable {name before raw : String} {v : Value}

/-- The arguments that are accepted, and what is read from them. -/
theorem readBinding_eq_ok_iff (free : '=' ∉ before.toList) :
    readBinding (before ++ "=" ++ raw) = .ok (name, v) ↔
      name ≠ "" ∧ bindingName before.toList = name.toList ∧ bindingValue raw.toList = v := by
  have chars : (before ++ "=" ++ raw).toList = before.toList ++ '=' :: raw.toList := by simp
  have cut : Text.splitFirst? '=' (before ++ "=" ++ raw).toList =
      some (before.toList, raw.toList) := Text.splitFirst?_eq_some_iff.mpr ⟨chars, free⟩
  have empty_iff : name.toList.isEmpty = true ↔ name = "" := by
    rw [List.isEmpty_iff, String.toList_eq_nil_iff]
  simp only [readBinding, cut]
  constructor
  · intro accepted
    split at accepted
    case isTrue => cases accepted
    case isFalse nonempty =>
      cases accepted
      rw [String.toList_ofList] at empty_iff
      exact ⟨mt empty_iff.mpr nonempty, String.toList_ofList.symm, rfl⟩
  · rintro ⟨nonempty, same, rfl⟩
    rw [same, if_neg (mt empty_iff.mp nonempty), String.ofList_toList]

/-- Every argument that is accepted can be cut in this way. -/
theorem exists_equals_of_readBinding {text : String}
    (accepted : readBinding text = .ok (name, v)) :
    ∃ before raw : String, text = before ++ "=" ++ raw ∧ '=' ∉ before.toList := by
  rw [readBinding] at accepted
  split at accepted
  case h_1 => cases accepted
  case h_2 before raw cut =>
    obtain ⟨chars, free⟩ := Text.splitFirst?_eq_some_iff.mp cut
    refine ⟨String.ofList before, String.ofList raw, ?_, by rwa [String.toList_ofList]⟩
    rw [← String.toList_inj, chars]
    simp

/-- Of an argument cut at its first equals sign: what is read as the name is not empty and has no
equals sign, and in its place it is read as the same name with the same value, unless a blank
followed the dollar signs in front of it. -/
theorem readBinding_again (free : '=' ∉ before.toList)
    (accepted : readBinding (before ++ "=" ++ raw) = .ok (name, v)) :
    name ≠ "" ∧ '=' ∉ name.toList ∧
      (readBinding (name ++ "=" ++ raw) = .ok (name, v) ↔
        ¬HasBlankBehindDollars before.toList) := by
  obtain ⟨nonempty, same, value⟩ := (readBinding_eq_ok_iff free).mp accepted
  have freeName : '=' ∉ name.toList := by
    obtain ⟨blanks, dollars, after, -, -, -, -, whole⟩ := exists_name_parts before.toList
    rw [whole, same] at free
    intro member
    exact free (by simp [member])
  refine ⟨nonempty, freeName, ?_⟩
  have nonemptyChars : bindingName before.toList ≠ [] := by
    rw [same, Ne, String.toList_eq_nil_iff]
    exact nonempty
  rw [readBinding_eq_ok_iff freeName, ← isTrimmed_bindingName_iff nonemptyChars,
    bindingName_eq_self_iff, ← same]
  simp only [ne_eq, nonempty, not_false_eq_true, head?_bindingName_ne, value, true_and, and_true]

/-- Blanks around the name and two dollar signs in front, but no blank behind these. -/
theorem readBinding_again_os :
    '=' ∉ "\u2003$$os ".toList ∧
      readBinding ("\u2003$$os " ++ "=" ++ "a=b") = .ok ("os", .string "a=b") ∧
      ¬HasBlankBehindDollars "\u2003$$os ".toList ∧
        readBinding ("os" ++ "=" ++ "a=b") = .ok ("os", .string "a=b") := by
  have free : '=' ∉ "\u2003$$os ".toList := by decide
  have accepted : readBinding ("\u2003$$os " ++ "=" ++ "a=b") = .ok ("os", .string "a=b") := rfl
  have inner : bindingName "\u2003$$os ".toList = ['o', 's'] := rfl
  have trimmed : IsTrimmed ['o', 's'] := by constructor <;> simp [isBlank]
  have plain : ¬HasBlankBehindDollars "\u2003$$os ".toList :=
    (isTrimmed_bindingName_iff (inner ▸ List.cons_ne_nil _ _)).mp (inner ▸ trimmed)
  exact ⟨free, accepted, plain, (readBinding_again free accepted).2.2.mpr plain⟩

/-- The blank behind the dollar sign stays in the name and is lost when the name is read again;
where only a dollar sign is left behind it, the second reading is refused. -/
theorem readBinding_blank_behind_dollar :
    readBinding "$ x=1" = .ok (" x", .integer 1) ∧ readBinding " x=1" = .ok ("x", .integer 1) ∧
      readBinding "$ $=1" = .ok (" $", .integer 1) ∧
        readBinding " $=1" = .error (.noName " $=1") :=
  ⟨rfl, rfl, rfl, rfl⟩

end Arguments

end Provision.Command
