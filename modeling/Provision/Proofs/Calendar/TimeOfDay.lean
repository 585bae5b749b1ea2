import Provision.Calendar.TimeOfDay
import Provision.Proofs.Text.Blank
import Provision.Proofs.Text.Digits
import Provision.Proofs.Text.Split

/-!
The texts of a time of day. Reading accepts exactly the texts that write a time as one to three
numbers with colons between them, and gives the time that is written. The text that a time is shown
by is one of them.
-/

namespace Provision.TimeOfDay

/-- Runs of digits that write the hour, the minute and the second, of which the minute and the
second may be missing and are then zero. There may be any number of zeros in front. -/
structure WrittenBy (t : TimeOfDay) (components : List (List Char)) : Prop where
  nonempty : components ≠ []
  atMostThree : components.length ≤ 3
  digits : ∀ ds ∈ components, Text.isDigits ds = true
  hour : Text.ofDigits (components.getD 0 []) = t.hour
  minute : Text.ofDigits (components.getD 1 []) = t.minute
  second : Text.ofDigits (components.getD 2 []) = t.second

/-- The text writes this time, with a colon between one number and the next. -/
def Writes (text : List Char) (t : TimeOfDay) : Prop :=
  ∃ components, t.WrittenBy components ∧ text = [':'].intercalate components

variable {text : List Char} {components : List (List Char)} {t : TimeOfDay}

/-- A reader with a fault in front reads on just when the fault does not apply. -/
theorem unless_eq_ok_iff {α : Type} {fails : Prop} [Decidable fails] {fault : Fault}
    {rest : Except Fault α} {a : α} :
    (if fails then .error fault else rest) = .ok a ↔ ¬fails ∧ rest = .ok a := by
  split
  case isTrue bad => exact iff_of_false nofun fun good => good.1 bad
  case isFalse good => exact (and_iff_right good).symm

theorem numbers_of_small
    (small : ∀ ds ∈ components, Text.isDigits ds = true ∧ Text.ofDigits ds < 256) :
    numbers text components = .ok (components.map Text.ofDigits) := by
  induction components with
  | nil => rfl
  | cons ds rest ih =>
    obtain ⟨digits, below⟩ := small ds List.mem_cons_self
    have others := ih fun es member => small es (List.mem_cons_of_mem ds member)
    rw [numbers, digits, if_neg (by decide), if_neg (Nat.not_le.mpr below), others]
    rfl

theorem of_numbers {ns : List Nat} (read : numbers text components = .ok ns) :
    (∀ ds ∈ components, Text.isDigits ds = true) ∧ ns = components.map Text.ofDigits := by
  induction components generalizing ns with
  | nil =>
    cases read
    exact ⟨nofun, rfl⟩
  | cons ds rest ih =>
    rw [numbers, unless_eq_ok_iff, unless_eq_ok_iff] at read
    obtain ⟨digits, -, read⟩ := read
    rw [Bool.not_eq_true, Bool.not_eq_false'] at digits
    cases others : numbers text rest with
    | error fault =>
      rw [others] at read
      cases read
    | ok ms =>
      rw [others] at read
      cases read
      obtain ⟨each, rfl⟩ := ih others
      exact ⟨List.forall_mem_cons.mpr ⟨digits, each⟩, rfl⟩

theorem ofParts?_eq_some_iff {hour minute second : Nat} :
    ofParts? hour minute second = some t ↔
      hour = t.hour ∧ minute = t.minute ∧ second = t.second := by
  unfold ofParts?
  split
  case isTrue bounded =>
    rw [Option.some.injEq]
    constructor
    · rintro rfl
      exact ⟨rfl, rfl, rfl⟩
    · rintro ⟨rfl, rfl, rfl⟩
      rfl
  case isFalse outside =>
    refine iff_of_false nofun ?_
    rintro ⟨rfl, rfl, rfl⟩
    exact outside ⟨t.hour.isLt, t.minute.isLt, t.second.isLt⟩

/-- No component of a time reaches 256, the first number that is refused as a component. -/
theorem WrittenBy.ofDigits_lt (written : t.WrittenBy components) {ds : List Char}
    (member : ds ∈ components) : Text.ofDigits ds < 256 := by
  obtain ⟨i, inside, rfl⟩ := List.getElem_of_mem member
  have count := written.atMostThree
  have here : components.getD i [] = components[i] := by simp [inside]
  rw [← here]
  have place : i = 0 ∨ i = 1 ∨ i = 2 := by omega
  rcases place with rfl | rfl | rfl
  · rw [written.hour]
    omega
  · rw [written.minute]
    omega
  · rw [written.second]
    omega

theorem getD_map_ofDigits (i : Nat) :
    (components.map Text.ofDigits).getD i 0 = Text.ofDigits (components.getD i []) := by
  rw [List.getD_eq_getElem?_getD, List.getD_eq_getElem?_getD, List.getElem?_map]
  cases components[i]? <;> rfl

theorem Writes.of_readTrimmed (read : readTrimmed text = .ok t) : Writes text t := by
  obtain ⟨nonempty, -, joined⟩ := Text.splitOn_parts ':' text
  unfold readTrimmed at read
  generalize Text.splitOn ':' text = components at read nonempty joined
  obtain ⟨few, read⟩ := unless_eq_ok_iff.mp read
  cases numbered : numbers text components with
  | error fault =>
    rw [numbered] at read
    cases read
  | ok ns =>
    obtain ⟨digits, rfl⟩ := of_numbers numbered
    rw [numbered] at read
    simp only [bind, Except.bind, getD_map_ofDigits, unless_eq_ok_iff] at read
    obtain ⟨-, -, -, read⟩ := read
    split at read
    case h_1 made =>
      cases read
      obtain ⟨hour, minute, second⟩ := ofParts?_eq_some_iff.mp made
      exact ⟨components, ⟨nonempty, Nat.not_lt.mp few, digits, hour, minute, second⟩, joined.symm⟩
    case h_2 => cases read

theorem readTrimmed_of_writes (writes : Writes text t) : readTrimmed text = .ok t := by
  obtain ⟨components, written, rfl⟩ := writes
  have free : ∀ ds ∈ components, ':' ∉ ds := by
    intro ds member colon
    have digit := (Text.isDigits_iff.mp (written.digits ds member)).2 ':' colon
    contradiction
  have cut := Text.splitOn_eq_iff.mpr ⟨written.nonempty, free, rfl⟩
  have numbered : numbers ([':'].intercalate components) components = .ok _ :=
    numbers_of_small fun ds member => ⟨written.digits ds member, written.ofDigits_lt member⟩
  have made := ofParts?_eq_some_iff.mpr ⟨written.hour, written.minute, written.second⟩
  unfold readTrimmed
  rw [cut]
  dsimp only
  rw [if_neg (Nat.not_lt.mpr written.atMostThree), numbered]
  simp only [bind, Except.bind, getD_map_ofDigits, written.hour, written.minute, written.second,
    Nat.not_le.mpr (Fin.isLt _), if_false] at made ⊢
  rw [made]

theorem readTrimmed_eq_ok_iff : readTrimmed text = .ok t ↔ Writes text t :=
  ⟨Writes.of_readTrimmed, readTrimmed_of_writes⟩

theorem read_eq_ok_iff : read text = .ok t ↔ Writes (Text.trim text) t := readTrimmed_eq_ok_iff

section Shown

open Text (Written paddedDigits written_of_lt)

variable (t : TimeOfDay)

theorem written_hour : Written 2 (paddedDigits 2 t.hour) t.hour :=
  written_of_lt (by decide) (Nat.lt_trans t.hour.isLt (by decide))

theorem written_minute : Written 2 (paddedDigits 2 t.minute) t.minute :=
  written_of_lt (by decide) (Nat.lt_trans t.minute.isLt (by decide))

theorem written_second : Written 2 (paddedDigits 2 t.second) t.second :=
  written_of_lt (by decide) (Nat.lt_trans t.second.isLt (by decide))

theorem writtenBy_chars :
    t.WrittenBy [paddedDigits 2 t.hour, paddedDigits 2 t.minute, paddedDigits 2 t.second] := by
  refine ⟨List.cons_ne_nil _ _, Nat.le_refl 3, ?_, ?_, ?_, ?_⟩
  · intro ds member
    simp only [List.mem_cons, List.not_mem_nil, or_false] at member
    rcases member with rfl | rfl | rfl
    · exact t.written_hour.isDigits (by decide)
    · exact t.written_minute.isDigits (by decide)
    · exact t.written_second.isDigits (by decide)
  · exact t.written_hour.value
  · exact t.written_minute.value
  · exact t.written_second.value

theorem writes_chars : Writes t.chars t := by
  refine ⟨_, t.writtenBy_chars, ?_⟩
  simp [chars]

theorem digit_or_colon_of_mem_chars {c : Char} (member : c ∈ t.chars) :
    Text.isDigit c = true ∨ c = ':' := by
  simp only [chars, List.mem_append, List.mem_cons] at member
  rcases member with hour | rfl | minute | rfl | second
  · exact .inl (t.written_hour.digits c hour)
  · exact .inr rfl
  · exact .inl (t.written_minute.digits c minute)
  · exact .inr rfl
  · exact .inl (t.written_second.digits c second)

theorem dash_not_mem_chars : '-' ∉ t.chars := by
  intro dash
  rcases t.digit_or_colon_of_mem_chars dash with digit | colon
  · contradiction
  · contradiction

theorem isTrimmed_chars : Text.IsTrimmed t.chars := by
  have dark : ∀ c ∈ t.chars, Text.isBlank c = false := by
    intro c member
    rcases t.digit_or_colon_of_mem_chars member with digit | rfl
    · exact Text.isBlank_of_isDigit digit
    · decide
  exact ⟨fun c first => dark c (List.mem_of_mem_head? first),
    fun c last => dark c (List.mem_of_mem_getLast? last)⟩

end Shown

end Provision.TimeOfDay
