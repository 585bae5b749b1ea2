import Provision.Proofs.Calendar.TimeOfDay
import Provision.Schedule.Basic

/-!
The texts of a window of the day. A text either writes two times with a dash between them, and then
they are a window or stand in the wrong order, or it is no window at all; each refusal quotes the
text as it was given.
-/

namespace Provision

namespace Window

/-- The text writes these two times, one before its first dash and one after it, each of them with
any blanks around it. -/
def Writes (text : List Char) (start stop : TimeOfDay) : Prop :=
  ∃ before after, text = before ++ '-' :: after ∧ '-' ∉ before ∧
    TimeOfDay.Writes (Text.trim before) start ∧ TimeOfDay.Writes (Text.trim after) stop

variable {text : List Char} {start stop : TimeOfDay}

theorem Writes.read_parts {before after : List Char} (writes : Writes text start stop)
    (cut : Text.splitFirst? '-' text = some (before, after)) :
    TimeOfDay.read before = .ok start ∧ TimeOfDay.read after = .ok stop := by
  obtain ⟨before', after', shape, free, first, second⟩ := writes
  cases cut.symm.trans (Text.splitFirst?_eq_some_iff.mpr ⟨shape, free⟩)
  exact ⟨TimeOfDay.read_eq_ok_iff.mpr first, TimeOfDay.read_eq_ok_iff.mpr second⟩

theorem Writes.exists_cut (writes : Writes text start stop) :
    ∃ before after, Text.splitFirst? '-' text = some (before, after) := by
  obtain ⟨before, after, shape, free, -⟩ := writes
  exact ⟨before, after, Text.splitFirst?_eq_some_iff.mpr ⟨shape, free⟩⟩

theorem read_of_writes (writes : Writes text start stop) :
    read text =
      if stop.seconds < start.seconds then .error (.inverted start stop)
      else .ok ⟨start, stop⟩ := by
  obtain ⟨before, after, cut⟩ := writes.exists_cut
  obtain ⟨first, second⟩ := writes.read_parts cut
  simp only [read, cut, first, second]

theorem read_of_not_writes (other : ∀ start stop, ¬Writes text start stop) :
    read text = .error .noDash ∨ ∃ fault, read text = .error (.time fault) := by
  unfold read
  cases cut : Text.splitFirst? '-' text with
  | none => exact .inl rfl
  | some parts =>
    obtain ⟨before, after⟩ := parts
    right
    dsimp only
    cases first : TimeOfDay.read before with
    | error fault => exact ⟨fault, rfl⟩
    | ok start =>
      cases second : TimeOfDay.read after with
      | error fault => exact ⟨fault, rfl⟩
      | ok stop =>
        obtain ⟨shape, free⟩ := Text.splitFirst?_eq_some_iff.mp cut
        exact absurd ⟨before, after, shape, free, TimeOfDay.read_eq_ok_iff.mp first,
          TimeOfDay.read_eq_ok_iff.mp second⟩ (other start stop)

theorem writes_text (w : Window) : Writes w.text.toList w.start w.stop := by
  have nothing : Text.AllBlank [] := List.forall_mem_nil _
  have space : Text.AllBlank [' '] := List.forall_mem_singleton.mpr rfl
  have first : Text.trim (w.start.chars ++ [' ']) = w.start.chars :=
    Text.trim_between nothing w.start.isTrimmed_chars space
  have second : Text.trim (' ' :: w.stop.chars) = w.stop.chars := by
    simpa using Text.trim_between space w.stop.isTrimmed_chars nothing
  refine ⟨w.start.chars ++ [' '], ' ' :: w.stop.chars, ?_, ?_, ?_, ?_⟩
  · simp [text, chars]
  · simp [w.start.dash_not_mem_chars]
  · rw [first]
    exact w.start.writes_chars
  · rw [second]
    exact w.stop.writes_chars

end Window

namespace Schedule

variable {s : String} {start stop : TimeOfDay}

theorem window_of_writes (writes : Window.Writes s.toList start stop) :
    window s =
      if stop.seconds < start.seconds then .error (.invertedWindow s start stop)
      else .ok ⟨start, stop⟩ := by
  rw [window, Window.read_of_writes writes]
  by_cases turned : stop.seconds < start.seconds
  · simp only [if_pos turned]
  · simp only [if_neg turned]

theorem window_of_not_writes (other : ∀ start stop, ¬Window.Writes s.toList start stop) :
    ∃ fault, window s = .error (.invalidWindow s fault) := by
  unfold window
  rcases Window.read_of_not_writes other with read | ⟨fault, read⟩
  · exact ⟨none, by rw [read]⟩
  · exact ⟨some fault, by rw [read]⟩

theorem window_eq_ok_iff {w : Window} :
    window s = .ok w ↔
      Window.Writes s.toList w.start w.stop ∧ w.start.seconds ≤ w.stop.seconds := by
  constructor
  · intro read
    by_cases written : ∃ start stop, Window.Writes s.toList start stop
    · obtain ⟨start, stop, writes⟩ := written
      rw [window_of_writes writes] at read
      split at read
      case isTrue => cases read
      case isFalse ordered =>
        cases read
        exact ⟨writes, Nat.not_lt.mp ordered⟩
    · obtain ⟨fault, refused⟩ := window_of_not_writes
        fun start stop writes => written ⟨start, stop, writes⟩
      cases refused.symm.trans read
  · rintro ⟨writes, ordered⟩
    rw [window_of_writes writes, if_neg (Nat.not_lt.mpr ordered)]

theorem window_eq_inverted_iff {text : String} :
    window s = .error (.invertedWindow text start stop) ↔
      text = s ∧ Window.Writes s.toList start stop ∧ stop.seconds < start.seconds := by
  constructor
  · intro refused
    by_cases written : ∃ start stop, Window.Writes s.toList start stop
    · obtain ⟨start', stop', writes⟩ := written
      rw [window_of_writes writes] at refused
      split at refused
      case isTrue turned =>
        cases refused
        exact ⟨rfl, writes, turned⟩
      case isFalse => cases refused
    · obtain ⟨fault, refused'⟩ := window_of_not_writes
        fun start stop writes => written ⟨start, stop, writes⟩
      cases refused'.symm.trans refused
  · rintro ⟨rfl, writes, turned⟩
    rw [window_of_writes writes, if_pos turned]

theorem window_eq_invalid_iff {text : String} :
    (∃ fault, window s = .error (.invalidWindow text fault)) ↔
      text = s ∧ ∀ start stop, ¬Window.Writes s.toList start stop := by
  constructor
  · rintro ⟨fault, refused⟩
    have other : ∀ start stop, ¬Window.Writes s.toList start stop := by
      intro start stop writes
      rw [window_of_writes writes] at refused
      split at refused <;> cases refused
    obtain ⟨fault', refused'⟩ := window_of_not_writes other
    cases refused.symm.trans refused'
    exact ⟨rfl, other⟩
  · rintro ⟨rfl, other⟩
    exact window_of_not_writes other

/-- A text is read as a window just when it writes two times in their order; it is refused with the
two times just when they are in the wrong order; and it is refused as no window in every other case.
The refusals quote the text unchanged. -/
theorem window_outcome (s : String) :
    (∀ w, window s = .ok w ↔
      Window.Writes s.toList w.start w.stop ∧ w.start.seconds ≤ w.stop.seconds) ∧
    (∀ text start stop, window s = .error (.invertedWindow text start stop) ↔
      text = s ∧ Window.Writes s.toList start stop ∧ stop.seconds < start.seconds) ∧
    ∀ text, (∃ fault, window s = .error (.invalidWindow text fault)) ↔
      text = s ∧ ∀ start stop, ¬Window.Writes s.toList start stop :=
  ⟨fun _ => window_eq_ok_iff, fun _ _ _ => window_eq_inverted_iff, fun _ => window_eq_invalid_iff⟩

end Schedule

end Provision
