import Provision.Proofs.Config.Layers
import Provision.Proofs.Schedule.Attributes

/-!
What every schedule keeps to, however it came about: whether it was made from attributes, is built
in, or stands in the book of a configuration. The period is divided by at least one run, and by more
than one only where distance counts; windows do not end before they start; and a set of days has a
day in it. So a decision never divides by zero, and no window and no set of days is empty.
-/

namespace Provision

namespace TimeOfDay

/-- Times with parts that a clock shows. -/
def OnClock (t : TimeOfDay) : Prop := t.hour.val < 24 ∧ t.minute.val < 60 ∧ t.second.val < 60

theorem onClock (t : TimeOfDay) : t.OnClock := ⟨t.hour.isLt, t.minute.isLt, t.second.isLt⟩

end TimeOfDay

namespace Schedule

/-- Division without a result where the divisor is zero. -/
def divide? (n d : Nat) : Option Nat := if d = 0 then none else some (n / d)

/-- The period filter, which has no verdict where it would divide by zero. -/
def periodPasses? (s : Schedule) (previous : Instant) (now : Moment) : Option Bool :=
  match s.period.bind Period.seconds?, s.periodMatch with
  | some length, .distance =>
    (divide? length s.runs).map fun (spacing : Nat) =>
      decide ((spacing : Int) ≤ now.instant.seconds - previous.seconds)
  | _, _ => some (s.periodPasses previous now)

/-- The decision, which is not reached where it would divide by zero. -/
def allows? (s : Schedule) (previous : Instant) (now : Moment) : Option Bool :=
  (s.periodPasses? previous now).map fun period =>
    Report.passes ⟨period, s.windowPasses now, s.weekdayPasses now⟩

/-- The schedules that can come about. -/
inductive Produced : Schedule → Prop
  | ofAttributes {name : String} {a : Attributes} {s : Schedule}
      (accepted : ofAttributes name a = .ok s) : Produced s
  | unrestricted (name : String) : Produced (unrestricted name)
  | builtin {s : Schedule} (member : s ∈ builtins) : Produced s
  | ofBook {c : Config} {book : ScheduleBook} {s : Schedule} (accepted : c.book = .ok book)
      (member : s ∈ book.toList) : Produced s

/-- What the filters take for granted. -/
structure Sound (s : Schedule) : Prop where
  runs_pos : 1 ≤ s.runs
  distance_of_runs : 1 < s.runs → s.periodMatch = .distance
  start_le_stop : ∀ w ∈ s.windows, w.start.seconds ≤ w.stop.seconds
  /-- A set of days holds those that were listed, and some were. -/
  days_listed : ∀ days, s.weekdays = some days →
    ∃ listed, listed ≠ [] ∧ days = WeekdaySet.ofList listed

theorem allows?_eq_some {s : Schedule} (positive : 1 ≤ s.runs) (previous : Instant) (now : Moment) :
    s.allows? previous now = some (s.allows previous now) := by
  have divided (length : Nat) : divide? length s.runs = some (s.spacing length) := by
    rw [divide?, if_neg (Nat.ne_of_gt positive), spacing]
  have verdict : s.periodPasses? previous now = some (s.periodPasses previous now) := by
    unfold periodPasses?
    split
    case h_1 length found distance =>
      obtain ⟨p, period, seconds⟩ := Option.bind_eq_some_iff.mp found
      simp only [divided, Option.map_some, periodPasses, period, seconds, distance]
    case h_2 => rfl
  rw [allows?, verdict, Option.map_some]
  rfl

theorem sound_of_ofAttributes {name : String} {a : Attributes} {s : Schedule}
    (accepted : ofAttributes name a = .ok s) : s.Sound := by
  obtain ⟨flawless, made⟩ := ofAttributes_eq_ok_iff_madeFrom.mp accepted
  obtain ⟨positive, allowed, -, weekdays⟩ := violations_eq_nil_iff.mp flawless
  refine ⟨?_, ?_, ?_, ?_⟩
  · rw [made.runs]
    exact positive
  · rw [made.runs, made.periodMatch]
    intro several
    cases matching : a.periodMatch with
    | distance => rfl
    | number => exact absurd ⟨several, matching⟩ allowed
  · intro w member
    obtain ⟨text, -, -, ordered⟩ := made.mem_windows_iff.mp member
    exact ordered
  · intro days restricted
    have someToken : a.weekdays ≠ [] := by
      intro none
      cases (made.everyDay.mpr none).symm.trans restricted
    obtain ⟨token, among⟩ := List.exists_mem_of_ne_nil a.weekdays someToken
    obtain ⟨d, writes⟩ := weekdays token among
    have listed := (made.days days restricted d).mpr ⟨token, among, writes⟩
    exact ⟨days.toList, List.ne_nil_of_mem (WeekdaySet.mem_toList_iff.mpr listed),
      (WeekdaySet.ofList_toList (made.inWeek days restricted)).symm⟩

theorem sound_unrestricted (name : String) : (unrestricted name).Sound where
  runs_pos := Nat.le_refl 1
  distance_of_runs _ := rfl
  start_le_stop _ member := absurd member List.not_mem_nil
  days_listed _ restricted := nomatch restricted

theorem sound_builtin {s : Schedule} (member : s ∈ builtins) : s.Sound := by
  rcases List.mem_append.mp member with recurring | puppet
  · obtain ⟨p, -, rfl⟩ := List.mem_map.mp recurring
    exact { sound_unrestricted p.name with }
  · obtain rfl := List.mem_singleton.mp puppet
    exact { sound_unrestricted "puppet" with
      runs_pos := by decide
      distance_of_runs := fun _ => rfl }

/-- A schedule in the book of a configuration was made from an entry or is built in. -/
theorem sound_of_mem_book {c : Config} {book : ScheduleBook} {s : Schedule}
    (accepted : c.book = .ok book) (member : s ∈ book.toList) : s.Sound := by
  obtain ⟨⟨name, stored⟩, entered, rfl⟩ := List.mem_map.mp member
  have found : book.get? name = some stored :=
    (KeyedList.get?_eq_some_iff (ScheduleBook.ascending_of_config accepted) name stored).mpr entered
  have layered := (Config.get?_insertAll_of_book accepted [] name).symm.trans found
  rw [(lastNamed?_eq_none_iff name []).mpr List.not_mem_nil, Option.none_or] at layered
  rcases Option.or_eq_some_iff.mp layered with made | ⟨-, builtin⟩
  · obtain ⟨e, -, made⟩ := Option.bind_eq_some_iff.mp made
    cases attributes : ofAttributes e.name e.attributes with
    | error error => rw [attributes] at made; contradiction
    | ok given =>
      rw [attributes] at made
      cases made
      exact sound_of_ofAttributes attributes
  · unfold Config.builtin? at builtin
    split at builtin
    · exact sound_builtin (List.mem_of_find?_eq_some builtin)
    · cases builtin

theorem Produced.toSound {s : Schedule} (produced : s.Produced) : s.Sound := by
  cases produced with
  | ofAttributes accepted => exact sound_of_ofAttributes accepted
  | unrestricted name => exact sound_unrestricted name
  | builtin member => exact sound_builtin member
  | ofBook accepted member => exact sound_of_mem_book accepted member

/-- A set of days that were listed has one of them, and none of its bits is beyond the seven. -/
theorem Sound.days_nonempty {s : Schedule} (sound : s.Sound) {days : WeekdaySet}
    (restricted : s.weekdays = some days) :
    days.mask ≠ 0 ∧ (∀ n, days.mask.testBit n = true → n < 7) ∧ ∃ d, days.contains d = true := by
  obtain ⟨listed, some_day, rfl⟩ := sound.days_listed days restricted
  obtain ⟨d, member⟩ := List.exists_mem_of_ne_nil listed some_day
  have bit : (WeekdaySet.ofList listed).mask.testBit d.index = true :=
    (WeekdaySet.testBit_mask_ofList listed d.index).mpr ⟨d, member, rfl⟩
  refine ⟨?_, WeekdaySet.inWeek_ofList listed, d, (WeekdaySet.contains_eq_testBit _ d).trans bit⟩
  intro zero
  rw [zero, Nat.zero_testBit] at bit
  contradiction

/-- A window that does not end before it starts contains its ends. -/
theorem Sound.window_nonempty {s : Schedule} (sound : s.Sound) {w : Window}
    (member : w ∈ s.windows) : w.contains w.start = true ∧ w.contains w.stop = true := by
  have ordered := sound.start_le_stop w member
  simp only [Window.contains, Nat.le_refl, ordered, decide_true, Bool.and_self, and_self]

/-- What holds of every schedule that can come about, and what its filters get from that: the
decision is always reached, some time is in each window, and some day is in the set of days. -/
theorem Produced.sound_and_decides {s : Schedule} (produced : s.Produced) :
    1 ≤ s.runs ∧ (1 < s.runs → s.periodMatch = .distance) ∧
      (∀ w ∈ s.windows, w.start.OnClock ∧ w.stop.OnClock ∧ w.start.seconds ≤ w.stop.seconds ∧
        ∃ t, w.contains t = true) ∧
      (∀ days, s.weekdays = some days →
        days.mask ≠ 0 ∧ (∀ n, days.mask.testBit n = true → n < 7) ∧
          ∃ d, days.contains d = true) ∧
      ∀ previous now, s.allows? previous now = some (s.allows previous now) := by
  have sound := produced.toSound
  refine ⟨sound.runs_pos, sound.distance_of_runs, ?_, ?_, ?_⟩
  · intro w member
    exact ⟨w.start.onClock, w.stop.onClock, sound.start_le_stop w member, w.start,
      (sound.window_nonempty member).1⟩
  · intro days restricted
    exact sound.days_nonempty restricted
  · intro previous now
    exact allows?_eq_some sound.runs_pos previous now

/-- One entry that restricts everything a schedule can restrict. -/
def nights : Config :=
  ⟨1, {}, [⟨"backup", some .daily, none, some 4, some (.one (.text "22:00 - 23:30")),
    some (.many [.text "Mon", .number 5])⟩]⟩

/-- The schedule that it makes. -/
def backup : Schedule :=
  ⟨"backup", some .daily, .distance, [⟨.ofSeconds 79200, .ofSeconds 84600⟩], 4,
    some (.ofList [.monday, .friday])⟩

theorem sound_and_decides_backup :
    backup.Produced ∧
      (∀ w ∈ backup.windows, w.start.seconds ≤ w.stop.seconds ∧ ∃ t, w.contains t = true) ∧
      (WeekdaySet.ofList [.monday, .friday]).mask ≠ 0 ∧
      ∀ previous now, backup.allows? previous now = some (backup.allows previous now) := by
  have accepted : nights.book = .ok ((ScheduleBook.new nights.settings).insertAll [backup]) := by
    decide +kernel
  have member : backup ∈ ((ScheduleBook.new nights.settings).insertAll [backup]).toList := by
    decide +kernel
  have produced : backup.Produced := .ofBook accepted member
  obtain ⟨-, -, windows, weekdays, decides⟩ := produced.sound_and_decides
  refine ⟨produced, fun w among => ?_, (weekdays _ rfl).1, decides⟩
  obtain ⟨-, -, ordered, some_time⟩ := windows w among
  exact ⟨ordered, some_time⟩

end Schedule

end Provision
