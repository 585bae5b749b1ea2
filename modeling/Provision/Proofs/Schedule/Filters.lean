import Provision.Proofs.Calendar.LocalTime
import Provision.Proofs.Schedule.Boundary
import Provision.Proofs.Schedule.Sound
import Provision.Proofs.Schedule.Spacing

/-!
What the filters let through, in terms of what was written and of the seconds that passed. The
windows and the days look at the second of the day and the day of the week that the local clock
shows, and at nothing else. Where distance counts, the period filter compares whole seconds: it lets
work through once a run's share of the period has passed, and now and then up to a second before.
-/

namespace Provision

namespace Attributes

/-- Some window that is written holds this second of the day, or none is written. -/
def AllowsSecond (a : Attributes) (second : Int) : Prop :=
  a.windows = [] ∨ ∃ text ∈ a.windows, ∃ start stop, Window.Writes text.toList start stop ∧
    (start.seconds : Int) ≤ second ∧ second ≤ stop.seconds

/-- Some token writes the day that comes so many days after Sunday, or there are no tokens. -/
def AllowsDay (a : Attributes) (index : Int) : Prop :=
  a.weekdays = [] ∨
    ∃ token ∈ a.weekdays, ∃ d, Weekday.Writes token.toList d ∧ (d.index : Int) = index

end Attributes

namespace Moment

/-- A leap second is in the second before it. -/
theorem seconds_timeOfDay (m : Moment) : (m.timeOfDay.seconds : Int) = m.reading % 86400 := by
  rw [timeOfDay, TimeOfDay.seconds_ofSeconds (by omega)]
  omega

theorem index_weekday (m : Moment) : (m.weekday.index : Int) = (m.reading / 86400 + 4) % 7 :=
  Period.weekdayOf_index m.day

end Moment

namespace Schedule

section Written

variable {name : String} {a : Attributes} {s : Schedule}

theorem windowPasses_iff (s : Schedule) (now : Moment) :
    s.windowPasses now = true ↔
      s.windows = [] ∨ ∃ w ∈ s.windows,
        (w.start.seconds : Int) ≤ now.reading % 86400 ∧ now.reading % 86400 ≤ w.stop.seconds := by
  simp only [windowPasses, Window.contains, Bool.or_eq_true, List.isEmpty_iff, List.any_eq_true,
    Bool.and_eq_true, decide_eq_true_eq, ← now.seconds_timeOfDay, Int.ofNat_le]

theorem MadeFrom.windowPasses_iff (made : MadeFrom name a s) (now : Moment) :
    s.windowPasses now = true ↔ a.AllowsSecond (now.reading % 86400) := by
  rw [Schedule.windowPasses_iff, made.windows_eq_nil_iff, Attributes.AllowsSecond]
  refine or_congr_right ?_
  constructor
  · rintro ⟨w, member, after, before⟩
    obtain ⟨text, among, writes, -⟩ := made.mem_windows_iff.mp member
    exact ⟨text, among, w.start, w.stop, writes, after, before⟩
  · rintro ⟨text, among, start, stop, writes, after, before⟩
    -- A second in between shows that the two times are in their order.
    have ordered : start.seconds ≤ stop.seconds := by omega
    exact ⟨⟨start, stop⟩, made.mem_windows_iff.mpr ⟨text, among, writes, ordered⟩, after, before⟩

theorem MadeFrom.weekdayPasses_iff (made : MadeFrom name a s) (now : Moment) :
    s.weekdayPasses now = true ↔ a.AllowsDay ((now.reading / 86400 + 4) % 7) := by
  rw [Attributes.AllowsDay, ← made.everyDay, ← now.index_weekday, weekdayPasses]
  cases restricted : s.weekdays with
  | none => simp
  | some days =>
    simp only [reduceCtorEq, false_or, made.days days restricted, Int.ofNat_inj, Weekday.index_inj,
      exists_eq_right]

theorem allows_iff (s : Schedule) (previous : Instant) (now : Moment) :
    s.allows previous now = true ↔
      s.windowPasses now = true ∧ s.weekdayPasses now = true ∧
        s.periodPasses previous now = true := by
  simp only [allows, report, Report.passes, Bool.and_eq_true]
  tauto

/-- On a clock at a fixed offset, the windows and the days that were written decide by the second of
the day and the day of the week that the clock shows; work may run when they and the period let it,
whenever it was run last. -/
theorem filters_of_attributes (accepted : ofAttributes name a = .ok s) (offset seconds : Int)
    (nanos : Nat) (previous : Instant) :
    (s.windowPasses (Moment.ofInstant (.fixed offset) ⟨seconds, nanos⟩) = true ↔
      a.AllowsSecond ((seconds + offset) % 86400)) ∧
    (s.weekdayPasses (Moment.ofInstant (.fixed offset) ⟨seconds, nanos⟩) = true ↔
      a.AllowsDay (((seconds + offset) / 86400 + 4) % 7)) ∧
    (s.allows previous (Moment.ofInstant (.fixed offset) ⟨seconds, nanos⟩) = true ↔
      a.AllowsSecond ((seconds + offset) % 86400) ∧
        a.AllowsDay (((seconds + offset) / 86400 + 4) % 7) ∧
        s.periodPasses previous (Moment.ofInstant (.fixed offset) ⟨seconds, nanos⟩) = true) := by
  have made := madeFrom_of_ofAttributes accepted
  have window := made.windowPasses_iff (Moment.ofInstant (.fixed offset) ⟨seconds, nanos⟩)
  have weekday := made.weekdayPasses_iff (Moment.ofInstant (.fixed offset) ⟨seconds, nanos⟩)
  refine ⟨window, weekday, ?_⟩
  rw [allows_iff, window, weekday]
  rfl

/-- The last second of the window, drawn out by a leap second, on a Friday of 1969. -/
def fridayNight : Moment := Moment.ofInstant (.fixed 20700) ⟨-454500, 1500000000⟩

theorem filters_of_attributes_evenings :
    ofAttributes "backup" evenings = .ok backup ∧
      (-454500 + 20700 : Int) % 86400 = 84600 ∧ evenings.AllowsSecond 84600 ∧
      ((-454500 + 20700 : Int) / 86400 + 4) % 7 = 5 ∧ evenings.AllowsDay 5 ∧
      backup.allows ⟨-476100, 0⟩ fridayNight = true := by
  have accepted : ofAttributes "backup" evenings = .ok backup := by decide +kernel
  obtain ⟨window, weekday, both⟩ :=
    filters_of_attributes accepted 20700 (-454500) 1500000000 ⟨-476100, 0⟩
  have lastSecond := window.mp (by decide)
  have friday := weekday.mp (by decide)
  exact ⟨accepted, rfl, lastSecond, rfl, friday, both.mpr ⟨lastSecond, friday, by decide⟩⟩

end Written

section Elapsed

/-- Between instants of which neither is in a leap second, every second counts. -/
theorem elapsed_eq {earlier later : Instant} (plain : earlier.isLeap = false)
    (plain' : later.isLeap = false) :
    earlier.elapsed later =
      (later.seconds - earlier.seconds) * 1000000000 + ((later.nanos : Int) - earlier.nanos) := by
  simp only [Instant.elapsed, plain, plain', Bool.false_eq_true, if_false, ite_self]
  omega

variable {s : Schedule} {p : Period} {length : Nat}

/-- Once a run's share of the period has passed, the period filter lets work through. It also does
where the whole seconds of the two instants are that far apart and `now` has the smaller fraction of
a second, so that less than a second is missing; and in no other case. -/
theorem periodPasses_distance_iff_elapsed (period : s.period = some p)
    (seconds : p.seconds? = some length) (distance : s.periodMatch = .distance)
    (previous : Instant) (now : Moment) (plain : previous.isLeap = false)
    (plain' : now.instant.isLeap = false) :
    (s.periodPasses previous now = true ↔
      (s.spacing length : Int) * 1000000000 ≤ previous.elapsed now.instant ∨
        now.instant.seconds - previous.seconds = s.spacing length ∧
          now.instant.nanos < previous.nanos) ∧
    (s.periodPasses previous now = true →
      (s.spacing length : Int) * 1000000000 < previous.elapsed now.instant + 1000000000) := by
  have below : previous.nanos < 1000000000 := Nat.not_le.mp (of_decide_eq_false plain)
  have below' : now.instant.nanos < 1000000000 := Nat.not_le.mp (of_decide_eq_false plain')
  rw [periodPasses_distance period seconds distance, elapsed_eq plain plain']
  omega

theorem periodPasses_distance_iff_elapsed_cleanup :
    cleanup.period = some .hourly ∧ Period.hourly.seconds? = some 3600 ∧
      cleanup.periodMatch = .distance ∧ Instant.isLeap ⟨-515, 999999999⟩ = false ∧
      Instant.isLeap ⟨-1, 5⟩ = false ∧
      cleanup.periodPasses ⟨-515, 999999999⟩ (Moment.ofInstant (.fixed 0) ⟨-1, 5⟩) = true ∧
      (cleanup.spacing 3600 : Int) * 1000000000 <
        Instant.elapsed ⟨-515, 999999999⟩ ⟨-1, 5⟩ + 1000000000 := by
  have period : cleanup.period = some .hourly := rfl
  have plain : Instant.isLeap ⟨-515, 999999999⟩ = false := by decide
  have plain' : Instant.isLeap ⟨-1, 5⟩ = false := by decide
  obtain ⟨verdict, early⟩ := periodPasses_distance_iff_elapsed period rfl rfl
    ⟨-515, 999999999⟩ (Moment.ofInstant (.fixed 0) ⟨-1, 5⟩) plain plain'
  have passes := verdict.mpr (.inr ⟨by decide, by decide⟩)
  exact ⟨period, rfl, rfl, plain, plain', passes, early passes⟩

/-- The built-in schedule of this name. -/
def hourly : Schedule := { unrestricted "hourly" with period := some .hourly }

/-- Work run nine tenths of a second after the epoch is let run again a tenth of a second before an
hour is over. -/
theorem hourly_early :
    ofAttributes "hourly" { period := some .hourly } = .ok hourly ∧
      hourly.periodMatch = .distance ∧ hourly.spacing 3600 = 3600 ∧
      hourly.periodPasses ⟨0, 900000000⟩ (Moment.ofInstant (.fixed 0) ⟨3600, 0⟩) = true ∧
      Instant.elapsed ⟨0, 900000000⟩ ⟨3600, 0⟩ < 3600 * 1000000000 :=
  ⟨rfl, rfl, rfl, by decide, by decide⟩

end Elapsed

end Schedule

end Provision
