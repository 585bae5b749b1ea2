import Mathlib.Order.Bounds.Basic
import Mathlib.Tactic.IntervalCases
import Provision.Proofs.Calendar.Gregorian
import Provision.Schedule.Report

/-!
Where periods begin on a clock. The bucket of a reading begins at the last boundary that the clock
has come to, so two readings are in different buckets exactly when it came to a boundary in between.
-/

namespace Provision.Period

open Calendar

/-- A clock reading at which a period begins: a full hour, a midnight, the midnight before a Sunday,
or the midnight before the first day of a month. The first of 1970 was a Thursday, four days after a
Sunday. -/
def IsBoundary (p : Period) (reading : Int) : Prop :=
  match p with
  | hourly => 3600 ∣ reading
  | daily => 86400 ∣ reading
  | weekly => ∃ day, (day + 4) % 7 = 0 ∧ reading = day * 86400
  | monthly => ∃ d : Date, d.Exists ∧ d.day = 1 ∧ reading = d.dayNumber * 86400
  | never => False

/-- The last boundary up to a reading. -/
def LastBoundary (p : Period) (reading start : Int) : Prop :=
  IsGreatest {b | p.IsBoundary b ∧ b ≤ reading} start

theorem lastBoundary_hourly (reading : Int) :
    hourly.LastBoundary reading (reading / 3600 * 3600) := by
  refine ⟨⟨⟨reading / 3600, Int.mul_comm _ _⟩, by omega⟩, ?_⟩
  rintro b ⟨⟨hour, rfl⟩, before⟩
  omega

theorem lastBoundary_daily (reading : Int) :
    daily.LastBoundary reading (reading / 86400 * 86400) := by
  refine ⟨⟨⟨reading / 86400, Int.mul_comm _ _⟩, by omega⟩, ?_⟩
  rintro b ⟨⟨day, rfl⟩, before⟩
  omega

/-- The day of the week counts the days since the last Sunday. -/
theorem weekdayOf_index (day : Int) : ((weekdayOf day).index : Int) = (day + 4) % 7 := by
  have low := Int.emod_nonneg (day + 4) (by decide : (7 : Int) ≠ 0)
  have high := Int.emod_lt_of_pos (day + 4) (by decide : (0 : Int) < 7)
  unfold weekdayOf Weekday.ofIndex
  generalize (day + 4) % 7 = rest at *
  interval_cases rest <;> rfl

theorem lastBoundary_weekly (reading : Int) :
    weekly.LastBoundary reading
      ((reading / 86400 - (weekdayOf (reading / 86400)).index) * 86400) := by
  have index := weekdayOf_index (reading / 86400)
  refine ⟨⟨⟨_, ?_, rfl⟩, ?_⟩, ?_⟩
  · omega
  · omega
  · rintro b ⟨⟨day, sunday, rfl⟩, before⟩
    omega

/-- Of the firsts of months up to a day, that of its own month is the last. -/
theorem dayNumber_le_firstOfMonth {d : Date} (inCalendar : d.Exists) (first : d.day = 1) {n : Int}
    (before : d.dayNumber ≤ n) : d.dayNumber ≤ Date.firstOfMonth n := by
  by_contra later
  have number := Date.dayNumber_ofDayNumber n
  obtain ⟨one, twelve, positive, last⟩ := Date.exists_ofDayNumber n
  -- Were it later, it would be another day of the month of `n`.
  let other : Date :=
    { Date.ofDayNumber n with day := (d.dayNumber - Date.firstOfMonth n + 1).toNat }
  have same : other.dayNumber = d.dayNumber := by
    simp only [other, Date.dayNumber, Date.firstOfMonth] at *
    omega
  have inMonth : other.Exists := by
    refine ⟨one, twelve, ?_, ?_⟩
    · simp only [other]
      omega
    · simp only [other, Date.dayNumber, Date.firstOfMonth] at *
      omega
  have equal : other = d := by
    rw [← Date.ofDayNumber_dayNumber inMonth, same, Date.ofDayNumber_dayNumber inCalendar]
  have day : other.day = d.day := congrArg Date.day equal
  simp only [other] at day
  omega

theorem lastBoundary_monthly (reading : Int) :
    monthly.LastBoundary reading (Date.firstOfMonth (reading / 86400) * 86400) := by
  have number := Date.dayNumber_ofDayNumber (reading / 86400)
  obtain ⟨-, -, positive, -⟩ := Date.exists_ofDayNumber (reading / 86400)
  refine ⟨⟨⟨{ Date.ofDayNumber (reading / 86400) with day := 1 },
    Date.exists_firstOfMonth (reading / 86400), rfl, rfl⟩, ?_⟩, ?_⟩
  · simp only [Date.firstOfMonth, Date.dayNumber] at *
    omega
  · rintro b ⟨⟨d, inCalendar, first, rfl⟩, before⟩
    have := dayNumber_le_firstOfMonth inCalendar first (n := reading / 86400) (by omega)
    omega

/-- The bucket of a reading begins at the last boundary up to it. -/
theorem bucketStart?_eq_some {p : Period} (recurs : p ≠ never) (reading : Int) :
    ∃ start, p.bucketStart? reading = some start ∧ p.LastBoundary reading start := by
  cases p with
  | hourly => exact ⟨_, rfl, lastBoundary_hourly reading⟩
  | daily => exact ⟨_, rfl, lastBoundary_daily reading⟩
  | weekly => exact ⟨_, rfl, lastBoundary_weekly reading⟩
  | monthly => exact ⟨_, rfl, lastBoundary_monthly reading⟩
  | never => exact absurd rfl recurs

/-- Two readings have different last boundaries when there is a boundary in between. -/
theorem LastBoundary.ne_iff {p : Period} {earlier later start start' : Int}
    (before : p.LastBoundary earlier start) (after : p.LastBoundary later start')
    (order : earlier ≤ later) :
    start ≠ start' ↔ ∃ b, p.IsBoundary b ∧ earlier < b ∧ b ≤ later := by
  obtain ⟨⟨boundary, reached⟩, greatest⟩ := before
  obtain ⟨⟨boundary', reached'⟩, greatest'⟩ := after
  constructor
  · intro different
    refine ⟨start', boundary', ?_, reached'⟩
    by_contra notLater
    have := greatest ⟨boundary', Int.not_lt.mp notLater⟩
    have := greatest' ⟨boundary, Int.le_trans reached order⟩
    omega
  · rintro ⟨b, isBoundary, passed, before⟩ same
    have := greatest' ⟨isBoundary, before⟩
    omega

theorem bucketStart?_ne_iff {p : Period} (recurs : p ≠ never) {earlier later : Int}
    (order : earlier ≤ later) :
    p.bucketStart? earlier ≠ p.bucketStart? later ↔
      ∃ b, p.IsBoundary b ∧ earlier < b ∧ b ≤ later := by
  obtain ⟨start, found, before⟩ := bucketStart?_eq_some recurs earlier
  obtain ⟨start', found', after⟩ := bucketStart?_eq_some recurs later
  rw [found, found', ne_eq, Option.some_inj]
  exact before.ne_iff after order

end Provision.Period

namespace Provision.Schedule

/-- By number, the filter compares the buckets of the previous run, read on the clock of now, and of
now. -/
theorem periodPasses_iff_bucketStart?_ne {s : Schedule} {p : Period} (period : s.period = some p)
    (number : s.periodMatch = .number) (previous : Instant) (now : Moment) :
    s.periodPasses previous now = true ↔
      p.bucketStart? (Moment.ofInstant now.zone previous).reading ≠
        p.bucketStart? now.reading := by
  simp only [periodPasses, period, number]
  cases p with
  | never =>
    simp only [Period.seconds?, Period.bucketStart?, ne_eq, not_true_eq_false,
      Bool.false_eq_true]
  | _ => simp only [Period.seconds?, decide_eq_true_iff]

/-- On a fixed clock the filter compares the buckets of two readings of that clock. -/
theorem periodPasses_number {s : Schedule} {p : Period} (period : s.period = some p)
    (number : s.periodMatch = .number) (offset : Int) (previous now : Instant) :
    s.periodPasses previous (Moment.ofInstant (.fixed offset) now) = true ↔
      p.bucketStart? (previous.seconds + offset) ≠ p.bucketStart? (now.seconds + offset) :=
  periodPasses_iff_bucketStart?_ne period number previous _

/-- By number, a period is over when the clock has come to a boundary since the previous run: after
that run, and not after now. The clock may be any fixed time ahead of UTC. -/
theorem periodPasses_number_iff {s : Schedule} {p : Period} (period : s.period = some p)
    (recurs : p ≠ .never) (number : s.periodMatch = .number) (offset : Int)
    {previous now : Instant} (order : previous ≤ now) :
    s.periodPasses previous (Moment.ofInstant (.fixed offset) now) = true ↔
      ∃ b, p.IsBoundary b ∧ previous < ⟨b - offset, 0⟩ ∧ ⟨b - offset, 0⟩ ≤ now := by
  have readings : previous.seconds + offset ≤ now.seconds + offset := by
    have := (Instant.le_iff previous now).mp order
    omega
  rw [periodPasses_number period number offset previous now,
    Period.bucketStart?_ne_iff recurs readings]
  refine exists_congr fun b => and_congr_right fun _ => ?_
  rw [Instant.lt_iff, Instant.le_iff]
  dsimp only
  omega

/-- Once in every month of the calendar. -/
def rotate : Schedule :=
  { unrestricted "rotate" with period := some .monthly, periodMatch := .number }

/-- On a clock 5:45 ahead of UTC the first of March 1968, in a leap year before the epoch, begins
half a second after the previous run. -/
theorem periodPasses_number_iff_rotate :
    rotate.period = some .monthly ∧ Period.monthly ≠ .never ∧ rotate.periodMatch = .number ∧
      (⟨-57995101, 500000000⟩ : Instant) ≤ ⟨-57995100, 0⟩ ∧
      ∃ b, Period.monthly.IsBoundary b ∧ (⟨-57995101, 500000000⟩ : Instant) < ⟨b - 20700, 0⟩ ∧
        (⟨b - 20700, 0⟩ : Instant) ≤ ⟨-57995100, 0⟩ := by
  have order : (⟨-57995101, 500000000⟩ : Instant) ≤ ⟨-57995100, 0⟩ := by decide
  refine ⟨rfl, by decide, rfl, order, ?_⟩
  exact (periodPasses_number_iff (s := rotate) rfl (by decide) rfl 20700 order).mp (by decide)

end Provision.Schedule
