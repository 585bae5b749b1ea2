import Mathlib.Data.List.Chain
import Provision.Calendar.Reading
import Provision.Proofs.Calendar.ClockChange
import Provision.Proofs.Schedule.Boundary

/-!
Which moments are in one bucket of a period, said by what their clocks show: the same hour of the
same date, the same date, the same week, or the same month. By number, a period is over when the
previous run, read on the clock of now, is in another bucket than now.

On the clock of a zone, two neighbouring runs thus have a boundary between them, in the course of
the clock as well as in time, and so have any two runs. This holds although an hour is shown twice
in autumn. One moment, however, is in another bucket than itself when it is read anew.
-/

namespace Provision.Moment

theorem date_eq_iff (a b : Moment) : a.date = b.date ↔ a.day = b.day := by
  constructor
  · intro same
    have number := congrArg Date.dayNumber same
    simpa only [Moment.date, Date.dayNumber_ofDayNumber] using number
  · intro same
    simp only [Moment.date, same]

theorem hour_timeOfDay (m : Moment) : (m.timeOfDay.hour : Int) = m.reading / 3600 % 24 := by
  simp only [Moment.timeOfDay, TimeOfDay.ofSeconds, Fin.ofNat]
  omega

/-- Date and hour tell how many hours the clock has counted. -/
theorem date_hour_eq_iff (a b : Moment) :
    a.date = b.date ∧ a.timeOfDay.hour = b.timeOfDay.hour ↔
      a.reading / 3600 = b.reading / 3600 := by
  have hour := hour_timeOfDay a
  have hour' := hour_timeOfDay b
  rw [date_eq_iff, Fin.ext_iff]
  simp only [Moment.day]
  omega

theorem month_eq_iff (a b : Moment) :
    a.date.year = b.date.year ∧ a.date.month = b.date.month ↔
      Date.firstOfMonth a.day = Date.firstOfMonth b.day :=
  (Date.firstOfMonth_eq_iff a.day b.day).symm

end Provision.Moment

namespace Provision.Period

open Calendar

/-- Two moments are in one bucket of the period, by what their clocks show. Weeks begin on Sunday,
which the fourth day before the first of 1970 was, and all of time is one bucket where nothing
recurs. -/
def SameBucket (p : Period) (a b : Moment) : Prop :=
  match p with
  | hourly => a.date = b.date ∧ a.timeOfDay.hour = b.timeOfDay.hour
  | daily => a.date = b.date
  | weekly => ∃ sunday : Int, (sunday + 4) % 7 = 0 ∧
      (sunday ≤ a.day ∧ a.day < sunday + 7) ∧ (sunday ≤ b.day ∧ b.day < sunday + 7)
  | monthly => a.date.year = b.date.year ∧ a.date.month = b.date.month
  | never => True

/-- Two days have the same last Sunday when both are in the week from some Sunday. -/
theorem week_eq_iff (m n : Int) :
    (m - (weekdayOf m).index) * 86400 = (n - (weekdayOf n).index) * 86400 ↔
      ∃ sunday : Int, (sunday + 4) % 7 = 0 ∧
        (sunday ≤ m ∧ m < sunday + 7) ∧ (sunday ≤ n ∧ n < sunday + 7) := by
  have index := weekdayOf_index m
  have index' := weekdayOf_index n
  constructor
  · intro same
    refine ⟨m - (weekdayOf m).index, ?_, ?_, ?_⟩
    · omega
    · omega
    · omega
  · rintro ⟨sunday, isSunday, within, within'⟩
    omega

/-- Two moments are in one bucket when their buckets begin with the same reading. -/
theorem sameBucket_iff (p : Period) (a b : Moment) :
    p.SameBucket a b ↔ p.bucketStart? a.reading = p.bucketStart? b.reading := by
  cases p with
  | hourly =>
    simp only [SameBucket, bucketStart?, Option.some_inj, Moment.date_hour_eq_iff]
    omega
  | daily =>
    simp only [SameBucket, bucketStart?, Option.some_inj, Moment.date_eq_iff, Moment.day]
    omega
  | weekly =>
    simp only [SameBucket, bucketStart?, Option.some_inj, week_eq_iff, Moment.day]
  | monthly =>
    simp only [SameBucket, bucketStart?, Option.some_inj, Moment.month_eq_iff, Moment.day]
    omega
  | never => simp only [SameBucket, bucketStart?]

/-- Seconds in the longest bucket of a period. -/
def longest? : Period → Option Nat
  | hourly => some 3600
  | daily => some 86400
  | weekly => some 604800
  | monthly => some 2678400
  | never => none

theorem longest?_eq_some {p : Period} {length : Nat} (seconds : p.seconds? = some length) :
    ∃ longest, p.longest? = some longest ∧ length ≤ longest ∧ longest ≤ 2678400 := by
  cases p with
  | never => contradiction
  | _ =>
    cases seconds
    exact ⟨_, rfl, by decide, by decide⟩

/-- A clock that shows so much more than another has come to another bucket. -/
theorem SameBucket.reading_lt {p : Period} {longest : Nat} (found : p.longest? = some longest)
    {a b : Moment} (same : p.SameBucket a b) : b.reading < a.reading + longest := by
  cases p with
  | hourly =>
    have hour := (Moment.date_hour_eq_iff a b).mp same
    cases found
    omega
  | daily =>
    have day := (Moment.date_eq_iff a b).mp same
    cases found
    simp only [Moment.day] at day
    omega
  | weekly =>
    obtain ⟨sunday, -, within, within'⟩ := same
    cases found
    simp only [Moment.day] at within within'
    omega
  | monthly =>
    have days := Date.lt_of_firstOfMonth_eq ((Moment.month_eq_iff a b).mp same)
    cases found
    simp only [Moment.day] at days
    omega
  | never => contradiction

theorem bucketStart?_eq_of_hour_eq (p : Period) {r r' : Int} (hour : r / 3600 = r' / 3600) :
    p.bucketStart? r = p.bucketStart? r' := by
  have day : r / 86400 = r' / 86400 := by omega
  simp only [bucketStart?, hour, day]

theorem bucketStart?_eq_of_day_eq {p : Period} (long : p ≠ hourly) {r r' : Int}
    (day : r / 86400 = r' / 86400) : p.bucketStart? r = p.bucketStart? r' := by
  cases p with
  | hourly => exact absurd rfl long
  | _ => simp only [bucketStart?, day]

/-- On its way from one reading to another the clock comes to a boundary. -/
def Turns (p : Period) (earlier later : Int) : Prop := ∃ b, p.IsBoundary b ∧ earlier < b ∧ b ≤ later

theorem Turns.trans {p : Period} {r r' r'' : Int} (first : p.Turns r r') (second : p.Turns r' r'') :
    p.Turns r r'' := by
  obtain ⟨b, boundary, passed, before⟩ := first
  obtain ⟨b', -, passed', before'⟩ := second
  exact ⟨b, boundary, passed, by omega⟩

theorem Turns.bucketStart?_ne {p : Period} {earlier later : Int} (turns : p.Turns earlier later) :
    p.bucketStart? earlier ≠ p.bucketStart? later := by
  obtain ⟨b, boundary, passed, before⟩ := turns
  have recurs : p ≠ never := by
    rintro rfl
    exact boundary
  have order : earlier ≤ later := by omega
  exact (bucketStart?_ne_iff recurs order).mpr ⟨b, boundary, passed, before⟩

end Provision.Period

namespace Provision.Schedule

variable {s : Schedule} {p : Period} {zone : Zone}

theorem periodPasses_iff_not_sameBucket (period : s.period = some p)
    (number : s.periodMatch = .number) (previous : Instant) (now : Moment) :
    s.periodPasses previous now = true ↔ ¬ p.SameBucket (Moment.ofInstant now.zone previous) now := by
  rw [periodPasses_iff_bucketStart?_ne period number, Period.sameBucket_iff]

/-- When work that was run before may be run again, the clock has come to a boundary in between. -/
theorem turns_of_periodPasses (period : s.period = some p) (number : s.periodMatch = .number)
    {previous now : Instant} (order : previous ≤ now)
    (passes : s.periodPasses previous (Moment.ofInstant zone now) = true) :
    p.Turns (Moment.ofInstant zone previous).reading (Moment.ofInstant zone now).reading := by
  have different := (periodPasses_iff_bucketStart?_ne period number _ _).mp passes
  have recurs : p ≠ .never := by
    rintro rfl
    exact different rfl
  have forward : previous.seconds ≤ now.seconds := by
    have := (Instant.le_iff previous now).mp order
    omega
  have hours := zone.hour_mono forward
  by_cases onward : (Moment.ofInstant zone previous).reading ≤ (Moment.ofInstant zone now).reading
  · exact (Period.bucketStart?_ne_iff recurs onward).mp different
  · -- Only within the hour that is shown twice does the clock come back.
    refine absurd (p.bucketStart?_eq_of_hour_eq ?_) different
    simp only [Moment.reading, Moment.ofInstant] at *
    omega

/-- Work that was run at these instants on the clock of a zone: none is before the one in front of
it, and each was let through by the period filter with that one as the previous run. -/
def RunningOn (s : Schedule) (zone : Zone) (runs : List Instant) : Prop :=
  runs.IsChain fun previous now =>
    previous ≤ now ∧ s.periodPasses previous (Moment.ofInstant zone now) = true

theorem RunningOn.pairwise_turns (period : s.period = some p) (number : s.periodMatch = .number)
    {runs : List Instant} (running : s.RunningOn zone runs) :
    runs.Pairwise fun a b =>
      p.Turns (Moment.ofInstant zone a).reading (Moment.ofInstant zone b).reading := by
  let turns (a b : Instant) : Prop :=
    p.Turns (Moment.ofInstant zone a).reading (Moment.ofInstant zone b).reading
  have : Trans turns turns turns := ⟨Period.Turns.trans⟩
  have neighbours : runs.IsChain turns :=
    running.imp fun _ _ step => turns_of_periodPasses period number step.1 step.2
  exact List.isChain_iff_pairwise.mp neighbours

/-- By number, work is run at most once in each hour, day, week or month that the clock of its zone
shows, an hour that is shown twice included. -/
theorem RunningOn.pairwise_not_sameBucket (period : s.period = some p)
    (number : s.periodMatch = .number) {runs : List Instant} (running : s.RunningOn zone runs) :
    runs.Pairwise fun a b =>
      ¬ p.SameBucket (Moment.ofInstant zone a) (Moment.ofInstant zone b) := by
  refine (running.pairwise_turns period number).imp fun turns => ?_
  rw [Period.sameBucket_iff]
  exact turns.bucketStart?_ne

/-- Once in every hour of the clock. -/
def sweep : Schedule := { unrestricted "sweep" with period := some .hourly, periodMatch := .number }

/-- Half past midnight and half past one in daylight time, and two in standard time: the hour in
between is one that the clock shows for the second time. -/
theorem sweep_in_autumn :
    sweep.period = some .hourly ∧ sweep.periodMatch = .number ∧
      sweep.RunningOn .eastern [⟨1320553800, 0⟩, ⟨1320557400, 0⟩, ⟨1320562800, 0⟩] ∧
        [(⟨1320553800, 0⟩ : Instant), ⟨1320557400, 0⟩, ⟨1320562800, 0⟩].Pairwise fun a b =>
          ¬ Period.hourly.SameBucket (Moment.ofInstant .eastern a) (Moment.ofInstant .eastern b) := by
  have running :
      sweep.RunningOn .eastern [⟨1320553800, 0⟩, ⟨1320557400, 0⟩, ⟨1320562800, 0⟩] := by
    unfold RunningOn
    decide
  exact ⟨rfl, rfl, running, running.pairwise_not_sameBucket rfl rfl⟩

/-- Work that has just been run may not be run again at the same moment, unless it is to be run
every hour and the moment was read as the one at which the clock is put forward. -/
theorem periodPasses_self_iff (number : s.periodMatch = .number) {text : String} {m : Moment}
    (found : Moment.read zone text = .ok m) :
    s.periodPasses m.instant m = true ↔
      s.period = none ∨ s.period = some .hourly ∧ zone.SkipsAt m.reading := by
  cases period : s.period with
  | none => simp only [periodPasses, period, true_or]
  | some p =>
    rw [periodPasses_iff_bucketStart?_ne period number]
    simp only [reduceCtorEq, Option.some_inj, false_or]
    rcases Moment.reading_anew found with ⟨same, goesOn⟩ | ⟨ahead, skips⟩
    · simp only [same, ne_eq, not_true_eq_false, goesOn, and_false]
    · have two := Zone.two_o_clock_of_skipsAt skips
      simp only [ahead, skips, and_true]
      constructor
      · intro different
        by_contra long
        have day : (m.reading + 3600) / 86400 = m.reading / 86400 := by omega
        exact different (Period.bucketStart?_eq_of_day_eq long day)
      · rintro rfl
        simp only [Period.bucketStart?, ne_eq, Option.some_inj]
        omega

/-- The moment read from two o'clock on the second Sunday of March 2011. -/
def secondSunday : Moment := ⟨⟨1299999600, 0⟩, -18000, .eastern⟩

theorem secondSunday_read : Moment.read .eastern "2011-03-13 02:00:00" = .ok secondSunday := by
  decide +kernel

/-- Swept at that moment, it is to be swept again at once. -/
theorem sweep_again :
    ofAttributes "sweep" { period := some .hourly, periodMatch := .number } = .ok sweep ∧
      Moment.read .eastern "2011-03-13 02:00:00" = .ok secondSunday ∧
      sweep.periodPasses secondSunday.instant secondSunday = true := by
  exact ⟨rfl, secondSunday_read, by decide⟩

theorem periodPasses_self_iff_sweep :
    sweep.periodMatch = .number ∧
      Moment.read .eastern "2011-03-13 02:00:00" = .ok secondSunday ∧
      (sweep.periodPasses secondSunday.instant secondSunday = true ↔
        sweep.period = none ∨
          sweep.period = some .hourly ∧ Zone.SkipsAt .eastern secondSunday.reading) :=
  ⟨rfl, secondSunday_read, periodPasses_self_iff rfl secondSunday_read⟩

end Provision.Schedule
