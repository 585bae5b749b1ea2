import Provision.Proofs.Schedule.Bucket
import Provision.Proofs.Schedule.Spacing

/-!
The two ways in which a period is over, compared on a fixed clock. By number a period is over
wherever the two runs are at least as far apart as its longest bucket lasts, and no lesser distance
makes sure of it. All hours, days and weeks last as long as the length of the period says, so what
is over by distance is over by number as well; but some months are a day longer than that.
-/

namespace Provision.Period

open Calendar

theorem SameBucket.symm {p : Period} {a b : Moment} (same : p.SameBucket a b) :
    p.SameBucket b a := by
  rw [sameBucket_iff] at same ⊢
  exact same.symm

/-- The epoch is the beginning of a month of 31 days. -/
theorem firstOfMonth_of_january (day : Nat) (january : day < 31) :
    Date.firstOfMonth day = Date.firstOfMonth 0 := by
  have inCalendar : Date.Exists ⟨1970, 1, day + 1⟩ := by
    rw [Date.exists_iff]
    simp only [Date.daysInMonth]
    omega
  have number : Date.dayNumber ⟨1970, 1, day + 1⟩ = day := by
    have newYear : yearStart 1970 = 0 := by decide
    simp only [Date.dayNumber, newYear, monthStart]
    omega
  rw [Date.firstOfMonth_eq_iff, ← number, Date.ofDayNumber_dayNumber inCalendar]
  exact ⟨rfl, rfl⟩

/-- Some bucket is as long as the longest one is said to be. -/
theorem exists_longest_bucket {p : Period} {longest : Nat} (found : p.longest? = some longest) :
    ∃ start : Int, ∀ d : Nat, d < longest → p.bucketStart? (start + d) = p.bucketStart? start := by
  cases p with
  | hourly =>
    cases found
    refine ⟨0, fun d inside => ?_⟩
    simp only [bucketStart?, Option.some_inj]
    omega
  | daily =>
    cases found
    refine ⟨0, fun d inside => ?_⟩
    simp only [bucketStart?, Option.some_inj]
    omega
  | weekly =>
    cases found
    -- The epoch was on a Thursday, so the first Sunday came three days later.
    refine ⟨3 * 86400, fun d inside => ?_⟩
    have index := weekdayOf_index ((3 * 86400 + d) / 86400)
    have index' := weekdayOf_index (3 * 86400 / 86400)
    simp only [bucketStart?, Option.some_inj]
    omega
  | monthly =>
    cases found
    refine ⟨0, fun d inside => ?_⟩
    have day : ((0 : Int) + d) / 86400 = (d / 86400 : Nat) := by omega
    have january := firstOfMonth_of_january (d / 86400) (by omega)
    simp only [bucketStart?, day, january]
    rfl
  | never => contradiction

end Provision.Period

namespace Provision.Schedule

variable {s t : Schedule} {p : Period} {longest : Nat}

/-- No bucket holds two instants that are so far apart, whichever of them comes first. -/
theorem periodPasses_of_longest_le (period : t.period = some p) (number : t.periodMatch = .number)
    (found : p.longest? = some longest) (offset : Int) {previous now : Instant}
    (apart : longest ≤ (now.seconds - previous.seconds).natAbs) :
    t.periodPasses previous (Moment.ofInstant (.fixed offset) now) = true := by
  rw [periodPasses_iff_not_sameBucket period number]
  intro same
  have ahead := same.reading_lt found
  have behind := same.symm.reading_lt found
  simp only [Moment.reading, Moment.ofInstant, Zone.offsetAt] at ahead behind
  omega

/-- Within the longest bucket two instants can have any lesser distance. -/
theorem exists_not_periodPasses (period : t.period = some p) (number : t.periodMatch = .number)
    (found : p.longest? = some longest) (offset : Int) {gap : Nat} (short : gap < longest) :
    ∃ previous now : Instant, now.seconds - previous.seconds = gap ∧
      t.periodPasses previous (Moment.ofInstant (.fixed offset) now) ≠ true := by
  obtain ⟨start, bucket⟩ := Period.exists_longest_bucket found
  refine ⟨⟨start - offset, 0⟩, ⟨start + gap - offset, 0⟩, ?_, ?_⟩
  · dsimp only
    omega
  · rw [ne_eq, periodPasses_number period number, not_not]
    simp only [Int.sub_add_cancel]
    exact (bucket gap short).symm

/-- A certain distance makes sure that a period is over by number exactly when it is as long as the
longest bucket. -/
theorem forall_periodPasses_iff (period : t.period = some p) (number : t.periodMatch = .number)
    (found : p.longest? = some longest) (offset : Int) (gap : Nat) :
    (∀ previous now : Instant, gap ≤ (now.seconds - previous.seconds).natAbs →
        t.periodPasses previous (Moment.ofInstant (.fixed offset) now) = true) ↔
      longest ≤ gap := by
  constructor
  · intro passes
    by_contra short
    obtain ⟨previous, now, apart, held⟩ :=
      exists_not_periodPasses period number found offset (Nat.not_le.mp short)
    apply held
    apply passes
    omega
  · intro enough previous now apart
    exact periodPasses_of_longest_le period number found offset (Nat.le_trans enough apart)

/-- With one run in each period all of its length has to pass. -/
theorem periodPasses_once_iff {length : Nat} (period : s.period = some p)
    (seconds : p.seconds? = some length) (distance : s.periodMatch = .distance)
    (once : s.runs = 1) (previous : Instant) (now : Moment) :
    s.periodPasses previous now = true ↔
      (length : Int) ≤ now.instant.seconds - previous.seconds := by
  rw [periodPasses_distance period seconds distance, spacing, once, Nat.div_one]

/-- What is over by distance, with one run in each period, is over by number too, but for the month.
By number a month is over wherever 31 days lie between the two instants, and less is not enough. -/
theorem periodPasses_number_of_distance (period : s.period = some p)
    (distance : s.periodMatch = .distance) (once : s.runs = 1) (period' : t.period = some p)
    (number : t.periodMatch = .number) (offset : Int) :
    ((∀ previous now : Instant,
        s.periodPasses previous (Moment.ofInstant (.fixed offset) now) = true →
          t.periodPasses previous (Moment.ofInstant (.fixed offset) now) = true) ↔
      p ≠ .monthly) ∧
    (p = .monthly → ∀ gap : Nat,
      (∀ previous now : Instant, gap ≤ (now.seconds - previous.seconds).natAbs →
        t.periodPasses previous (Moment.ofInstant (.fixed offset) now) = true) ↔
      2678400 ≤ gap) := by
  constructor
  · constructor
    · rintro implies rfl
      -- Thirty days after the first of January it is still January.
      obtain ⟨previous, now, apart, held⟩ :=
        exists_not_periodPasses period' number rfl offset (show 2592000 < 2678400 by decide)
      apply held
      apply implies
      rw [periodPasses_once_iff period rfl distance once]
      exact Int.le_of_eq apart.symm
    · intro shorter previous now passes
      cases p with
      | monthly => exact absurd rfl shorter
      | never =>
        simp only [periodPasses, period, Period.seconds?, Bool.false_eq_true] at passes
      | hourly | daily | weekly =>
        rw [periodPasses_once_iff period rfl distance once] at passes
        dsimp only [Moment.ofInstant] at passes
        exact periodPasses_of_longest_le period' number rfl offset (by omega)
  · rintro rfl gap
    exact forall_periodPasses_iff period' number rfl offset gap

/-- An hour later on a clock that is 5:45 ahead of UTC, and 31 days later. -/
theorem periodPasses_number_of_distance_rotate :
    sweep.period = some .hourly ∧ sweep.runs = 1 ∧ sweep.periodMatch = .number ∧
      Schedule.periodPasses { sweep with periodMatch := .distance } ⟨-1, 5⟩
        (Moment.ofInstant (.fixed 20700) ⟨3599, 0⟩) = true ∧
      sweep.periodPasses ⟨-1, 5⟩ (Moment.ofInstant (.fixed 20700) ⟨3599, 0⟩) = true ∧
      rotate.period = some .monthly ∧ rotate.periodMatch = .number ∧
      rotate.periodPasses ⟨-1, 5⟩ (Moment.ofInstant (.fixed 20700) ⟨2678399, 0⟩) = true := by
  have passes : Schedule.periodPasses { sweep with periodMatch := .distance } ⟨-1, 5⟩
      (Moment.ofInstant (.fixed 20700) ⟨3599, 0⟩) = true := by decide
  have hours := (periodPasses_number_of_distance (s := { sweep with periodMatch := .distance })
    (t := sweep) rfl rfl rfl rfl rfl 20700).1.mpr (by decide)
  have months := (periodPasses_number_of_distance (s := { rotate with periodMatch := .distance })
    (t := rotate) rfl rfl rfl rfl rfl 20700).2 rfl 2678400
  exact ⟨rfl, rfl, rfl, passes, hours _ _ passes, rfl, rfl,
    months.mpr (Nat.le_refl _) ⟨-1, 5⟩ ⟨2678399, 0⟩ (by decide)⟩

end Provision.Schedule
