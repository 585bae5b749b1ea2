import Provision.Proofs.Calendar.LocalTime

/-!
The order in which a calendar and a clock put dates and times, against the order of the instants
that they are read as. Put forward or back, the clock does not make a later text name an earlier
instant: the hour that is shown twice is read as its second showing, so that an hour in which
nothing is read lies before it, and the hour that is skipped is left out on both sides. Only the
two ends of the skipped hour are read as one instant.
-/

namespace Provision.Date

open Calendar

/-- The first date is before the second: the years decide, then the months, then the days. -/
def Precedes (d e : Date) : Prop :=
  d.year < e.year ∨
    d.year = e.year ∧ (d.month < e.month ∨ d.month = e.month ∧ d.day < e.day)

theorem dayNumber_within_year {d : Date} (inCalendar : d.Exists) :
    yearStart d.year ≤ d.dayNumber ∧ d.dayNumber < yearStart (d.year + 1) := by
  have year : yearOf d.dayNumber = d.year :=
    congrArg Date.year (ofDayNumber_dayNumber inCalendar)
  rw [← year]
  exact yearOf_spec d.dayNumber

theorem dayNumber_lt_of_precedes {d e : Date} (inCalendar : d.Exists) (inCalendar' : e.Exists)
    (before : d.Precedes e) : d.dayNumber < e.dayNumber := by
  rcases before with year | ⟨year, month | ⟨month, day⟩⟩
  · calc d.dayNumber < yearStart (d.year + 1) := (dayNumber_within_year inCalendar).2
      _ ≤ yearStart e.year := yearStart_mono year
      _ ≤ e.dayNumber := (dayNumber_within_year inCalendar').1
  · have later := monthStart_mono (leapDay_nonneg d.year) (Nat.add_one_le_of_lt month)
    obtain ⟨-, -, -, last⟩ := inCalendar
    obtain ⟨-, -, first, -⟩ := inCalendar'
    simp only [dayNumber, ← year]
    omega
  · simp only [dayNumber, ← year, ← month]
    omega

end Provision.Date

namespace Provision.Zone

section Readings

variable {reading reading' offset offset' : Int}

theorem instant_le_of_reading_le (found : eastern.offsetOfReading? reading = some offset)
    (found' : eastern.offsetOfReading? reading' = some offset') (order : reading ≤ reading') :
    reading - offset ≤ reading' - offset' := by
  rcases understood_cases found with ⟨-, rfl⟩ | ⟨outside, rfl⟩
  · rcases understood_cases found' with ⟨-, rfl⟩ | ⟨-, rfl⟩
    · omega
    · simp only [standardOffset, daylightOffset]
      omega
  · rcases understood_cases found' with ⟨⟨year, spring, autumn⟩, rfl⟩ | ⟨-, rfl⟩
    · -- Not past the change in autumn, the earlier reading is not past that in spring either.
      have notYet := outside year
      omega
    · omega

/-- Of two readings that stand for one instant, the first is the one at which the clock is put
forward and the second is the one that it is put forward to. -/
theorem instant_eq_iff (found : eastern.offsetOfReading? reading = some offset)
    (found' : eastern.offsetOfReading? reading' = some offset') (order : reading ≤ reading') :
    reading - offset = reading' - offset' ↔
      reading = reading' ∨ eastern.SkipsAt reading ∧ reading' = reading + 3600 := by
  constructor
  · intro same
    rcases understood_cases found with ⟨-, rfl⟩ | ⟨outside, rfl⟩
    · rcases understood_cases found' with ⟨-, rfl⟩ | ⟨-, rfl⟩
      · left
        omega
      · simp only [standardOffset, daylightOffset] at same
        omega
    · rcases understood_cases found' with ⟨⟨year, spring, autumn⟩, rfl⟩ | ⟨-, rfl⟩
      · right
        have notYet := outside year
        have change : reading - standardOffset = springInstant year := by omega
        refine ⟨⟨year, ?_⟩, ?_⟩
        · simp only [springInstant] at change
          omega
        · simp only [standardOffset, daylightOffset] at same
          omega
      · left
        omega
  · rintro (rfl | ⟨skips, rfl⟩)
    · rw [found, Option.some_inj] at found'
      rw [found']
    · have standard := Option.some_inj.mp (found.symm.trans (offsetOfReading?_of_skipsAt skips))
      obtain ⟨year, twoOClock⟩ := skips
      rcases understood_cases found' with ⟨-, rfl⟩ | ⟨outside, rfl⟩
      · simp only [standard, standardOffset, daylightOffset]
        omega
      · -- An hour past the change in spring it is not standard time.
        have := outside year
        have changes := changes_within_year year
        simp only [springInstant] at *
        omega

end Readings

end Provision.Zone

namespace Provision.Moment

open Zone

variable {text text' : String} {d d' : Date} {t t' : TimeOfDay} {m m' : Moment}

/-- On the calendar and the clock the first date and time is not later than the second. -/
def NotLater (d : Date) (t : TimeOfDay) (d' : Date) (t' : TimeOfDay) : Prop :=
  d.Precedes d' ∨ d = d' ∧ t.seconds ≤ t'.seconds

/-- A text that names a date and a time is accepted only if the date is in the calendar and the
time is understood under some offset. -/
theorem of_read_of_names (named : Names d t text.toList) (found : read eastern text = .ok m) :
    d.Exists ∧ ∃ offset,
      eastern.offsetOfReading? (d.dayNumber * 86400 + t.seconds) = some offset ∧
        m.instant = ⟨d.dayNumber * 86400 + t.seconds - offset, 0⟩ := by
  obtain ⟨r, clock, made⟩ := (read_eq_ok_iff eastern text m).mp found
  have inCalendar : d.Exists := by
    rw [Text.trim_eq_self (isTrimmed_of_names named), clockReading?, fields?_of_names named] at clock
    simp only [bind, Option.bind_some] at clock
    split at clock
    case isTrue accepted => exact accepted.2
    case isFalse => contradiction
  rw [clockReading?_of_names named inCalendar, Option.some_inj] at clock
  subst clock
  obtain ⟨offset, understood, -, rfl⟩ := (ofClockReading?_eq_some_iff eastern _ m).mp made
  exact ⟨inCalendar, offset, understood, rfl⟩

/-- A text that names a date and time not later than those of another is not read as a later
instant; and it is read as the same one only if it names the same, or if the two name the beginning
and the end of the hour that is skipped in a spring. -/
theorem read_order (named : Names d t text.toList) (named' : Names d' t' text'.toList)
    (found : read eastern text = .ok m) (found' : read eastern text' = .ok m')
    (order : NotLater d t d' t') :
    m.instant ≤ m'.instant ∧
      (m.instant = m'.instant ↔
        d = d' ∧ t = t' ∨
          eastern.SkipsAt (d.dayNumber * 86400 + t.seconds) ∧
            d'.dayNumber * 86400 + t'.seconds = d.dayNumber * 86400 + t.seconds + 3600) := by
  obtain ⟨inCalendar, offset, understood, instant⟩ := of_read_of_names named found
  obtain ⟨inCalendar', offset', understood', instant'⟩ := of_read_of_names named' found'
  have small := t.seconds_lt
  have small' := t'.seconds_lt
  have forward : d.dayNumber * 86400 + t.seconds ≤ d'.dayNumber * 86400 + t'.seconds := by
    rcases order with before | ⟨rfl, notAfter⟩
    · have days := Date.dayNumber_lt_of_precedes inCalendar inCalendar' before
      omega
    · omega
  have sameReading : d.dayNumber * 86400 + t.seconds = d'.dayNumber * 86400 + (t'.seconds : Int) ↔
      d = d' ∧ t = t' := by
    constructor
    · intro same
      have days : d.dayNumber = d'.dayNumber := by omega
      have seconds : t.seconds = t'.seconds := by omega
      exact ⟨by rw [← Date.ofDayNumber_dayNumber inCalendar, days,
          Date.ofDayNumber_dayNumber inCalendar'],
        by rw [← TimeOfDay.ofSeconds_seconds t, seconds, TimeOfDay.ofSeconds_seconds]⟩
    · rintro ⟨rfl, rfl⟩
      rfl
  constructor
  · have := instant_le_of_reading_le understood understood' forward
    rw [instant, instant', Instant.le_iff]
    dsimp only
    omega
  · rw [instant, instant', Instant.mk.injEq, and_iff_left rfl,
      instant_eq_iff understood understood' forward, sameReading]

/-- Two o'clock and three o'clock on the second Sunday of March 2011. -/
theorem read_order_spring :
    Names ⟨2011, 3, 13⟩ (TimeOfDay.ofSeconds 7200) "2011-03-13 02:00:00".toList ∧
      Names ⟨2011, 3, 13⟩ (TimeOfDay.ofSeconds 10800) "2011-03-13 03:00:00".toList ∧
      NotLater ⟨2011, 3, 13⟩ (TimeOfDay.ofSeconds 7200) ⟨2011, 3, 13⟩
        (TimeOfDay.ofSeconds 10800) ∧
      ∃ m m', read eastern "2011-03-13 02:00:00" = .ok m ∧
        read eastern "2011-03-13 03:00:00" = .ok m' ∧ m.instant ≤ m'.instant ∧
          m.instant = m'.instant := by
  have named := @names_text ⟨⟨1299999600, 0⟩, -18000, eastern⟩ (by decide) rfl
  have named' := @names_text ⟨⟨1299999600, 0⟩, -14400, eastern⟩ (by decide) rfl
  have found : read eastern "2011-03-13 02:00:00" = .ok ⟨⟨1299999600, 0⟩, -18000, eastern⟩ := by
    decide +kernel
  have found' : read eastern "2011-03-13 03:00:00" = .ok ⟨⟨1299999600, 0⟩, -14400, eastern⟩ := by
    decide +kernel
  have order : NotLater ⟨2011, 3, 13⟩ (TimeOfDay.ofSeconds 7200) ⟨2011, 3, 13⟩
      (TimeOfDay.ofSeconds 10800) := .inr ⟨rfl, by decide⟩
  obtain ⟨forward, same⟩ := read_order named named' found found' order
  exact ⟨named, named', order, _, _, found, found', forward,
    same.mpr (.inr ⟨⟨2011, by decide⟩, by decide⟩)⟩

end Provision.Moment
