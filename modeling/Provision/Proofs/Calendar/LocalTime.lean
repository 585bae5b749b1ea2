import Provision.Proofs.Calendar.ClockChange
import Provision.Proofs.Calendar.ClockText

/-!
Local dates and times as names of instants. A clock that is put forward and back shows some readings
at no instant and some at two. A reading is understood as the last instant that shows it, and it is
refused where there is none, with one exception: the reading at which the clock is put forward is
taken although it is never shown. Where a reading is shown once, text and moment give each other
back.
-/

namespace Provision.TimeOfDay

theorem seconds_lt (t : TimeOfDay) : t.seconds < 86400 := by
  unfold seconds
  omega

theorem ofSeconds_seconds (t : TimeOfDay) : ofSeconds t.seconds = t := by
  obtain ⟨hour, minute, second⟩ := t
  simp only [ofSeconds, seconds, Fin.ofNat, mk.injEq, Fin.ext_iff]
  omega

theorem seconds_ofSeconds {n : Nat} (small : n < 86400) : (ofSeconds n).seconds = n := by
  simp only [ofSeconds, seconds, Fin.ofNat]
  omega

end Provision.TimeOfDay

namespace Provision.Zone

open Calendar

section Readings

variable {reading instant : Int}

/-- The clock is an hour ahead of standard time, or not at all. -/
theorem offsetAt_eastern_cases (instant : Int) :
    eastern.offsetAt instant = daylightOffset ∨ eastern.offsetAt instant = standardOffset :=
  (offsetAt_eastern instant).imp And.right And.right

/-- A reading is understood under one of these two offsets as well. -/
theorem offsetOfReading?_eastern_cases {offset : Int}
    (found : eastern.offsetOfReading? reading = some offset) :
    offset = daylightOffset ∨ offset = standardOffset :=
  (understood_cases found).imp And.right And.right

/-- From the instant of the change in spring the clock shows an hour more: the readings within this
hour, from the one at the change on, are not shown. -/
theorem reading_ne_of_skipped {year : Int} (reached : springInstant year ≤ reading - standardOffset)
    (notYet : reading - daylightOffset < springInstant year) (instant : Int) :
    instant + eastern.offsetAt instant ≠ reading := by
  intro shown
  have changes := changes_within_year year
  rcases offsetAt_eastern instant with ⟨⟨other, between⟩, offset⟩ | ⟨standard, offset⟩
  · -- The clock would be ahead within the last hour before it is put forward.
    rw [offset] at shown
    have same : other = year := by
      rw [← yearOf_of_isDaylight between]
      apply yearOf_eq
      · simp only [standardOffset, daylightOffset] at *
        omega
      · simp only [standardOffset, daylightOffset] at *
        omega
    rw [same] at between
    have spring := between.1
    omega
  · -- The clock would be behind within the first hour after it was put forward.
    rw [offset] at shown
    have between : IsDaylight year instant := by
      constructor
      · omega
      · simp only [standardOffset, daylightOffset] at *
        omega
    exact standard year between

theorem reading_ne_of_skipsAt (skips : eastern.SkipsAt reading) (instant : Int) :
    instant + eastern.offsetAt instant ≠ reading := by
  obtain ⟨year, twoOClock⟩ := skips
  have change : reading - standardOffset = springInstant year := by rw [twoOClock, springInstant]
  apply reading_ne_of_skipped (Int.le_of_eq change.symm)
  simp only [standardOffset, daylightOffset] at *
  omega

theorem offsetOfReading?_of_skipsAt (skips : eastern.SkipsAt reading) :
    eastern.offsetOfReading? reading = some standardOffset := by
  obtain ⟨year, rfl⟩ := skips
  have spring := springDay_bounds year
  have leap := leapDay_cases year
  have day : (springDay year * 86400 + 7200) / 86400 = springDay year := by omega
  have sameYear : yearOf (springDay year) = year := by
    apply yearOf_eq
    · omega
    · rw [yearStart_succ]
      omega
  simp only [offsetOfReading?, day, sameYear]
  exact if_pos (Int.le_refl _)

theorem reading_ne_of_offsetOfReading?_eq_none (refused : eastern.offsetOfReading? reading = none)
    (instant : Int) : instant + eastern.offsetAt instant ≠ reading := by
  rcases offsetOfReading?_eastern reading with ⟨⟨year, passed, notYet⟩, -⟩ | ⟨-, found⟩ | ⟨-, found⟩
  · exact reading_ne_of_skipped (Int.le_of_lt passed) notYet instant
  · rw [found] at refused
    contradiction
  · rw [found] at refused
    contradiction

/-- No instant that shows a reading comes after the one that the reading is understood as. -/
theorem le_of_offsetOfReading? {offset : Int}
    (found : eastern.offsetOfReading? reading = some offset)
    (shown : instant + eastern.offsetAt instant = reading) : instant ≤ reading - offset := by
  rcases understood_cases found with ⟨⟨year, spring, autumn⟩, rfl⟩ | ⟨-, rfl⟩
  · rcases offsetAt_eastern instant with ⟨-, ahead⟩ | ⟨notAhead, behind⟩
    · omega
    · -- In standard time it would be shown later, but before the clock is put back.
      have between : IsDaylight year instant := by
        simp only [IsDaylight, standardOffset, daylightOffset] at *
        omega
      exact absurd between (notAhead year)
  · rcases offsetAt_eastern_cases instant with ahead | behind
    · simp only [standardOffset, daylightOffset] at *
      omega
    · omega

/-- A reading is shown at two instants at most. -/
theorem le_of_shown_twice {earlier later : Int} (order : earlier < later)
    (shown : earlier + eastern.offsetAt earlier = reading)
    (again : later + eastern.offsetAt later = reading)
    (other : instant + eastern.offsetAt instant = reading) : instant ≤ later := by
  -- The clock was put back in between, so no reading of the later instant is behind its own.
  have behind : eastern.offsetAt later = standardOffset := by
    rcases offsetAt_eastern_cases later with ahead | behind
    · rcases offsetAt_eastern_cases earlier with before | before
      · omega
      · simp only [standardOffset, daylightOffset] at *
        omega
    · exact behind
  rcases offsetAt_eastern_cases instant with ahead | standard
  · simp only [standardOffset, daylightOffset] at *
    omega
  · omega

end Readings

section Dates

/-- At an instant the clock shows this date and this time of day. -/
def Shows (zone : Zone) (d : Date) (t : TimeOfDay) (instant : Int) : Prop :=
  (Moment.ofInstant zone ⟨instant, 0⟩).date = d ∧
    (Moment.ofInstant zone ⟨instant, 0⟩).timeOfDay = t

variable {d : Date} {t : TimeOfDay}

theorem shows_iff (zone : Zone) (inCalendar : d.Exists) (t : TimeOfDay) (instant : Int) :
    zone.Shows d t instant ↔
      instant + zone.offsetAt instant = d.dayNumber * 86400 + t.seconds := by
  have small := t.seconds_lt
  generalize reads : instant + zone.offsetAt instant = reading
  have date : (Moment.ofInstant zone ⟨instant, 0⟩).date = Date.ofDayNumber (reading / 86400) := by
    rw [← reads]
    rfl
  have time : (Moment.ofInstant zone ⟨instant, 0⟩).timeOfDay =
      TimeOfDay.ofSeconds (reading % 86400).toNat := by
    rw [← reads]
    rfl
  rw [Shows, date, time]
  constructor
  · rintro ⟨rfl, rfl⟩
    rw [Date.dayNumber_ofDayNumber, TimeOfDay.seconds_ofSeconds (by omega)]
    omega
  · intro same
    have day : reading / 86400 = d.dayNumber := by omega
    have seconds : (reading % 86400).toNat = t.seconds := by omega
    rw [day, seconds]
    exact ⟨Date.ofDayNumber_dayNumber inCalendar, TimeOfDay.ofSeconds_seconds t⟩

end Dates

end Provision.Zone

namespace Provision.Moment

open Calendar Zone

variable {text : String} {d : Date} {t : TimeOfDay}

section Understanding

/-- A date with a year of four digits is far from the last one that is kept. -/
theorem reading_le_of_names (named : Names d t text.toList) (inCalendar : d.Exists) :
    d.dayNumber * 86400 + t.seconds + 86400 ≤ lastSecond := by
  have years := named.year_bounds
  have small := t.seconds_lt
  have within : d.dayNumber < yearStart 10000 := by
    have year : yearOf d.dayNumber = d.year :=
      congrArg Date.year (Date.ofDayNumber_dayNumber inCalendar)
    calc d.dayNumber < yearStart (yearOf d.dayNumber + 1) := (yearOf_spec d.dayNumber).2
      _ ≤ yearStart 10000 := yearStart_mono (by omega)
  have tenThousand : yearStart 10000 = 2932897 := by decide
  have last : lastSecond = 8210266876799 := by decide
  omega

theorem read_eq_error_of_names (named : Names d t text.toList) (inCalendar : d.Exists)
    (refused : eastern.offsetOfReading? (d.dayNumber * 86400 + t.seconds) = none) :
    read eastern text = .error (.skipped text) := by
  have unseen : ofClockReading? eastern ⟨d, t, false⟩ = none := by
    rw [ofClockReading?, ClockReading.seconds, refused]
    rfl
  rw [read, clockReading?_of_names named inCalendar]
  dsimp only
  rw [unseen]

theorem read_eq_ok_of_names (named : Names d t text.toList) (inCalendar : d.Exists) {offset : Int}
    (found : eastern.offsetOfReading? (d.dayNumber * 86400 + t.seconds) = some offset) :
    read eastern text =
      .ok ⟨⟨d.dayNumber * 86400 + t.seconds - offset, 0⟩, offset, eastern⟩ := by
  have early := reading_le_of_names named inCalendar
  have notFar : -86400 ≤ offset := by
    rcases offsetOfReading?_eastern_cases found with rfl | rfl
    · decide
    · decide
  apply (read_eq_ok_iff eastern text _).mpr
  refine ⟨⟨d, t, false⟩, clockReading?_of_names named inCalendar, ?_⟩
  apply (ofClockReading?_eq_some_iff eastern _ _).mpr
  refine ⟨offset, found, ?_, rfl⟩
  simp only [ClockReading.seconds]
  omega

/-- A date and time that the clock shows is read as the last instant that shows it. -/
theorem read_eq_ok_of_last (named : Names d t text.toList) (inCalendar : d.Exists) {instant : Int}
    (shown : eastern.Shows d t instant)
    (last : ∀ other, eastern.Shows d t other → other ≤ instant) :
    read eastern text = .ok (ofInstant eastern ⟨instant, 0⟩) := by
  simp only [shows_iff eastern inCalendar] at shown last
  generalize reads : d.dayNumber * 86400 + t.seconds = reading at *
  have goesOn : ¬ eastern.SkipsAt reading := fun skips => reading_ne_of_skipsAt skips instant shown
  cases found : eastern.offsetOfReading? reading with
  | none => exact absurd shown (reading_ne_of_offsetOfReading?_eq_none found instant)
  | some offset =>
    have offsetThere := offsetAt_of_not_skipsAt goesOn found
    have same : instant = reading - offset := by
      apply Int.le_antisymm (le_of_offsetOfReading? found shown)
      apply last
      rw [offsetThere]
      omega
    have understood := read_eq_ok_of_names named inCalendar (reads ▸ found)
    rw [understood, reads, ofInstant, same, offsetThere]

end Understanding

section Texts

/-- Where no instant shows a date and time its text is refused, but for the time at which the clock
is put forward, which is read under the offset of standard time. Where one instant shows it, or two
do, it is read as the only one, or as the later of the two. -/
theorem read_of_names (named : Names d t text.toList) (inCalendar : d.Exists) :
    ((∀ i, ¬ eastern.Shows d t i) → ¬ eastern.SkipsAt (d.dayNumber * 86400 + t.seconds) →
        read eastern text = .error (.skipped text)) ∧
      (eastern.SkipsAt (d.dayNumber * 86400 + t.seconds) →
        (∀ i, ¬ eastern.Shows d t i) ∧ read eastern text =
          .ok ⟨⟨d.dayNumber * 86400 + t.seconds - standardOffset, 0⟩, standardOffset, eastern⟩) ∧
      (∀ i, eastern.Shows d t i → (∀ j, eastern.Shows d t j → j = i) →
        read eastern text = .ok (ofInstant eastern ⟨i, 0⟩)) ∧
      ∀ i j, eastern.Shows d t i → eastern.Shows d t j → i < j →
        read eastern text = .ok (ofInstant eastern ⟨j, 0⟩) := by
  refine ⟨?_, ?_, ?_, ?_⟩
  · intro unseen goesOn
    apply read_eq_error_of_names named inCalendar
    cases found : eastern.offsetOfReading? (d.dayNumber * 86400 + t.seconds) with
    | none => rfl
    | some offset =>
      have shown : eastern.Shows d t (d.dayNumber * 86400 + t.seconds - offset) := by
        rw [shows_iff eastern inCalendar, offsetAt_of_not_skipsAt goesOn found, Int.sub_add_cancel]
      exact absurd shown (unseen _)
  · intro skips
    constructor
    · intro i shown
      exact reading_ne_of_skipsAt skips i ((shows_iff eastern inCalendar t i).mp shown)
    · exact read_eq_ok_of_names named inCalendar (offsetOfReading?_of_skipsAt skips)
  · intro i shown alone
    exact read_eq_ok_of_last named inCalendar shown fun j also => Int.le_of_eq (alone j also)
  · intro i j shown again order
    apply read_eq_ok_of_last named inCalendar again
    intro k other
    rw [shows_iff eastern inCalendar] at shown again other
    exact le_of_shown_twice order shown again other

/-- Two o'clock was not shown on the second Sunday of March 2011, but it is read. -/
theorem read_of_names_never_shown :
    Names ⟨2011, 3, 13⟩ (TimeOfDay.ofSeconds 7200) "2011-03-13 02:00:00".toList ∧
      Date.Exists ⟨2011, 3, 13⟩ ∧
      (∀ i, ¬ eastern.Shows ⟨2011, 3, 13⟩ (TimeOfDay.ofSeconds 7200) i) ∧
      read eastern "2011-03-13 02:00:00" = .ok ⟨⟨1299999600, 0⟩, -18000, eastern⟩ := by
  have named := @names_text ⟨⟨1299999600, 0⟩, -18000, eastern⟩ (by decide) rfl
  have inCalendar : Date.Exists ⟨2011, 3, 13⟩ := by decide
  have skips : eastern.SkipsAt (Date.dayNumber ⟨2011, 3, 13⟩ * 86400 +
      (TimeOfDay.ofSeconds 7200).seconds) := ⟨2011, by decide⟩
  obtain ⟨unseen, understood⟩ := (read_of_names named inCalendar).2.1 skips
  exact ⟨named, inCalendar, unseen, understood⟩

/-- Half past one was shown twice on the first Sunday of November 2011, and it is read as the later
of the two instants. -/
theorem read_shown_twice :
    Names ⟨2011, 11, 6⟩ (TimeOfDay.ofSeconds 5400) "2011-11-06 01:30:00".toList ∧
      Date.Exists ⟨2011, 11, 6⟩ ∧
      (∀ i, eastern.Shows ⟨2011, 11, 6⟩ (TimeOfDay.ofSeconds 5400) i ↔
        i = 1320557400 ∨ i = 1320561000) ∧
      read eastern "2011-11-06 01:30:00" ≠ .ok (ofInstant eastern ⟨1320557400, 0⟩) ∧
      read eastern "2011-11-06 01:30:00" = .ok (ofInstant eastern ⟨1320561000, 0⟩) := by
  have named := @names_text (ofInstant eastern ⟨1320561000, 0⟩) (by decide) rfl
  have inCalendar : Date.Exists ⟨2011, 11, 6⟩ := by decide
  have reading : Date.dayNumber ⟨2011, 11, 6⟩ * 86400 + (TimeOfDay.ofSeconds 5400).seconds =
      1320543000 := by decide
  refine ⟨named, inCalendar, ?_, by decide +kernel, by decide +kernel⟩
  intro i
  rw [shows_iff eastern inCalendar, reading]
  constructor
  · intro shown
    rcases offsetAt_eastern_cases i with ahead | behind
    · left
      simp only [daylightOffset] at ahead
      omega
    · right
      simp only [standardOffset] at behind
      omega
  · rintro (rfl | rfl)
    · decide
    · decide

/-- Where the clock shows the date and time of an instant only once, in a year from 0 to 9999, the
text of the moment is read as that moment. -/
theorem read_text {m : Moment} {i : Int} (whole : m = ofInstant eastern ⟨i, 0⟩)
    (years : 0 ≤ m.date.year ∧ m.date.year ≤ 9999)
    (alone : ∀ j, eastern.Shows m.date m.timeOfDay j → j = i) : read eastern m.text = .ok m := by
  subst whole
  have named := names_text years rfl
  have inCalendar := exists_date (ofInstant eastern ⟨i, 0⟩)
  have shown : eastern.Shows (ofInstant eastern ⟨i, 0⟩).date
      (ofInstant eastern ⟨i, 0⟩).timeOfDay i := ⟨rfl, rfl⟩
  exact read_eq_ok_of_last named inCalendar shown fun j also => Int.le_of_eq (alone j also)

/-- Noon of the leap day of the year zero. -/
def noonOfYearZero : Moment := ofInstant eastern ⟨-62162060400, 0⟩

theorem read_text_noon :
    noonOfYearZero.text = "0000-02-29 12:00:00" ∧
      (0 ≤ noonOfYearZero.date.year ∧ noonOfYearZero.date.year ≤ 9999) ∧
      (∀ j, eastern.Shows noonOfYearZero.date noonOfYearZero.timeOfDay j → j = -62162060400) ∧
      read eastern "0000-02-29 12:00:00" = .ok noonOfYearZero := by
  have text : noonOfYearZero.text = "0000-02-29 12:00:00" := by decide +kernel
  have years : 0 ≤ noonOfYearZero.date.year ∧ noonOfYearZero.date.year ≤ 9999 := by decide
  have alone : ∀ j, eastern.Shows noonOfYearZero.date noonOfYearZero.timeOfDay j →
      j = -62162060400 := by
    intro j shown
    rw [shows_iff eastern noonOfYearZero.exists_date] at shown
    have reading : noonOfYearZero.date.dayNumber * 86400 + noonOfYearZero.timeOfDay.seconds =
        -62162078400 := by decide
    rcases offsetAt_eastern_cases j with ahead | behind
    · -- An hour before, in winter, the clock was not ahead.
      have before : j = -62162064000 := by
        rw [ahead, reading, daylightOffset] at shown
        omega
      rw [before] at ahead
      exact absurd ahead (by decide)
    · rw [behind, reading, standardOffset] at shown
      omega
  exact ⟨text, years, alone, text ▸ read_text rfl years alone⟩

end Texts

end Provision.Moment
