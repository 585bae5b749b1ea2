import Provision.Calendar.Reading
import Provision.Proofs.Calendar.Gregorian

/-!
The two changes of the clock in a year. Which offset holds at an instant, and which one a clock
reading is understood under, is said by the changes alone, without the year that is looked up for
them. Put back in autumn, the clock shows one hour twice but never comes back to an earlier hour.
Put forward in spring, it skips an hour, and the reading at which it does so is the only one that
is understood under another offset than the one that holds at the instant it stands for. No moment
that was read or is an instant on the clock has an offset behind that of the epoch.
-/

namespace Provision.Zone

open Calendar

theorem springDay_bounds (year : Int) :
    yearStart year + 66 ≤ springDay year ∧ springDay year ≤ yearStart year + 73 := by
  have leap := leapDay_cases year
  simp only [springDay, sundayFrom, Date.dayNumber, monthStart]
  omega

theorem autumnDay_bounds (year : Int) :
    yearStart year + 304 ≤ autumnDay year ∧ autumnDay year ≤ yearStart year + 311 := by
  have leap := leapDay_cases year
  simp only [autumnDay, sundayFrom, Date.dayNumber, monthStart]
  omega

/-- Both changes are more than a month away from the ends of the year. -/
theorem changes_within_year (year : Int) :
    (yearStart year + 31) * 86400 ≤ springInstant year ∧
      springInstant year + 86400 ≤ autumnInstant year ∧
        autumnInstant year ≤ (yearStart (year + 1) - 31) * 86400 := by
  have spring := springDay_bounds year
  have autumn := autumnDay_bounds year
  have leap := leapDay_cases year
  rw [yearStart_succ]
  simp only [springInstant, autumnInstant, standardOffset, daylightOffset]
  omega

/-- The instant is between the two changes of the year. -/
def IsDaylight (year instant : Int) : Prop :=
  springInstant year ≤ instant ∧ instant < autumnInstant year

theorem yearOf_of_isDaylight {year instant : Int} (daylight : IsDaylight year instant) :
    yearOf (instant / 86400) = year := by
  obtain ⟨spring, autumn⟩ := daylight
  have changes := changes_within_year year
  apply yearOf_eq
  · omega
  · omega

theorem offsetAt_of_isDaylight {year instant : Int} (daylight : IsDaylight year instant) :
    eastern.offsetAt instant = daylightOffset := by
  simp only [offsetAt, yearOf_of_isDaylight daylight]
  exact if_pos daylight

/-- Daylight time holds between the changes of some year, and standard time elsewhere. -/
theorem offsetAt_eastern (instant : Int) :
    (∃ year, IsDaylight year instant) ∧ eastern.offsetAt instant = daylightOffset ∨
      (∀ year, ¬ IsDaylight year instant) ∧ eastern.offsetAt instant = standardOffset := by
  by_cases daylight : ∃ year, IsDaylight year instant
  · obtain ⟨year, between⟩ := daylight
    exact .inl ⟨⟨year, between⟩, offsetAt_of_isDaylight between⟩
  · have standard : ∀ year, ¬ IsDaylight year instant := not_exists.mp daylight
    exact .inr ⟨standard, if_neg (standard _)⟩

/-- No clock is ever further behind than it was at the epoch, which is in winter. -/
theorem offsetAt_epoch_le (zone : Zone) (instant : Int) :
    zone.offsetAt 0 ≤ zone.offsetAt instant := by
  cases zone with
  | fixed offset => exact le_refl offset
  | eastern =>
    have winter : eastern.offsetAt 0 = standardOffset := by decide
    rcases offsetAt_eastern instant with ⟨-, offset⟩ | ⟨-, offset⟩
    · rw [winter, offset]
      decide
    · rw [winter, offset]

/-- The hour that the clock shows, counted through the days, never goes back. -/
theorem hour_mono (zone : Zone) {earlier later : Int} (order : earlier ≤ later) :
    (earlier + zone.offsetAt earlier) / 3600 ≤ (later + zone.offsetAt later) / 3600 := by
  cases zone with
  | fixed offset =>
    simp only [offsetAt]
    omega
  | eastern =>
    rcases offsetAt_eastern earlier with ⟨⟨year, spring, autumn⟩, offset⟩ | ⟨-, offset⟩
    · rcases offsetAt_eastern later with ⟨-, offset'⟩ | ⟨standard, offset'⟩
      · rw [offset, offset']
        omega
      -- The clock was put back in between, at a full hour: the hour before it is shown again.
      · have notDaylight := standard year
        have putBack : autumnInstant year ≤ later := by
          unfold IsDaylight at notDaylight
          omega
        rw [offset, offset']
        simp only [autumnInstant, standardOffset, daylightOffset] at *
        omega
    · rcases offsetAt_eastern later with ⟨-, offset'⟩ | ⟨-, offset'⟩
      · rw [offset, offset']
        simp only [standardOffset, daylightOffset]
        omega
      · rw [offset, offset']
        omega

/-- Before the change of one year in spring, or after that in autumn, a reading is before or after
those of every other year too. -/
theorem standard_of_year {year reading : Int} (first : yearStart year ≤ reading / 86400)
    (last : reading / 86400 < yearStart (year + 1))
    (outside : reading - standardOffset ≤ springInstant year ∨
      autumnInstant year ≤ reading - standardOffset) (other : Int) :
    reading - standardOffset ≤ springInstant other ∨
      autumnInstant other ≤ reading - standardOffset := by
  have changes := changes_within_year other
  simp only [standardOffset] at *
  rcases lt_trichotomy other year with earlier | same | later
  · have := yearStart_mono (Int.add_one_le_of_lt earlier)
    right
    omega
  · rw [same]
    exact outside
  · have := yearStart_mono (Int.add_one_le_of_lt later)
    left
    omega

/-- The clock passes over the readings within the hour that is skipped in spring. From the end of
that hour it is understood to show daylight time, up to the hour that is shown twice in autumn, and
standard time elsewhere. -/
theorem offsetOfReading?_eastern (reading : Int) :
    (∃ year, springInstant year < reading - standardOffset ∧
        reading - daylightOffset < springInstant year) ∧
      eastern.offsetOfReading? reading = none ∨
    (∃ year, springInstant year ≤ reading - daylightOffset ∧
        reading - standardOffset < autumnInstant year) ∧
      eastern.offsetOfReading? reading = some daylightOffset ∨
    (∀ year, reading - standardOffset ≤ springInstant year ∨
        autumnInstant year ≤ reading - standardOffset) ∧
      eastern.offsetOfReading? reading = some standardOffset := by
  obtain ⟨first, last⟩ := yearOf_spec (reading / 86400)
  simp only [offsetOfReading?]
  generalize yearOf (reading / 86400) = year at *
  have standard := standard_of_year first last
  split
  case isTrue before =>
    right; right
    refine ⟨standard (.inl ?_), rfl⟩
    simp only [springInstant]
    omega
  case isFalse notBefore =>
    split
    case isTrue skipped =>
      left
      refine ⟨⟨year, ?_, ?_⟩, rfl⟩
      · simp only [springInstant]
        omega
      · simp only [springInstant, standardOffset, daylightOffset]
        omega
    case isFalse notSkipped =>
      split
      case isTrue daylight =>
        right; left
        refine ⟨⟨year, ?_, ?_⟩, rfl⟩
        · simp only [springInstant, standardOffset, daylightOffset]
          omega
        · simp only [autumnInstant, standardOffset, daylightOffset]
          omega
      case isFalse after =>
        right; right
        refine ⟨standard (.inr ?_), rfl⟩
        simp only [autumnInstant, standardOffset, daylightOffset]
        omega

/-- The readings that have an instant: those from the skipped hour in spring to the repeated one in
autumn, and those outside of the time between the changes of any year. -/
theorem understood_cases {reading offset : Int}
    (found : eastern.offsetOfReading? reading = some offset) :
    (∃ year, springInstant year ≤ reading - daylightOffset ∧
        reading - standardOffset < autumnInstant year) ∧ offset = daylightOffset ∨
      (∀ year, reading - standardOffset ≤ springInstant year ∨
        autumnInstant year ≤ reading - standardOffset) ∧ offset = standardOffset := by
  rcases offsetOfReading?_eastern reading with
    ⟨-, none⟩ | ⟨between, daylight⟩ | ⟨outside, standard⟩
  · rw [none] at found
    contradiction
  · rw [daylight, Option.some_inj] at found
    exact .inl ⟨between, found.symm⟩
  · rw [standard, Option.some_inj] at found
    exact .inr ⟨outside, found.symm⟩

/-- Nor is a reading ever understood as one of a clock further behind. -/
theorem offsetAt_epoch_le_of_understood {zone : Zone} {reading offset : Int}
    (found : zone.offsetOfReading? reading = some offset) : zone.offsetAt 0 ≤ offset := by
  cases zone with
  | fixed _ => exact le_of_eq (Option.some.inj found)
  | eastern =>
    have winter : eastern.offsetAt 0 = standardOffset := by decide
    rw [winter]
    rcases understood_cases found with ⟨-, rfl⟩ | ⟨-, rfl⟩
    · decide
    · exact le_refl standardOffset

/-- The clock is put forward when it comes to this reading, at two in the morning of the second
Sunday of March. -/
def SkipsAt (zone : Zone) (reading : Int) : Prop :=
  match zone with
  | .fixed _ => False
  | .eastern => ∃ year, reading = springDay year * 86400 + 7200

theorem two_o_clock_of_skipsAt {zone : Zone} {reading : Int} (skips : zone.SkipsAt reading) :
    reading % 86400 = 7200 := by
  cases zone with
  | fixed _ => exact skips.elim
  | eastern =>
    obtain ⟨year, rfl⟩ := skips
    omega

/-- The clock has gone an hour forward at the instant that such a reading stands for. -/
theorem offsetAt_of_skipsAt {zone : Zone} {reading offset : Int} (skips : zone.SkipsAt reading)
    (found : zone.offsetOfReading? reading = some offset) :
    zone.offsetAt (reading - offset) = offset + 3600 := by
  cases zone with
  | fixed _ => exact skips.elim
  | eastern =>
    obtain ⟨year, twoOClock⟩ := skips
    have change : reading - standardOffset = springInstant year := by
      rw [twoOClock, springInstant]
    have daylight : IsDaylight year (springInstant year) := by
      have := changes_within_year year
      unfold IsDaylight
      omega
    rcases understood_cases found with ⟨⟨other, spring, autumn⟩, -⟩ | ⟨-, rfl⟩
    · -- Only the same year has its daylight time then, and it has not begun yet.
      rw [change] at autumn
      have between : IsDaylight other (springInstant year) := by
        simp only [IsDaylight, standardOffset, daylightOffset] at *
        omega
      have same : other = year := by
        rw [← yearOf_of_isDaylight between, yearOf_of_isDaylight daylight]
      subst same
      simp only [standardOffset, daylightOffset] at *
      omega
    · rw [change, offsetAt_of_isDaylight daylight]
      rfl

/-- Any other reading is understood under the offset that holds at the instant it stands for. -/
theorem offsetAt_of_not_skipsAt {zone : Zone} {reading offset : Int}
    (goesOn : ¬ zone.SkipsAt reading) (found : zone.offsetOfReading? reading = some offset) :
    zone.offsetAt (reading - offset) = offset := by
  cases zone with
  | fixed _ => exact Option.some.inj found
  | eastern =>
    rcases understood_cases found with ⟨⟨year, spring, autumn⟩, rfl⟩ | ⟨outside, rfl⟩
    · have between : IsDaylight year (reading - daylightOffset) := by
        simp only [IsDaylight, standardOffset, daylightOffset] at *
        omega
      exact offsetAt_of_isDaylight between
    · rcases offsetAt_eastern (reading - standardOffset) with ⟨⟨year, spring, autumn⟩, -⟩ | ⟨-, same⟩
      · have atChange : reading - standardOffset = springInstant year := by
          have := outside year
          omega
        refine absurd ⟨year, ?_⟩ goesOn
        simp only [springInstant] at atChange
        omega
      · exact same

end Provision.Zone

namespace Provision.Moment

theorem ofClockReading?_eq_some_iff (zone : Zone) (r : ClockReading) (m : Moment) :
    ofClockReading? zone r = some m ↔
      ∃ offset, zone.offsetOfReading? r.seconds = some offset ∧ r.seconds - offset ≤ lastSecond ∧
        ⟨⟨r.seconds - offset, if r.leap then 1000000000 else 0⟩, offset, zone⟩ = m := by
  simp only [ofClockReading?, Option.bind_eq_bind, Option.bind_eq_some_iff]
  refine exists_congr fun offset => and_congr_right fun _ => ?_
  split
  case isTrue tooLate =>
    simp only [reduceCtorEq, false_iff, not_and]
    intro inTime
    omega
  case isFalse inTime =>
    simp only [pure, Option.some_inj, Int.not_lt.mp inTime, true_and]

theorem read_eq_ok_iff (zone : Zone) (text : String) (m : Moment) :
    read zone text = .ok m ↔
      ∃ r, clockReading? (Text.trim text.toList) = some r ∧ ofClockReading? zone r = some m := by
  unfold read
  cases clockReading? (Text.trim text.toList) with
  | none => simp only [reduceCtorEq, false_and, exists_false]
  | some r =>
    cases found : ofClockReading? zone r with
    | none => simp only [Option.some_inj, exists_eq_left', found, reduceCtorEq]
    | some m' => simp only [Option.some_inj, exists_eq_left', found, Except.ok.injEq]

/-- A moment that was read keeps the offset under which its reading was understood. -/
theorem offset_of_read {zone : Zone} {text : String} {m : Moment} (found : read zone text = .ok m) :
    m.zone = zone ∧ zone.offsetOfReading? m.reading = some m.offset := by
  obtain ⟨r, -, made⟩ := (read_eq_ok_iff zone text m).mp found
  obtain ⟨offset, understood, -, rfl⟩ := (ofClockReading?_eq_some_iff zone r m).mp made
  refine ⟨rfl, ?_⟩
  simp only [reading, Int.sub_add_cancel]
  exact understood

/-- A clock has shown this moment: it is an instant on the clock of its zone, or it was read. -/
def IsShown (m : Moment) : Prop :=
  m = ofInstant m.zone m.instant ∨ ∃ text, read m.zone text = .ok m

theorem isShown_ofInstant (zone : Zone) (i : Instant) : (ofInstant zone i).IsShown := .inl rfl

theorem isShown_of_read {zone : Zone} {text : String} {m : Moment}
    (found : read zone text = .ok m) : m.IsShown := by
  rw [← (offset_of_read found).1] at found
  exact .inr ⟨text, found⟩

/-- It was shown under an offset that is not behind that of the epoch. -/
theorem IsShown.offsetAt_epoch_le {m : Moment} (shown : m.IsShown) :
    m.zone.offsetAt 0 ≤ m.offset := by
  rcases shown with atInstant | ⟨text, found⟩
  · rw [atInstant]
    exact m.zone.offsetAt_epoch_le m.instant.seconds
  · exact Zone.offsetAt_epoch_le_of_understood (offset_of_read found).2

/-- Read anew on the clock of its zone, a moment shows what it was read from, or an hour more where
the clock is just put forward. -/
theorem reading_anew {zone : Zone} {text : String} {m : Moment} (found : read zone text = .ok m) :
    (ofInstant m.zone m.instant).reading = m.reading ∧ ¬ zone.SkipsAt m.reading ∨
      (ofInstant m.zone m.instant).reading = m.reading + 3600 ∧ zone.SkipsAt m.reading := by
  obtain ⟨sameZone, understood⟩ := offset_of_read found
  have instant : m.instant.seconds = m.reading - m.offset := (Int.add_sub_cancel _ _).symm
  by_cases skips : zone.SkipsAt m.reading
  · have ahead := Zone.offsetAt_of_skipsAt skips understood
    rw [← instant] at ahead
    refine .inr ⟨?_, skips⟩
    simp only [ofInstant, reading, sameZone, ahead]
    omega
  · have same := Zone.offsetAt_of_not_skipsAt skips understood
    rw [← instant] at same
    refine .inl ⟨?_, skips⟩
    simp only [ofInstant, reading, sameZone, same]

end Provision.Moment
