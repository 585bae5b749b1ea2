import Mathlib.Order.Monotone.Basic
import Provision.Calendar.Date

/-!
Years and months cut the days into stretches without a gap, so the year and the month that are
computed for a day are the ones that it is in, and the two counts, by day numbers and by dates that
exist, agree with each other. From one day to the next the date goes on by the lengths of months.
-/

namespace Provision.Calendar

theorem leapDay_cases (year : Int) : leapDay year = 0 ∨ leapDay year = 1 := by
  unfold leapDay
  split
  · exact .inr rfl
  · exact .inl rfl

/-- A year has 365 days, and one more if it is a leap year. -/
theorem yearStart_succ (year : Int) :
    yearStart (year + 1) = yearStart year + 365 + leapDay year := by
  simp only [yearStart, leapDay, isLeapYear, Bool.and_eq_true, Bool.or_eq_true, decide_eq_true_eq]
  split <;> omega

theorem yearStart_mono {a b : Int} (order : a ≤ b) : yearStart a ≤ yearStart b := by
  refine monotone_int_of_le_succ (fun year => ?_) order
  have days := yearStart_succ year
  have := leapDay_cases year
  omega

/-- In 400 years there are 146097 days; elsewhere a year begins within two days of the mean. -/
theorem yearStart_near_mean (year : Int) :
    146097 * (year - 1970) - 600 ≤ 400 * yearStart year ∧
      400 * yearStart year ≤ 146097 * (year - 1970) + 600 := by
  simp only [yearStart]
  omega

/-- A day is in the year that is computed for it. -/
theorem yearOf_spec (day : Int) :
    yearStart (yearOf day) ≤ day ∧ day < yearStart (yearOf day + 1) := by
  have before := yearStart_near_mean (1970 + 400 * day / 146097 - 1)
  have after := yearStart_near_mean (1970 + 400 * day / 146097 + 1 + 1)
  simp only [yearOf]
  split
  case isTrue early =>
    rw [Int.sub_add_cancel]
    exact ⟨by omega, early⟩
  case isFalse notEarly =>
    split
    case isTrue late => exact ⟨late, by omega⟩
    case isFalse notLate => exact ⟨by omega, by omega⟩

theorem yearOf_eq {day year : Int} (first : yearStart year ≤ day)
    (last : day < yearStart (year + 1)) : yearOf day = year := by
  obtain ⟨first', last'⟩ := yearOf_spec day
  rcases lt_trichotomy (yearOf day) year with earlier | same | later
  · have := yearStart_mono (Int.add_one_le_of_lt earlier)
    omega
  · exact same
  · have := yearStart_mono (Int.add_one_le_of_lt later)
    omega

section Months

variable {leap : Int}

theorem monthStart_le_succ (days : 0 ≤ leap) (month : Nat) :
    monthStart leap month ≤ monthStart leap (month + 1) := by
  match month with
  | 0 | 1 | 2 | 3 | 4 | 5 | 6 | 7 | 8 | 9 | 10 | 11 | 12 =>
    simp only [monthStart]
    omega
  | _ + 13 => exact Int.le_refl _

theorem monthStart_mono (days : 0 ≤ leap) {a b : Nat} (order : a ≤ b) :
    monthStart leap a ≤ monthStart leap b :=
  monotone_nat_of_le_succ (monthStart_le_succ days) order

theorem monthStart_nonneg (days : 0 ≤ leap) (month : Nat) : 0 ≤ monthStart leap month :=
  monthStart_mono days (Nat.zero_le month)

/-- All months are over when the year is. -/
theorem monthStart_succ_le (days : 0 ≤ leap) {month : Nat} (twelve : month ≤ 12) :
    monthStart leap (month + 1) ≤ 365 + leap :=
  monthStart_mono days (Nat.add_le_add_right twelve 1)

/-- A day of the year is in the month that is computed for it. -/
theorem monthOf_spec {dayOfYear : Int} (first : 0 ≤ dayOfYear) (last : dayOfYear < 365 + leap) :
    1 ≤ monthOf leap dayOfYear ∧ monthOf leap dayOfYear ≤ 12 ∧
      monthStart leap (monthOf leap dayOfYear) ≤ dayOfYear ∧
        dayOfYear < monthStart leap (monthOf leap dayOfYear + 1) := by
  have january : monthStart leap 1 = 0 := rfl
  have december : monthStart leap 13 = 365 + leap := rfl
  fun_cases monthOf leap dayOfYear
  all_goals
    simp only [Nat.reduceAdd]
    omega

theorem monthOf_eq (days : 0 ≤ leap) {dayOfYear : Int} {month : Nat} (twelve : month ≤ 12)
    (first : monthStart leap month ≤ dayOfYear)
    (last : dayOfYear < monthStart leap (month + 1)) : monthOf leap dayOfYear = month := by
  have january := monthStart_nonneg days month
  have december := monthStart_succ_le days twelve
  obtain ⟨-, -, first', last'⟩ :=
    monthOf_spec (Int.le_trans january first) (Int.lt_of_lt_of_le last december)
  rcases lt_trichotomy (monthOf leap dayOfYear) month with earlier | same | later
  · have := monthStart_mono days (Nat.add_one_le_of_lt earlier)
    omega
  · exact same
  · have := monthStart_mono days (Nat.add_one_le_of_lt later)
    omega

end Months

end Provision.Calendar

namespace Provision.Date

open Calendar

theorem leapDay_nonneg (year : Int) : 0 ≤ leapDay year := by
  rcases leapDay_cases year with none | one <;> omega

/-- The month of a day within its year. -/
theorem month_ofDayNumber_spec (n : Int) :
    let d := ofDayNumber n
    1 ≤ d.month ∧ d.month ≤ 12 ∧ monthStart (leapDay d.year) d.month ≤ n - yearStart d.year ∧
      n - yearStart d.year < monthStart (leapDay d.year) (d.month + 1) := by
  obtain ⟨first, last⟩ := yearOf_spec n
  rw [yearStart_succ] at last
  exact monthOf_spec (by omega) (by omega)

theorem exists_ofDayNumber (n : Int) : (ofDayNumber n).Exists := by
  obtain ⟨one, twelve, first, last⟩ := month_ofDayNumber_spec n
  refine ⟨one, twelve, ?_, ?_⟩
  · simp only [ofDayNumber] at *
    omega
  · simp only [ofDayNumber] at *
    omega

theorem dayNumber_ofDayNumber (n : Int) : (ofDayNumber n).dayNumber = n := by
  obtain ⟨-, -, first, -⟩ := month_ofDayNumber_spec n
  simp only [dayNumber, ofDayNumber] at *
  omega

theorem ofDayNumber_dayNumber {d : Date} (inCalendar : d.Exists) :
    ofDayNumber d.dayNumber = d := by
  obtain ⟨-, twelve, first, last⟩ := inCalendar
  have january := monthStart_nonneg (leapDay_nonneg d.year) d.month
  have december := monthStart_succ_le (leapDay_nonneg d.year) twelve
  have year : yearOf d.dayNumber = d.year := by
    refine yearOf_eq ?_ ?_
    · unfold dayNumber
      omega
    · rw [yearStart_succ]
      unfold dayNumber
      omega
  have month : monthOf (leapDay d.year) (d.dayNumber - yearStart d.year) = d.month := by
    refine monthOf_eq (leapDay_nonneg d.year) twelve ?_ ?_
    · unfold dayNumber
      omega
    · unfold dayNumber
      omega
  have day : (d.dayNumber - yearStart d.year - monthStart (leapDay d.year) d.month + 1).toNat =
      d.day := by
    unfold dayNumber
    omega
  simp only [ofDayNumber, year, month, day]

/-- Thirty days have April, June, September and November. -/
def daysInMonth (year : Int) : Nat → Nat
  | 4 | 6 | 9 | 11 => 30
  | 2 => if isLeapYear year then 29 else 28
  | _ => 31

/-- The date of the day after. -/
def next (d : Date) : Date :=
  if d.day < daysInMonth d.year d.month then { d with day := d.day + 1 }
  else if d.month < 12 then ⟨d.year, d.month + 1, 1⟩
  else ⟨d.year + 1, 1, 1⟩

theorem monthStart_succ (year : Int) {month : Nat} (one : 1 ≤ month) (twelve : month ≤ 12) :
    monthStart (leapDay year) (month + 1) =
      monthStart (leapDay year) month + daysInMonth year month := by
  match month with
  | 2 =>
    simp only [monthStart, daysInMonth, leapDay]
    split <;> omega
  | 1 | 3 | 4 | 5 | 6 | 7 | 8 | 9 | 10 | 11 | 12 =>
    simp only [monthStart, daysInMonth]
    omega

theorem daysInMonth_bounds (year : Int) (month : Nat) :
    28 ≤ daysInMonth year month ∧ daysInMonth year month ≤ 31 := by
  unfold daysInMonth
  split
  case h_5 =>
    split
    · decide
    · decide
  all_goals decide

theorem daysInMonth_pos (year : Int) (month : Nat) : 1 ≤ daysInMonth year month := by
  have := daysInMonth_bounds year month
  omega

/-- The dates in the calendar are those with a month of the year and a day of that month. -/
theorem exists_iff (d : Date) :
    d.Exists ↔ (1 ≤ d.month ∧ d.month ≤ 12) ∧ 1 ≤ d.day ∧ d.day ≤ daysInMonth d.year d.month := by
  rw [Exists, ← and_assoc]
  refine and_congr_right fun ⟨one, twelve⟩ => and_congr_right fun _ => ?_
  have month := monthStart_succ d.year one twelve
  omega

theorem exists_next {d : Date} (inCalendar : d.Exists) : d.next.Exists := by
  obtain ⟨⟨one, twelve⟩, first, last⟩ := (exists_iff d).mp inCalendar
  rw [exists_iff]
  unfold next
  split
  case isTrue within => exact ⟨⟨one, twelve⟩, Nat.le_add_left 1 d.day, within⟩
  case isFalse monthOver =>
    split
    case isTrue yearGoesOn =>
      exact ⟨⟨Nat.le_add_left 1 d.month, yearGoesOn⟩, le_refl 1, daysInMonth_pos _ _⟩
    case isFalse yearOver =>
      exact ⟨⟨le_refl 1, Nat.le_add_left 1 11⟩, le_refl 1, daysInMonth_pos _ _⟩

theorem dayNumber_next {d : Date} (inCalendar : d.Exists) :
    d.next.dayNumber = d.dayNumber + 1 := by
  obtain ⟨⟨one, twelve⟩, -, last⟩ := (exists_iff d).mp inCalendar
  have month := monthStart_succ d.year one twelve
  unfold next
  split
  case isTrue within =>
    simp only [dayNumber]
    omega
  case isFalse monthOver =>
    split
    case isTrue yearGoesOn =>
      simp only [dayNumber]
      omega
    case isFalse yearOver =>
      have december : d.month = 12 := by omega
      simp only [dayNumber, december, yearStart_succ, monthStart] at *
      omega

/-- The days that follow on each other have dates that do. -/
theorem ofDayNumber_succ (n : Int) : ofDayNumber (n + 1) = (ofDayNumber n).next := by
  have inCalendar := exists_ofDayNumber n
  have number : (ofDayNumber n).next.dayNumber = n + 1 := by
    rw [dayNumber_next inCalendar, dayNumber_ofDayNumber]
  rw [← number, ofDayNumber_dayNumber (exists_next inCalendar)]

theorem exists_firstOfMonth (n : Int) : { ofDayNumber n with day := 1 }.Exists := by
  obtain ⟨one, twelve, positive, last⟩ := exists_ofDayNumber n
  refine ⟨one, twelve, le_refl _, ?_⟩
  dsimp only
  omega

theorem firstOfMonth_eq_iff (m n : Int) :
    firstOfMonth m = firstOfMonth n ↔
      (ofDayNumber m).year = (ofDayNumber n).year ∧
        (ofDayNumber m).month = (ofDayNumber n).month := by
  constructor
  · intro same
    have first := ofDayNumber_dayNumber (exists_firstOfMonth m)
    have first' := ofDayNumber_dayNumber (exists_firstOfMonth n)
    unfold firstOfMonth at same
    rw [same, first'] at first
    have year := congrArg Date.year first
    have month := congrArg Date.month first
    exact ⟨year.symm, month.symm⟩
  · rintro ⟨year, month⟩
    simp only [firstOfMonth, dayNumber, year, month]

/-- Two days of one month are less than 31 days apart. -/
theorem lt_of_firstOfMonth_eq {m n : Int} (same : firstOfMonth m = firstOfMonth n) :
    n < m + 31 := by
  obtain ⟨year, month⟩ := (firstOfMonth_eq_iff m n).mp same
  have number := dayNumber_ofDayNumber m
  have number' := dayNumber_ofDayNumber n
  obtain ⟨-, first, -⟩ := (exists_iff _).mp (exists_ofDayNumber m)
  obtain ⟨-, -, last⟩ := (exists_iff _).mp (exists_ofDayNumber n)
  have days := daysInMonth_bounds (ofDayNumber n).year (ofDayNumber n).month
  simp only [dayNumber, year, month] at number number'
  omega

end Provision.Date
