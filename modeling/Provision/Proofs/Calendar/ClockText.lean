import Mathlib.Data.List.TakeWhile
import Provision.Calendar.Reading
import Provision.Proofs.Calendar.Gregorian
import Provision.Proofs.Text.Blank
import Provision.Proofs.Text.Digits

/-!
Texts of the form `YYYY-MM-DD HH:MM:SS`, each number with all its digits. Such a text is read as the
date and the time of day that its numbers name; and the text of a moment in the years from 0 to 9999
is of this form and names what the clock shows at that moment.
-/

namespace Provision.Moment

open Text

/-- The text has the form `YYYY-MM-DD HH:MM:SS` and names this date and this time of day. -/
inductive Names (d : Date) (t : TimeOfDay) : List Char → Prop
  | intro {year month day hour minute second : List Char} (yearNonneg : 0 ≤ d.year)
      (ofYear : Written 4 year d.year.toNat) (ofMonth : Written 2 month d.month)
      (ofDay : Written 2 day d.day) (ofHour : Written 2 hour t.hour)
      (ofMinute : Written 2 minute t.minute) (ofSecond : Written 2 second t.second) :
      Names d t (year ++ '-' :: (month ++ '-' :: (day ++ ' ' :: (hour ++ ':' :: (minute ++
        ':' :: second)))))

variable {d : Date} {t : TimeOfDay} {cs : List Char}

theorem Names.year_bounds (named : Names d t cs) : 0 ≤ d.year ∧ d.year ≤ 9999 := by
  cases named with
  | intro yearNonneg ofYear =>
    have below : d.year.toNat < 10000 := ofYear.lt
    omega

section Reading

variable {width n : Nat} {ds : List Char}

theorem number?_append (written : Written width ds n) (positive : 0 < width) (rest : List Char) :
    number? width (ds ++ rest) = some (n, rest) := by
  obtain ⟨c, cs, shape, -⟩ := written.eq_cons positive
  have digits : (ds ++ rest).take width = ds := List.take_left' written.length
  have all : ds.takeWhile isDigit = ds := List.takeWhile_eq_self_iff.mpr written.digits
  have found : ds.isEmpty = false := by rw [shape, List.isEmpty_cons]
  simp only [number?, digits, all, found, written.value, List.drop_left, Bool.false_eq_true,
    if_false]

theorem trimLeft_append (written : Written width ds n) (positive : 0 < width) (rest : List Char) :
    trimLeft (ds ++ rest) = ds ++ rest := by
  obtain ⟨c, cs, rfl, digit⟩ := written.eq_cons positive
  exact trimLeft_cons (isBlank_of_isDigit digit) (cs ++ rest)

theorem short?_append (written : Written 2 ds n) (rest : List Char) :
    short? (ds ++ rest) = some (n, rest) := by
  rw [short?, trimLeft_append written (by decide), number?_append written (by decide)]

theorem year?_append (written : Written 4 ds n) (rest : List Char) :
    year? (ds ++ rest) = some ((n : Int), rest) := by
  obtain ⟨c, cs, shape, digit⟩ := written.eq_cons (by decide)
  unfold year?
  rw [trimLeft_append written (by decide)]
  split
  case h_1 minus =>
    rw [shape] at minus
    cases minus
    contradiction
  case h_2 plus =>
    rw [shape] at plus
    cases plus
    contradiction
  case h_3 => rw [number?_append written (by decide), Option.map_some]

theorem mark?_cons (c : Char) (rest : List Char) : mark? c (c :: rest) = some rest := if_pos rfl

theorem fields?_of_names (named : Names d t cs) :
    fields? cs = some (d, t.hour.val, t.minute.val, t.second.val) := by
  cases named with
  | @intro year month day hour minute second yearNonneg ofYear ofMonth ofDay ofHour ofMinute
      ofSecond =>
    have sameYear : (d.year.toNat : Int) = d.year := Int.toNat_of_nonneg yearNonneg
    have blank : ∀ rest, trimLeft (' ' :: (hour ++ rest)) = hour ++ rest :=
      trimLeft_append ofHour (by decide)
    have last : short? second = some (t.second.val, []) := by
      simpa only [List.append_nil] using short?_append ofSecond []
    simp only [fields?, bind, year?_append ofYear, short?_append ofMonth, short?_append ofDay,
      blank, short?_append ofHour, short?_append ofMinute, last, mark?_cons, Option.bind_some,
      sameYear, List.isEmpty_nil, if_true]

theorem isTrimmed_of_names (named : Names d t cs) : IsTrimmed cs := by
  cases named with
  | @intro _ _ _ _ _ second yearNonneg ofYear ofMonth ofDay ofHour ofMinute ofSecond =>
    constructor
    · obtain ⟨c, cs, rfl, digit⟩ := ofYear.eq_cons (by decide)
      intro first same
      cases same
      exact isBlank_of_isDigit digit
    · intro last same
      have shape : second.getLast? = some last := by
        obtain ⟨c, cs, rfl, -⟩ := ofSecond.eq_cons (by decide)
        simpa [List.getLast?_append, List.getLast?_cons] using same
      exact isBlank_of_isDigit (ofSecond.digits last (List.mem_of_getLast? shape))

/-- A text that names a date of the calendar is read as this date with the time of day. -/
theorem clockReading?_of_names (named : Names d t cs) (inCalendar : d.Exists) :
    clockReading? (trim cs) = some ⟨d, t, false⟩ := by
  have inRange : yearInRange d.year = true := by
    have years := named.year_bounds
    simp only [yearInRange, Bool.and_eq_true, decide_eq_true_eq]
    omega
  have noLeap : (t.second.val == 60) = false := beq_false_of_ne (Nat.ne_of_lt t.second.isLt)
  have time : TimeOfDay.ofParts? t.hour t.minute t.second = some t :=
    dif_pos ⟨t.hour.isLt, t.minute.isLt, t.second.isLt⟩
  rw [trim_eq_self (isTrimmed_of_names named), clockReading?, fields?_of_names named]
  simp only [bind, Option.bind_some, inRange, inCalendar, and_self, if_true, noLeap,
    Bool.false_eq_true, if_false, time]
  rfl

end Reading

section Printing

theorem exists_date (m : Moment) : m.date.Exists := Date.exists_ofDayNumber m.day

theorem names_chars {m : Moment} (years : 0 ≤ m.date.year ∧ m.date.year ≤ 9999)
    (noLeap : m.instant.isLeap = false) : Names m.date m.timeOfDay m.chars := by
  obtain ⟨⟨-, twelve⟩, -, last⟩ := (Date.exists_iff m.date).mp m.exists_date
  have days := Date.daysInMonth_bounds m.date.year m.date.month
  have month : m.date.month < 100 := Nat.lt_of_le_of_lt twelve (by decide)
  have day : m.date.day < 100 := by omega
  simp only [chars, yearChars, if_pos years, noLeap, Bool.false_eq_true, if_false]
  apply Names.intro years.1
  · exact written_of_lt (by decide) (show m.date.year.toNat < 10000 by omega)
  · exact written_of_lt (by decide) month
  · exact written_of_lt (by decide) day
  · exact written_of_lt (by decide) (Nat.lt_trans m.timeOfDay.hour.isLt (by decide))
  · exact written_of_lt (by decide) (Nat.lt_trans m.timeOfDay.minute.isLt (by decide))
  · exact written_of_lt (by decide) (Nat.lt_trans m.timeOfDay.second.isLt (by decide))

/-- In the years from 0 to 9999 the text of a moment names what its clock shows. -/
theorem names_text {m : Moment} (years : 0 ≤ m.date.year ∧ m.date.year ≤ 9999)
    (noLeap : m.instant.isLeap = false) : Names m.date m.timeOfDay m.text.toList := by
  rw [text, String.toList_ofList]
  exact names_chars years noLeap

end Printing

end Provision.Moment
