import Provision.Config.Load
import Provision.Proofs.KeyedList
import Provision.Proofs.Schedule.Bucket
import Provision.Proofs.Schedule.Spacing

/-!
Which work a book lets run. Asked for all names at once, a book gives those that it also gives when
it is asked for one, in their order and each once, because however the book came about its names
are ascending. Work that has never run is let run whatever its period, but for the time that the
epoch, which stands in for its last run, holds it back.
-/

namespace Provision.Schedule

/-- The epoch, taken as the last run, holds work back: a run's share of the period has not passed
since then, or the clock still shows the bucket that it showed then. -/
def HeldByEpoch (s : Schedule) (now : Moment) : Prop :=
  ∃ p length, s.period = some p ∧ p.seconds? = some length ∧
    match s.periodMatch with
    | .distance => now.instant.seconds < s.spacing length
    | .number => p.SameBucket (Moment.ofInstant now.zone .epoch) now

theorem periodPasses_epoch_iff {s : Schedule} (recurs : s.period ≠ some .never) (now : Moment) :
    s.periodPasses .epoch now = true ↔ ¬ s.HeldByEpoch now := by
  cases period : s.period with
  | none => simp only [periodPasses, HeldByEpoch, period, reduceCtorEq, false_and, exists_false,
      not_false_eq_true]
  | some p =>
    obtain ⟨length, seconds⟩ : ∃ length, p.seconds? = some length := by
      cases p with
      | never => exact absurd period recurs
      | _ => exact ⟨_, rfl⟩
    simp only [HeldByEpoch, period, seconds, Option.some_inj, exists_and_left, exists_eq_left']
    cases matching : s.periodMatch with
    | distance =>
      rw [periodPasses_distance period seconds matching]
      simp only [Instant.epoch, Int.sub_zero, Int.not_lt]
    | number => exact periodPasses_iff_not_sameBucket period matching .epoch now

/-- This is over after 31 days. -/
theorem seconds_lt_of_heldByEpoch {s : Schedule} {now : Moment} (shown : now.IsShown)
    (held : s.HeldByEpoch now) : now.instant.seconds < 2678400 := by
  obtain ⟨p, length, -, seconds, held⟩ := held
  obtain ⟨longest, found, atLeast, atMost⟩ := Period.longest?_eq_some seconds
  cases matching : s.periodMatch with
  | distance =>
    have share : s.spacing length ≤ length := Nat.div_le_self length s.runs
    simp only [matching] at held
    omega
  | number =>
    simp only [matching] at held
    have near := held.reading_lt found
    have ahead := shown.offsetAt_epoch_le
    simp only [Moment.reading, Moment.ofInstant, Instant.epoch] at near
    omega

end Provision.Schedule

namespace Provision.Config

theorem book_eq_ok_iff (c : Config) (book : ScheduleBook) :
    c.book = .ok book ↔
      c.faults = [] ∧ (ScheduleBook.new c.settings).insertAll c.schedules = book := by
  rw [Config.book, ← List.isEmpty_iff]
  split
  case isTrue sound => simp only [Except.ok.injEq, sound, true_and]
  case isFalse faulty => simp only [reduceCtorEq, faulty, Bool.false_eq_true, false_and]

end Provision.Config

namespace Provision.ScheduleBook

open KeyedList (Ascending)

/-- The books that can come about: a new one, one that a configuration or its text describes, and
any of these with a schedule registered later. -/
inductive Reachable : ScheduleBook → Prop
  | new (settings : Settings) : Reachable (.new settings)
  | ofConfig {c : Config} {book : ScheduleBook} (accepted : c.book = .ok book) : Reachable book
  | ofText {text : String} {book : ScheduleBook} (parsed : Config.parse text = .ok book) :
      Reachable book
  | insert {book : ScheduleBook} (before : Reachable book) (s : Schedule) :
      Reachable (book.insert s)

section Names

theorem insert_ascending {book : ScheduleBook} (h : Ascending book.schedules) (s : Schedule) :
    Ascending (book.insert s).schedules :=
  KeyedList.insert_ascending s.name s book.schedules h

theorem insertAll_ascending {book : ScheduleBook} (h : Ascending book.schedules)
    (schedules : List Schedule) : Ascending (book.insertAll schedules).schedules := by
  induction schedules generalizing book with
  | nil => exact h
  | cons s rest ih => exact ih (insert_ascending h s)

theorem new_ascending (settings : Settings) : Ascending (ScheduleBook.new settings).schedules := by
  have empty : Ascending (ScheduleBook.mk settings []).schedules := List.Pairwise.nil
  unfold ScheduleBook.new
  dsimp only
  split
  · exact insertAll_ascending empty Schedule.builtins
  · exact empty

theorem ascending_of_config {c : Config} {book : ScheduleBook} (accepted : c.book = .ok book) :
    Ascending book.schedules := by
  obtain ⟨-, rfl⟩ := (c.book_eq_ok_iff book).mp accepted
  exact insertAll_ascending (new_ascending c.settings) c.schedules

theorem config_of_parse {text : String} {book : ScheduleBook}
    (parsed : Config.parse text = .ok book) : ∃ c : Config, c.book = .ok book := by
  unfold Config.parse at parsed
  split at parsed
  · contradiction
  case h_2 c _ =>
    split at parsed
    · contradiction
    case h_2 book' accepted =>
      cases parsed
      exact ⟨c, accepted⟩

theorem Reachable.ascending {book : ScheduleBook} (reachable : book.Reachable) :
    Ascending book.schedules := by
  induction reachable with
  | new settings => exact new_ascending settings
  | ofConfig accepted => exact ascending_of_config accepted
  | ofText parsed =>
    obtain ⟨c, accepted⟩ := config_of_parse parsed
    exact ascending_of_config accepted
  | insert _ s ih => exact insert_ascending ih s

end Names

section Due

variable {book : ScheduleBook}

theorem isDue?_eq_none_iff (name : String) (previous : Option Instant) (now : Moment) :
    book.isDue? name previous now = none ↔ name ∉ book.names := by
  rw [isDue?, Option.map_eq_none_iff]
  exact KeyedList.get?_eq_none_iff name book.schedules

theorem due_sublist_names (book : ScheduleBook) (previous : String → Option Instant) (now : Moment) :
    (book.due previous now).Sublist book.names :=
  List.filter_sublist.map _

theorem names_pairwise (h : Ascending book.schedules) : book.names.Pairwise (· < ·) :=
  List.pairwise_map.mpr h

theorem mem_due_iff (h : Ascending book.schedules) (name : String)
    (previous : String → Option Instant) (now : Moment) :
    name ∈ book.due previous now ↔ book.isDue? name (previous name) now = some true := by
  simp only [due, List.mem_map, List.mem_filter, isDue?, Option.map_eq_some_iff, get?]
  constructor
  · rintro ⟨⟨key, s⟩, ⟨member, allowed⟩, rfl⟩
    exact ⟨s, (KeyedList.get?_eq_some_iff h key s).mpr member, allowed⟩
  · rintro ⟨s, found, allowed⟩
    exact ⟨(name, s), ⟨(KeyedList.get?_eq_some_iff h name s).mp found, allowed⟩, rfl⟩

/-- Runs of work that is not registered do not count. -/
theorem due_congr {previous previous' : String → Option Instant} (now : Moment)
    (agree : ∀ name ∈ book.names, previous name = previous' name) :
    book.due previous now = book.due previous' now := by
  unfold due
  congr 1
  refine List.filter_congr fun entry member => ?_
  rw [agree entry.1 (List.mem_map_of_mem member)]

/-- The names that are due are registered names, ascending, and those that are due when one asks for
each of them; asking fails for the names that are not registered, whose runs make no difference. -/
theorem Reachable.due_agrees (reachable : book.Reachable) (previous : String → Option Instant)
    (now : Moment) :
    (book.due previous now).Pairwise (· < ·) ∧
      (∀ name ∈ book.due previous now, name ∈ book.names) ∧
      (∀ name, name ∈ book.due previous now ↔ book.isDue? name (previous name) now = some true) ∧
      (∀ name last, book.isDue? name last now = none ↔ name ∉ book.names) ∧
      ∀ previous', (∀ name ∈ book.names, previous name = previous' name) →
        book.due previous now = book.due previous' now := by
  have sublist := book.due_sublist_names previous now
  refine ⟨(names_pairwise reachable.ascending).sublist sublist, fun _ member => sublist.subset member,
    ?_, ?_, ?_⟩
  · intro name
    exact mem_due_iff reachable.ascending name previous now
  · intro name last
    exact isDue?_eq_none_iff name last now
  · intro previous' agree
    exact due_congr now agree

/-- The book of the built-in schedules, with one that sweeps every hour. -/
def swept : ScheduleBook := (ScheduleBook.new {}).insert Schedule.sweep

/-- Seven in the evening on the last of May 2011. -/
def evening : Moment := Moment.ofInstant .eastern ⟨1306882800, 0⟩

/-- The sweep ran half an hour ago, and an hour and a half ago work that is not in the book. -/
def lastRuns (name : String) : Option Instant :=
  if name = "sweep" then some ⟨1306881000, 0⟩
  else if name = "mow" then some ⟨1306877400, 0⟩
  else none

theorem due_agrees_swept :
    swept.Reachable ∧
      swept.due lastRuns evening =
        ["daily", "hourly", "monthly", "puppet", "sweep", "weekly"] ∧
      (swept.due lastRuns evening).Pairwise (· < ·) ∧
      ("sweep" ∈ swept.due lastRuns evening ↔
        swept.isDue? "sweep" (lastRuns "sweep") evening = some true) ∧
      (swept.isDue? "mow" (lastRuns "mow") evening = none ↔ "mow" ∉ swept.names) := by
  have reachable : swept.Reachable := .insert (.new {}) Schedule.sweep
  obtain ⟨ascending, -, mem, fails, -⟩ := reachable.due_agrees lastRuns evening
  exact ⟨reachable, by decide +kernel, ascending, mem "sweep", fails "mow" (lastRuns "mow")⟩

theorem isDue?_eq_some_true_iff {name : String} {s : Schedule}
    (heeds : book.settings.ignoreSchedules = false) (registered : book.get? name = some s)
    (previous : Option Instant) (now : Moment) :
    book.isDue? name previous now = some true ↔
      s.periodPasses (previous.getD .epoch) now = true ∧ s.windowPasses now = true ∧
        s.weekdayPasses now = true := by
  simp only [isDue?, registered, heeds, Option.map_some, Bool.false_or, Option.some_inj,
    Schedule.allows, Report.passes, Schedule.report, Bool.and_eq_true, and_assoc]

/-- Work that has never run is due when the window and the day are right and the epoch, which counts
as its last run, does not hold it back. From 31 days after the epoch on only the window and the day
matter, whether now is an instant on the clock of a zone or was read. -/
theorem isDue?_never_run_iff {name : String} {s : Schedule}
    (heeds : book.settings.ignoreSchedules = false) (registered : book.get? name = some s)
    (recurs : s.period ≠ some .never) :
    (∀ now, book.isDue? name none now = some true ↔
      s.windowPasses now = true ∧ s.weekdayPasses now = true ∧ ¬ s.HeldByEpoch now) ∧
    ∀ now : Moment, now.IsShown → 2678400 ≤ now.instant.seconds →
      (book.isDue? name none now = some true ↔
        s.windowPasses now = true ∧ s.weekdayPasses now = true) := by
  have exact (now : Moment) : book.isDue? name none now = some true ↔
      s.windowPasses now = true ∧ s.weekdayPasses now = true ∧ ¬ s.HeldByEpoch now := by
    rw [isDue?_eq_some_true_iff heeds registered, Option.getD_none,
      Schedule.periodPasses_epoch_iff recurs, and_comm, and_assoc]
  refine ⟨exact, ?_⟩
  intro now shown late
  have free : ¬ s.HeldByEpoch now := by
    intro held
    have := Schedule.seconds_lt_of_heldByEpoch shown held
    omega
  rw [exact]
  simp only [free, not_false_eq_true, and_true]

/-- The built-in schedule of this name. -/
def daily : Schedule := { Schedule.unrestricted "daily" with period := some .daily }

/-- Seven in the morning of the first day of 1970. -/
def newYear : Moment := Moment.ofInstant .eastern ⟨43200, 0⟩

/-- One reading is that of the second at which the clock is put forward in 2011. -/
theorem isDue?_never_run_iff_daily :
    (ScheduleBook.new {}).settings.ignoreSchedules = false ∧
      (ScheduleBook.new {}).get? "daily" = some daily ∧ daily.period ≠ some .never ∧
      ((ScheduleBook.new {}).isDue? "daily" none newYear = some true ↔
        daily.windowPasses newYear = true ∧ daily.weekdayPasses newYear = true ∧
          ¬ daily.HeldByEpoch newYear) ∧
      ((ScheduleBook.new {}).isDue? "daily" none evening = some true ↔
        daily.windowPasses evening = true ∧ daily.weekdayPasses evening = true) ∧
      Moment.read .eastern "2011-03-13 02:00:00" = .ok Schedule.secondSunday ∧
      ((ScheduleBook.new {}).isDue? "daily" none Schedule.secondSunday = some true ↔
        daily.windowPasses Schedule.secondSunday = true ∧
          daily.weekdayPasses Schedule.secondSunday = true) := by
  have heeds : (ScheduleBook.new {}).settings.ignoreSchedules = false := by decide
  have registered : (ScheduleBook.new {}).get? "daily" = some daily := by decide +kernel
  have recurs : daily.period ≠ some .never := by decide
  obtain ⟨always, late⟩ := isDue?_never_run_iff heeds registered recurs
  have read := Schedule.secondSunday_read
  exact ⟨heeds, registered, recurs, always newYear,
    late evening (Moment.isShown_ofInstant _ _) (by decide), read,
    late Schedule.secondSunday (Moment.isShown_of_read read) (by decide)⟩

/-- Half a day after the epoch, work that may run at any time of any day but has never run is not
due. -/
theorem daily_never_run_held :
    (ScheduleBook.new {}).settings.ignoreSchedules = false ∧
      (ScheduleBook.new {}).get? "daily" = some daily ∧ daily.period ≠ some .never ∧
      daily.windowPasses newYear = true ∧ daily.weekdayPasses newYear = true ∧
      (ScheduleBook.new {}).isDue? "daily" none newYear = some false := by
  have registered : (ScheduleBook.new {}).get? "daily" = some daily := by decide +kernel
  exact ⟨by decide, registered, by decide, by decide, by decide, by decide +kernel⟩

end Due

end Provision.ScheduleBook
