import Mathlib.Data.List.Chain
import Provision.Schedule.Report

/-!
How often work runs when a period is over as soon as its share of the period has passed. The share
is the period divided by the number of runs, in whole seconds, and what the division leaves over is
dropped. So a schedule keeps to its number of runs in every stretch of one period exactly when that
number divides the period, or when it is more than a period has seconds.
-/

namespace Provision.Schedule

/-- Work that was run at these moments, in whole seconds: each is later than the one before and was
let through by the period filter with that one as the previous run. -/
def Running (s : Schedule) (runs : List Moment) : Prop :=
  (∀ m ∈ runs, m.instant.nanos = 0) ∧
    runs.IsChain fun previous now =>
      previous.instant < now.instant ∧ s.periodPasses previous.instant now = true

/-- The runs from `start` on, up to but without the instant `length` seconds later. -/
def runsWithin (start : Instant) (length : Nat) (runs : List Moment) : List Moment :=
  runs.filter fun m => start ≤ m.instant && m.instant < ⟨start.seconds + length, start.nanos⟩

/-- However the work is run, no stretch of `length` seconds holds more than `n` runs. -/
def RunsAtMost (s : Schedule) (length n : Nat) : Prop :=
  ∀ runs, s.Running runs → ∀ start, (runsWithin start length runs).length ≤ n

/-- The least whole number of seconds between two runs; no two are in the same second. -/
def leastGap (s : Schedule) (length : Nat) : Nat := max 1 (s.spacing length)

/-- The second moment comes at least `gap` seconds after the first. -/
def Apart (gap : Nat) (a b : Moment) : Prop := a.instant.seconds + gap ≤ b.instant.seconds

theorem Apart.trans {gap : Nat} {a b c : Moment} (first : Apart gap a b) (second : Apart gap b c) :
    Apart gap a c := by
  unfold Apart at *
  omega

/-- Runs as close to each other as a schedule lets them be, from the epoch on. -/
def closestRuns (s : Schedule) (length n : Nat) : List Moment :=
  (List.range n).map fun i =>
    Moment.ofInstant (.fixed 0) ⟨((i * s.leastGap length : Nat) : Int), 0⟩

theorem leastGap_pos (s : Schedule) (length : Nat) : 0 < s.leastGap length := by
  unfold leastGap
  omega

theorem spacing_le_leastGap (s : Schedule) (length : Nat) :
    s.spacing length ≤ s.leastGap length := by
  unfold leastGap
  omega

/-- A schedule that was accepted asks for one run at least. -/
theorem runs_pos_of_ofAttributes {name : String} {a : Attributes} {s : Schedule}
    (accepted : ofAttributes name a = .ok s) : 0 < s.runs := by
  obtain ⟨positive, -, windows, weekdays, -, -, rfl⟩ := ofAttributes_eq_ok_iff.mp accepted
  exact Nat.pos_of_ne_zero positive

/-- The first whole second that is not before an instant. -/
def firstSecond (start : Instant) : Int :=
  if start.nanos = 0 then start.seconds else start.seconds + 1

/-- Among whole seconds, a stretch is one of whole seconds, wherever it begins. -/
theorem mem_runsWithin {start : Instant} {length : Nat} {runs : List Moment} {m : Moment}
    (whole : m.instant.nanos = 0) :
    m ∈ runsWithin start length runs ↔
      m ∈ runs ∧ firstSecond start ≤ m.instant.seconds ∧
        m.instant.seconds < firstSecond start + length := by
  simp only [runsWithin, List.mem_filter, Bool.and_eq_true, decide_eq_true_eq, Instant.le_iff,
    Instant.lt_iff, whole, firstSecond]
  refine and_congr_right fun _ => ?_
  split <;> omega

/-- Times that are a gap apart and lie in an interval: the interval is long enough for them. -/
theorem length_mul_lt_of_pairwise {gap : Nat} {low high : Int} {times : List Int}
    (apart : times.Pairwise fun a b => a + (gap : Int) ≤ b)
    (inside : ∀ t ∈ times, low ≤ t ∧ t < high) (room : low < high + gap) :
    (times.length : Int) * gap < high - low + gap := by
  induction times generalizing low with
  | nil =>
    simp only [List.length_nil, Int.ofNat_zero, Int.zero_mul]
    omega
  | cons t rest ih =>
    obtain ⟨after, restApart⟩ := List.pairwise_cons.mp apart
    obtain ⟨lowest, highest⟩ := inside t List.mem_cons_self
    have restInside : ∀ u ∈ rest, t + gap ≤ u ∧ u < high := fun u member =>
      ⟨after u member, (inside u (List.mem_cons_of_mem t member)).2⟩
    have restBound := ih restApart restInside (by omega)
    rw [List.length_cons, Int.natCast_succ, Int.add_mul, Int.one_mul]
    omega

section Distance

variable {s : Schedule} {p : Period} {length : Nat}

theorem periodPasses_distance (period : s.period = some p) (seconds : p.seconds? = some length)
    (distance : s.periodMatch = .distance) (previous : Instant) (now : Moment) :
    s.periodPasses previous now = true ↔
      (s.spacing length : Int) ≤ now.instant.seconds - previous.seconds := by
  simp only [periodPasses, period, seconds, distance, decide_eq_true_eq]

/-- Any two runs, neighbours or not, are at least the gap apart. -/
theorem Running.pairwise (period : s.period = some p) (seconds : p.seconds? = some length)
    (distance : s.periodMatch = .distance) {runs : List Moment} (running : s.Running runs) :
    runs.Pairwise (Apart (s.leastGap length)) := by
  obtain ⟨whole, chain⟩ := running
  have neighbours : runs.IsChain (Apart (s.leastGap length)) := by
    refine chain.imp_of_mem_imp fun a b memA memB step => ?_
    have passed := (periodPasses_distance period seconds distance a.instant b).mp step.2
    have later := (Instant.lt_iff _ _).mp step.1
    rw [whole a memA, whole b memB] at later
    unfold Apart leastGap
    omega
  have : Trans (Apart (s.leastGap length)) (Apart (s.leastGap length))
      (Apart (s.leastGap length)) := ⟨Apart.trans⟩
  exact List.isChain_iff_pairwise.mp neighbours

/-- The runs of one stretch take up all of it but the last gap. -/
theorem Running.length_runsWithin_mul_lt (period : s.period = some p)
    (seconds : p.seconds? = some length) (distance : s.periodMatch = .distance)
    {runs : List Moment} (running : s.Running runs) (start : Instant) :
    (runsWithin start length runs).length * s.leastGap length < length + s.leastGap length := by
  have apart := (running.pairwise period seconds distance).filter
    fun m => start ≤ m.instant && m.instant < ⟨start.seconds + length, start.nanos⟩
  have timesApart :
      ((runsWithin start length runs).map (·.instant.seconds)).Pairwise
        fun a b => a + (s.leastGap length : Int) ≤ b :=
    List.pairwise_map.mpr apart
  have inside : ∀ t ∈ (runsWithin start length runs).map (·.instant.seconds),
      firstSecond start ≤ t ∧ t < firstSecond start + length := by
    intro t member
    obtain ⟨m, within, rfl⟩ := List.mem_map.mp member
    have whole := running.1 m (List.mem_filter.mp within).1
    exact ((mem_runsWithin whole).mp within).2
  have positive := s.leastGap_pos length
  have room := length_mul_lt_of_pairwise timesApart inside (by omega)
  rw [List.length_map] at room
  have sum : ((runsWithin start length runs).length : Int) * s.leastGap length <
      length + s.leastGap length := by omega
  exact_mod_cast sum

theorem closestRuns_running (period : s.period = some p) (seconds : p.seconds? = some length)
    (distance : s.periodMatch = .distance) (n : Nat) : s.Running (s.closestRuns length n) := by
  refine ⟨?_, ?_⟩
  · intro m member
    obtain ⟨i, -, rfl⟩ := List.mem_map.mp member
    rfl
  · refine List.Pairwise.isChain (List.pairwise_map.mpr (List.pairwise_lt_range.imp ?_))
    intro i j before
    have step : (i + 1) * s.leastGap length ≤ j * s.leastGap length :=
      Nat.mul_le_mul_right _ before
    rw [Nat.add_mul, Nat.one_mul] at step
    have positive := s.leastGap_pos length
    have enough := s.spacing_le_leastGap length
    refine ⟨.inl ?_, (periodPasses_distance period seconds distance _ _).mpr ?_⟩
    · simp only [Moment.ofInstant]
      omega
    · simp only [Moment.ofInstant]
      omega

/-- All of the closest runs are in the first period as long as the last of them is. -/
theorem length_runsWithin_closestRuns {n : Nat} (fits : n * s.leastGap length < length) :
    (runsWithin .epoch length (s.closestRuns length (n + 1))).length = n + 1 := by
  have all : runsWithin .epoch length (s.closestRuns length (n + 1)) =
      s.closestRuns length (n + 1) := by
    refine List.filter_eq_self.mpr fun m member => ?_
    obtain ⟨i, below, rfl⟩ := List.mem_map.mp member
    have last : i * s.leastGap length ≤ n * s.leastGap length :=
      Nat.mul_le_mul_right _ (Nat.le_of_lt_succ (List.mem_range.mp below))
    simp only [Moment.ofInstant, Instant.epoch, Bool.and_eq_true, decide_eq_true_eq,
      Instant.le_iff, Instant.lt_iff]
    omega
  rw [all, closestRuns, List.length_map, List.length_range]

/-- A number of runs is kept to exactly when so many gaps fill the period. -/
theorem runsAtMost_iff (period : s.period = some p) (seconds : p.seconds? = some length)
    (distance : s.periodMatch = .distance) (n : Nat) :
    s.RunsAtMost length n ↔ length ≤ n * s.leastGap length := by
  constructor
  · intro bounded
    by_contra short
    have count := bounded _ (closestRuns_running period seconds distance (n + 1)) .epoch
    rw [length_runsWithin_closestRuns (by omega)] at count
    omega
  · intro filled runs running start
    have room := running.length_runsWithin_mul_lt period seconds distance start
    have below : (runsWithin start length runs).length * s.leastGap length <
        (n + 1) * s.leastGap length := by
      rw [Nat.add_mul, Nat.one_mul]
      omega
    exact Nat.le_of_lt_succ (Nat.lt_of_mul_lt_mul_right below)

/-- As many gaps as there are runs fill a period if the division leaves nothing over, or if the gap
is the one second that runs are apart in any case. -/
theorem length_le_runs_mul_leastGap (positive : 0 < s.runs) :
    length ≤ s.runs * s.leastGap length ↔ s.runs ∣ length ∨ length < s.runs := by
  have parts := Nat.div_add_mod length s.runs
  rcases Nat.lt_or_ge length s.runs with many | few
  · have gap : s.leastGap length = 1 := by
      rw [leastGap, spacing, Nat.div_eq_of_lt many]
      rfl
    rw [gap]
    omega
  · have gap : s.leastGap length = length / s.runs := by
      have := Nat.div_pos few positive
      rw [leastGap, spacing]
      omega
    rw [gap, Nat.dvd_iff_mod_eq_zero]
    omega

end Distance

/-- An accepted schedule keeps to its number of runs in every stretch of one period, wherever the
stretch begins, exactly when that number divides the period or is more than its seconds. -/
theorem runsAtMost_runs_iff {name : String} {a : Attributes} {s : Schedule} {p : Period}
    {length : Nat} (accepted : ofAttributes name a = .ok s) (period : s.period = some p)
    (seconds : p.seconds? = some length) (distance : s.periodMatch = .distance) :
    s.RunsAtMost length s.runs ↔ s.runs ∣ length ∨ length < s.runs := by
  rw [runsAtMost_iff period seconds distance]
  exact length_le_runs_mul_leastGap (runs_pos_of_ofAttributes accepted)

/-- Seven times an hour. -/
def cleanup : Schedule := { unrestricted "cleanup" with period := some .hourly, runs := 7 }

theorem runsAtMost_runs_iff_cleanup :
    ofAttributes "cleanup" { period := some .hourly, runs := 7 } = .ok cleanup ∧
      cleanup.period = some .hourly ∧ Period.hourly.seconds? = some 3600 ∧
      cleanup.periodMatch = .distance ∧ (cleanup.RunsAtMost 3600 7 ↔ 7 ∣ 3600 ∨ 3600 < 7) := by
  have accepted : ofAttributes "cleanup" { period := some .hourly, runs := 7 } = .ok cleanup := rfl
  exact ⟨accepted, rfl, rfl, rfl, runsAtMost_runs_iff accepted rfl rfl rfl⟩

/-- Runs 514 seconds apart: an hour begins with eight of them, for a seventh of it is a bit more. -/
theorem cleanup_eight_runs :
    ofAttributes "cleanup" { period := some .hourly, runs := 7 } = .ok cleanup ∧
      ∃ runs, cleanup.Running runs ∧ (runsWithin ⟨0, 0⟩ 3600 runs).length = 8 :=
  ⟨rfl, [0, 514, 1028, 1542, 2056, 2570, 3084, 3598].map fun t =>
    Moment.ofInstant (.fixed 0) ⟨t, 0⟩, ⟨by decide, by decide⟩, by decide⟩

end Provision.Schedule
