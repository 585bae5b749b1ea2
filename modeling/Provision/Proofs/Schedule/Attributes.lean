import Mathlib.Data.List.Forall2
import Provision.Proofs.Calendar.WeekdayToken
import Provision.Proofs.Schedule.Window

/-!
How attributes make a schedule. All that is wrong with them is listed in the order in which it is
looked for: attributes with nothing on the list make one schedule, which has what they ask for, and
others are refused for what is first on it.
-/

namespace Provision.Schedule

section Checks

variable {α β : Type} {check : α → Except ScheduleError β}

/-- What a check has against something. -/
def refusal? (check : α → Except ScheduleError β) (a : α) : Option ScheduleError :=
  match check a with
  | .ok _ => none
  | .error e => some e

theorem refusal?_eq_some_iff {a : α} {e : ScheduleError} :
    refusal? check a = some e ↔ check a = .error e := by
  unfold refusal?
  cases check a <;> simp

theorem refusal?_eq_none_iff {a : α} : refusal? check a = none ↔ ∃ b, check a = .ok b := by
  unfold refusal?
  cases check a <;> simp

/-- A list of checks is refused for the first member that is. -/
theorem refusal?_each (as : List α) :
    refusal? (each check) as = (as.filterMap (refusal? check)).head? := by
  induction as with
  | nil => rfl
  | cons a rest ih =>
    unfold refusal? at ih ⊢
    rw [each, List.filterMap_cons]
    cases check a with
    | error e => rfl
    | ok b =>
      simp only [← ih]
      cases each check rest <;> rfl

theorem each_eq_ok_iff {as : List α} {bs : List β} :
    each check as = .ok bs ↔ as.Forall₂ (fun a b => check a = .ok b) bs := by
  constructor
  · intro checked
    induction as generalizing bs with
    | nil =>
      cases checked
      exact .nil
    | cons a rest ih =>
      rw [each] at checked
      cases here : check a with
      | error e => simp only [here, reduceCtorEq] at checked
      | ok b =>
        cases others : each check rest with
        | error e => simp only [here, others, reduceCtorEq] at checked
        | ok found =>
          simp only [here, others, Except.ok.injEq] at checked
          subst checked
          exact .cons here (ih others)
  · intro made
    induction made with
    | nil => rfl
    | cons here _ ih => simp only [each, here, ih]

/-- What the checks give is settled by what is checked. -/
theorem forall₂_ok_unique {as : List α} {bs bs' : List β}
    (made : as.Forall₂ (fun a b => check a = .ok b) bs)
    (made' : as.Forall₂ (fun a b => check a = .ok b) bs') : bs = bs' := by
  have same := (each_eq_ok_iff.mpr made).symm.trans (each_eq_ok_iff.mpr made')
  exact Except.ok.inj same

theorem mem_iff_of_forall₂ {as : List α} {bs : List β}
    (made : as.Forall₂ (fun a b => check a = .ok b) bs) {b : β} :
    b ∈ bs ↔ ∃ a ∈ as, check a = .ok b := by
  induction made with
  | nil => simp
  | @cons a b' _ _ here _ ih =>
    have same : b = b' ↔ check a = .ok b := by rw [here, Except.ok.injEq, eq_comm]
    simp only [List.mem_cons, exists_eq_or_imp, ih, same]

end Checks

section Weekdays

variable {token : String} {tokens : List String}

theorem weekday_eq_ok_iff {d : Weekday} :
    weekday token = .ok d ↔ Weekday.Writes token.toList d := by
  rw [← Weekday.read?_eq_some_iff, weekday]
  cases Weekday.read? token <;> simp

/-- What is wrong with a token. It is quoted with its blanks. -/
def unwritten? (token : String) : Option ScheduleError :=
  if ∃ d ∈ Weekday.all, Weekday.Writes token.toList d then none else some (.invalidWeekday token)

theorem unwritten?_eq_none_iff :
    unwritten? token = none ↔ ∃ d, Weekday.Writes token.toList d := by
  simp [unwritten?, Weekday.mem_all]

theorem refusal?_weekday (token : String) : refusal? weekday token = unwritten? token := by
  unfold unwritten?
  split
  case isTrue written =>
    obtain ⟨d, -, writes⟩ := written
    exact refusal?_eq_none_iff.mpr ⟨d, weekday_eq_ok_iff.mpr writes⟩
  case isFalse other =>
    have unread : Weekday.read? token = none := by
      refine Option.eq_none_iff_forall_ne_some.mpr fun d read => other ?_
      exact ⟨d, d.mem_all, Weekday.read?_eq_some_iff.mp read⟩
    rw [refusal?_eq_some_iff, weekday, unread]

theorem refusal?_weekdaysOf (tokens : List String) :
    refusal? weekdaysOf tokens = (tokens.filterMap unwritten?).head? := by
  have asWhole : refusal? (each weekday) tokens = _ := refusal?_each tokens
  rw [funext refusal?_weekday] at asWhole
  rw [← asWhole]
  unfold refusal? weekdaysOf weekdaySet
  cases tokens with
  | nil => rfl
  | cons token rest =>
    rw [List.isEmpty_cons, if_neg Bool.false_ne_true]
    cases each weekday (token :: rest) <;> rfl

/-- The days allowed are those of the tokens, or all if there are no tokens. -/
theorem of_weekdaysOf {weekdays : Option WeekdaySet} (made : weekdaysOf tokens = .ok weekdays) :
    (weekdays = none ↔ tokens = []) ∧
      (∀ days, weekdays = some days → days.InWeek) ∧
      ∀ days, weekdays = some days →
        ∀ d, days.contains d = true ↔ ∃ token ∈ tokens, Weekday.Writes token.toList d := by
  unfold weekdaysOf weekdaySet at made
  split at made
  case isTrue empty =>
    cases made
    exact ⟨iff_of_true rfl (List.isEmpty_iff.mp empty), nofun, nofun⟩
  case isFalse nonempty =>
    cases read : each weekday tokens with
    | error e => simp only [read, reduceCtorEq] at made
    | ok listed =>
      simp only [read, Except.ok.injEq] at made
      subst made
      refine ⟨iff_of_false nofun fun empty => nonempty (List.isEmpty_iff.mpr empty), ?_, ?_⟩
      · rintro days ⟨⟩
        exact WeekdaySet.inWeek_ofList listed
      · rintro days ⟨⟩ d
        rw [WeekdaySet.contains_ofList_iff, mem_iff_of_forall₂ (each_eq_ok_iff.mp read)]
        simp only [weekday_eq_ok_iff]

end Weekdays

/-- Everything that is wrong with attributes, in the order in which it is looked for. -/
def violations (a : Attributes) : List ScheduleError :=
  (if a.runs = 0 then [.zeroRuns] else []) ++
    ((if 1 < a.runs ∧ a.periodMatch = .number then [.runsWithNumberMatch a.runs] else []) ++
      (a.windows.filterMap (refusal? window) ++ a.weekdays.filterMap unwritten?))

/-- The schedule has this name and what the attributes ask for. -/
structure MadeFrom (name : String) (a : Attributes) (s : Schedule) : Prop where
  named : s.name = name
  period : s.period = a.period
  periodMatch : s.periodMatch = a.periodMatch
  runs : s.runs = a.runs
  windows : a.windows.Forall₂ (fun text w => window text = .ok w) s.windows
  everyDay : s.weekdays = none ↔ a.weekdays = []
  inWeek : ∀ days, s.weekdays = some days → days.InWeek
  /-- A set of days holds just those that some token writes. -/
  days : ∀ days, s.weekdays = some days →
    ∀ d, days.contains d = true ↔ ∃ token ∈ a.weekdays, Weekday.Writes token.toList d

section Made

variable {name : String} {a : Attributes} {s : Schedule}

theorem violations_eq_nil_iff :
    violations a = [] ↔
      1 ≤ a.runs ∧ ¬(1 < a.runs ∧ a.periodMatch = .number) ∧
        (∀ text ∈ a.windows, ∃ w, window text = .ok w) ∧
        ∀ token ∈ a.weekdays, ∃ d, Weekday.Writes token.toList d := by
  simp only [violations, List.append_eq_nil_iff, ite_eq_right_iff, List.cons_ne_nil, imp_false,
    List.filterMap_eq_nil_iff, refusal?_eq_none_iff, unwritten?_eq_none_iff, Nat.one_le_iff_ne_zero,
    ne_eq]

/-- Attributes are refused for the first of their violations. -/
theorem refusal?_ofAttributes (name : String) (a : Attributes) :
    refusal? (ofAttributes name) a = (violations a).head? := by
  have windows : refusal? (each window) a.windows = _ := refusal?_each a.windows
  have weekdays := refusal?_weekdaysOf a.weekdays
  unfold violations
  rw [List.head?_append, List.head?_append, List.head?_append, ← windows, ← weekdays]
  unfold refusal? ofAttributes
  by_cases zero : a.runs = 0
  · rw [if_pos zero, if_pos zero]
    rfl
  · rw [if_neg zero, if_neg zero]
    by_cases numbered : 1 < a.runs ∧ a.periodMatch = .number
    · rw [if_pos numbered, if_pos numbered]
      rfl
    · rw [if_neg numbered, if_neg numbered]
      cases each window a.windows with
      | error e => rfl
      | ok ws => cases weekdaysOf a.weekdays <;> rfl

theorem exists_ofAttributes_iff :
    (∃ s, ofAttributes name a = .ok s) ↔ violations a = [] := by
  rw [← refusal?_eq_none_iff, refusal?_ofAttributes, List.head?_eq_none_iff]

theorem madeFrom_of_ofAttributes (accepted : ofAttributes name a = .ok s) : MadeFrom name a s := by
  obtain ⟨-, -, windows, weekdays, read, days, rfl⟩ := ofAttributes_eq_ok_iff.mp accepted
  obtain ⟨everyDay, inWeek, listed⟩ := of_weekdaysOf days
  exact ⟨rfl, rfl, rfl, rfl, each_eq_ok_iff.mp read, everyDay, inWeek, listed⟩

theorem MadeFrom.windows_eq_nil_iff (made : MadeFrom name a s) :
    s.windows = [] ↔ a.windows = [] := by
  rw [← List.length_eq_zero_iff, ← List.length_eq_zero_iff, made.windows.length_eq]

theorem MadeFrom.mem_windows_iff (made : MadeFrom name a s) {w : Window} :
    w ∈ s.windows ↔ ∃ text ∈ a.windows,
      Window.Writes text.toList w.start w.stop ∧ w.start.seconds ≤ w.stop.seconds := by
  rw [mem_iff_of_forall₂ made.windows]
  simp only [window_eq_ok_iff]

theorem MadeFrom.unique {s' : Schedule} (made : MadeFrom name a s) (made' : MadeFrom name a s') :
    s = s' := by
  have windows := forall₂_ok_unique made.windows made'.windows
  have weekdays : s.weekdays = s'.weekdays := by
    have everyDay := made.everyDay.trans made'.everyDay.symm
    cases here : s.weekdays with
    | none => exact (everyDay.mp here).symm
    | some days =>
      cases there : s'.weekdays with
      | none => exact absurd (everyDay.mpr there) (by simp [here])
      | some days' =>
        congr 1
        refine WeekdaySet.ext_contains (made.inWeek days here) (made'.inWeek days' there)
          fun d => ?_
        rw [Bool.eq_iff_iff, made.days days here, made'.days days' there]
  obtain ⟨⟩ := s
  obtain ⟨⟩ := s'
  rw [Schedule.mk.injEq]
  exact ⟨made.named.trans made'.named.symm, made.period.trans made'.period.symm,
    made.periodMatch.trans made'.periodMatch.symm, windows, made.runs.trans made'.runs.symm,
    weekdays⟩

theorem ofAttributes_eq_ok_iff_madeFrom :
    ofAttributes name a = .ok s ↔ violations a = [] ∧ MadeFrom name a s := by
  constructor
  · intro accepted
    exact ⟨exists_ofAttributes_iff.mp ⟨s, accepted⟩, madeFrom_of_ofAttributes accepted⟩
  · rintro ⟨flawless, made⟩
    obtain ⟨s', accepted⟩ : ∃ s', ofAttributes name a = .ok s' :=
      exists_ofAttributes_iff.mpr flawless
    rw [accepted, made.unique (madeFrom_of_ofAttributes accepted)]

/-- Only which tokens there are counts, not their order or how often each of them is there. -/
theorem ofAttributes_of_same_weekdays {tokens : List String}
    (accepted : ofAttributes name a = .ok s)
    (same : ∀ token, token ∈ tokens ↔ token ∈ a.weekdays) :
    ofAttributes name { a with weekdays := tokens } = .ok s := by
  obtain ⟨flawless, made⟩ := ofAttributes_eq_ok_iff_madeFrom.mp accepted
  rw [ofAttributes_eq_ok_iff_madeFrom]
  constructor
  · obtain ⟨positive, allowed, windows, weekdays⟩ := violations_eq_nil_iff.mp flawless
    apply violations_eq_nil_iff.mpr
    refine ⟨positive, allowed, windows, ?_⟩
    intro token among
    exact weekdays token ((same token).mp among)
  · have none : tokens = [] ↔ a.weekdays = [] := by
      simp only [List.eq_nil_iff_forall_not_mem, same]
    refine { made with everyDay := made.everyDay.trans none.symm, days := ?_ }
    intro days restricted d
    simp only [made.days days restricted, same]

/-- Attributes make a schedule just when there is to be one run at least, more than one only where
distance counts, every text of a window is one and every token writes a day. Else they are refused
for the first of their violations. The schedule has what they ask for, whatever the order of the
tokens and however often they are repeated. -/
theorem ofAttributes_outcome (name : String) (a : Attributes) :
    ((∃ s, ofAttributes name a = .ok s) ↔
      1 ≤ a.runs ∧ ¬(1 < a.runs ∧ a.periodMatch = .number) ∧
        (∀ text ∈ a.windows, ∃ w, window text = .ok w) ∧
        ∀ token ∈ a.weekdays, ∃ d, Weekday.Writes token.toList d) ∧
    (∀ e, ofAttributes name a = .error e ↔ (violations a).head? = some e) ∧
    (∀ s, ofAttributes name a = .ok s ↔ violations a = [] ∧ MadeFrom name a s) ∧
    ∀ s tokens, ofAttributes name a = .ok s → (∀ token, token ∈ tokens ↔ token ∈ a.weekdays) →
      ofAttributes name { a with weekdays := tokens } = .ok s := by
  refine ⟨?_, ?_, ?_, ?_⟩
  · rw [exists_ofAttributes_iff, violations_eq_nil_iff]
  · intro e
    rw [← refusal?_eq_some_iff, refusal?_ofAttributes]
  · intro s
    exact ofAttributes_eq_ok_iff_madeFrom
  · intro s tokens accepted same
    exact ofAttributes_of_same_weekdays accepted same

end Made

/-- Four times a day, late in the evening of two days. -/
def evenings : Attributes :=
  { period := some .daily, runs := 4, windows := ["22:00 - 23:30"], weekdays := ["Mon", "5"] }

/-- Two windows and two days that are none. -/
def muddled : Attributes :=
  { windows := ["2-4", "7", "8-7"], weekdays := ["sun", " Mo ", "7"] }

theorem ofAttributes_outcome_evenings :
    (∃ s, ofAttributes "backup" evenings = .ok s ∧ MadeFrom "backup" evenings s ∧
      ofAttributes "backup" { evenings with weekdays := ["5", "Mon", "5"] } = .ok s) ∧
    violations muddled = [.invalidWindow "7" none,
      .invertedWindow "8-7" (.ofSeconds 28800) (.ofSeconds 25200), .invalidWeekday " Mo ",
      .invalidWeekday "7"] ∧
    ofAttributes "backup" muddled = .error (.invalidWindow "7" none) := by
  obtain ⟨-, -, accepts, again⟩ := ofAttributes_outcome "backup" evenings
  obtain ⟨-, refuses, -⟩ := ofAttributes_outcome "backup" muddled
  have flawless : violations evenings = [] := by decide +kernel
  have flawed : violations muddled = [.invalidWindow "7" none,
      .invertedWindow "8-7" (.ofSeconds 28800) (.ofSeconds 25200), .invalidWeekday " Mo ",
      .invalidWeekday "7"] := by
    decide +kernel
  obtain ⟨s, accepted⟩ : ∃ s, ofAttributes "backup" evenings = .ok s :=
    exists_ofAttributes_iff.mpr flawless
  refine ⟨⟨s, accepted, ((accepts s).mp accepted).2, again s _ accepted ?_⟩, flawed,
    (refuses _).mpr ?_⟩
  · intro token
    simp only [evenings, List.mem_cons, List.not_mem_nil, or_false]
    tauto
  · rw [flawed]
    rfl

end Provision.Schedule
