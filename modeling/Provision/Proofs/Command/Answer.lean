import Provision.Command.Arguments
import Provision.Proofs.Schedule.Book

/-!
Answers to whether work is due. The book decides, and the filters that hold work back are asked for
afterwards, of the schedule alone. Both ways agree: whenever the book refuses work that is
registered, at least one filter is named, and the named filters are those that do not pass.
-/

namespace Provision

namespace Report

variable {r : Report} {held : List String}

/-- The list names the filters that do not pass, in the order in which they are asked. -/
structure Names (r : Report) (held : List String) : Prop where
  inOrder : held.Sublist ["period", "range", "weekday"]
  period : "period" ∈ held ↔ r.period = false
  range : "range" ∈ held ↔ r.window = false
  weekday : "weekday" ∈ held ↔ r.weekday = false

theorem names_blocking (r : Report) : r.Names r.blocking := by
  constructor
  case inOrder =>
    obtain ⟨period, window, weekday⟩ := r
    cases period <;> cases window <;> cases weekday <;> decide
  all_goals simp [blocking]

theorem Names.ne_nil (names : r.Names held) (fails : r.passes = false) : held ≠ [] := by
  rintro rfl
  have period : r.period = true := by simpa using names.period
  have window : r.window = true := by simpa using names.range
  have weekday : r.weekday = true := by simpa using names.weekday
  rw [passes, period, window, weekday] at fails
  cases fails

end Report

theorem ScheduleBook.passes_eq_false_of_isDue? {book : ScheduleBook} {name : String}
    {run : Option Instant} {now : Moment} {s : Schedule} (known : book.get? name = some s)
    (held : book.isDue? name run now = some false) :
    (s.report (run.getD .epoch) now).passes = false := by
  simp only [isDue?, known, Option.map_some, Option.some_inj, Bool.or_eq_false_iff] at held
  exact held.2

/-- The command ended with this message and printed nothing. -/
def Outcome.FailedWith (o : Outcome) (message : String) (causes : List String) : Prop :=
  o.exit = 1 ∧ o.stdout = "" ∧ o.stderr = Command.failureText message causes ++ "\n"

theorem Outcome.not_failed {o : Outcome} (silent : o.stderr = "") :
    ¬ ∃ message causes, o.FailedWith message causes := by
  rintro ⟨message, causes, -, -, said⟩
  have lengths := congrArg String.length (silent.symm.trans said)
  rw [String.length_append] at lengths
  exact absurd lengths.symm (Nat.succ_ne_zero _)

namespace Command

section Stages

variable {α β : Type} {s : Stage α} {next : α → Stage β} {env : Environment} {i : Invocation}

theorem Stage.result_bind_of_ok {a : α} (ended : s.result = .ok a) :
    (s >>= next).result = (next a).result := by
  change (s.bind next).result = _
  rw [Stage.bind, ended]

theorem Invocation.outcome_of_error {message : String} {causes : List String}
    (ended : (i.request.stage env).result = .error (message, causes)) :
    (i.outcome env).FailedWith message causes := by
  simp only [Invocation.outcome, Stage.outcome, ended, failure]
  exact ⟨rfl, rfl, rfl⟩

theorem Invocation.outcome_of_ok {exit : Nat} {stdout : String}
    (ended : (i.request.stage env).result = .ok (exit, stdout)) :
    (i.outcome env).exit = exit ∧ (i.outcome env).stdout = stdout ∧
      (i.outcome env).stderr = "" := by
  simp only [Invocation.outcome, Stage.outcome, ended, and_self]

end Stages

/-- The line that says what holds work back. -/
def notDue (name : String) (held : List String) : String :=
  name ++ ": not due (blocked by " ++ ", ".intercalate held ++ ")"

variable {env : Environment} {config : Option String} {book : ScheduleBook}
  {given : Option Moment} {now : Moment}

/-- The result of the command goes by the decision of the book alone. -/
theorem result_due (loaded : (loadBook env config).result = .ok book)
    (timed : (clockTime env given).result = .ok now) (name : String)
    (previous : Option Moment) :
    (due env config name previous given).result =
      match book.isDue? name (previous.map (·.instant)) now with
      | none => .error (ScheduleBook.notFound name, [])
      | some true => .ok (0, lines [lastRun previous now, name ++ ": due"])
      | some false => .ok (1, lines [lastRun previous now, notDue name
          (blockers book name (previous.map (·.instant)) now)]) := by
  rw [due, Stage.result_bind_of_ok loaded, Stage.result_bind_of_ok timed]
  cases known : book.get? name with
  | none =>
    have undecided : book.isDue? name (previous.map (·.instant)) now = none := by
      rw [ScheduleBook.isDue?, known, Option.map_none]
    simp only [undecided]
    rfl
  | some s =>
    obtain ⟨decision, decided⟩ :
        ∃ decision, book.isDue? name (previous.map (·.instant)) now = some decision :=
      ⟨_, by rw [ScheduleBook.isDue?, known, Option.map_some]⟩
    simp only [verdict, decided]
    cases decision with
    | true => rfl
    | false => rfl

/-- Of a book that was loaded and a time that was given: the command ends with 0 when the book
lets work run, it fails when no schedule has this name, and in all other cases it ends with 1 and
names the filters that hold work back, of which there is at least one. -/
theorem due_answer (loaded : (loadBook env config).result = .ok book) (filter name : String)
    (previous : Option Moment) (now : Moment) :
    let run := previous.map (·.instant)
    let outcome := Invocation.outcome env ⟨filter, .due config name previous (some now)⟩
    (outcome.exit = 0 ↔ book.isDue? name run now = some true) ∧
      ((∃ message causes, outcome.FailedWith message causes) ↔ name ∉ book.names) ∧
      (name ∉ book.names → outcome.FailedWith (ScheduleBook.notFound name) []) ∧
      ∀ s, book.get? name = some s → book.isDue? name run now ≠ some true →
        outcome.exit = 1 ∧ outcome.stderr = "" ∧
          ∃ held, held ≠ [] ∧ (s.report (run.getD .epoch) now).Names held ∧
            outcome.stdout = lines [lastRun previous now, notDue name held] := by
  intro run outcome
  have timed : (clockTime env (some now)).result = .ok now := rfl
  have ended := result_due loaded timed name previous
  have unknown_iff : book.isDue? name run now = none ↔ name ∉ book.names :=
    ScheduleBook.isDue?_eq_none_iff name run now
  -- One case for each answer of the book; only a refusal has grounds to name.
  cases decided : book.isDue? name run now with
  | none =>
    have unknown : name ∉ book.names := unknown_iff.mp decided
    simp only [run, decided] at ended
    have failed : outcome.FailedWith (ScheduleBook.notFound name) [] :=
      Invocation.outcome_of_error ended
    refine ⟨?_, iff_of_true ⟨_, _, failed⟩ unknown, fun _ => failed, ?_⟩
    · simp only [failed.1, one_ne_zero, reduceCtorEq]
    · intro s known
      rw [ScheduleBook.isDue?, known] at decided
      cases decided
  | some decision =>
    have known : ¬ name ∉ book.names := by
      rw [← unknown_iff, decided]
      exact Option.some_ne_none decision
    cases decision with
    | true =>
      simp only [run, decided] at ended
      have printed : outcome.exit = 0 ∧ outcome.stdout = _ ∧ outcome.stderr = "" :=
        Invocation.outcome_of_ok ended
      obtain ⟨exit, -, silent⟩ := printed
      refine ⟨iff_of_true exit rfl, iff_of_false (Outcome.not_failed silent) known,
        fun unknown => absurd unknown known, ?_⟩
      intro s _ refused
      exact absurd rfl refused
    | false =>
      simp only [run, decided] at ended
      have printed : outcome.exit = 1 ∧ outcome.stdout = _ ∧ outcome.stderr = "" :=
        Invocation.outcome_of_ok ended
      obtain ⟨exit, stdout, silent⟩ := printed
      refine ⟨?_, iff_of_false (Outcome.not_failed silent) known,
        fun unknown => absurd unknown known, ?_⟩
      · simp only [exit, one_ne_zero, Option.some_inj, reduceCtorEq]
      · intro s registered _
        have names := (s.report (run.getD .epoch) now).names_blocking
        have fails := ScheduleBook.passes_eq_false_of_isDue? registered decided
        refine ⟨exit, silent, _, names.ne_nil fails, names, ?_⟩
        rw [stdout, blockers, registered]

/-- What the file of a site says: maintenance once a week, early on weekends. -/
def siteFile : String := "config_version = 1

[[schedules]]
name = \"maintenance\"
period = \"weekly\"
range = \"2:00 - 4:00\"
weekday = [\"Sat\", 0]
"

/-- The site with this file and without any variables. -/
def site : Environment where
  file path := if path = "site.toml" then .text siteFile else .missing
  value? _ := none
  zone := .eastern
  clock := .epoch

def maintenance : Schedule :=
  { Schedule.unrestricted "maintenance" with
    period := some .weekly
    windows := [⟨.ofSeconds 7200, .ofSeconds 14400⟩]
    weekdays := some (.ofList [.saturday, .sunday]) }

/-- Maintenance that was never done, on a Tuesday evening. -/
theorem due_answer_maintenance :
    let book := (ScheduleBook.new {}).insert maintenance
    let outcome := Invocation.outcome site
      ⟨"warn", .due (some "site.toml") "maintenance" none (some ScheduleBook.evening)⟩
    (loadBook site (some "site.toml")).result = .ok book ∧
      book.get? "maintenance" = some maintenance ∧
      book.isDue? "maintenance" none ScheduleBook.evening = some false ∧
      outcome.stdout = "last run: never\nmaintenance: not due (blocked by range, weekday)\n" ∧
      outcome.exit = 1 ∧ outcome.stderr = "" ∧
        ∃ held, held ≠ [] ∧ (maintenance.report .epoch ScheduleBook.evening).Names held ∧
          outcome.stdout =
            lines [lastRun none ScheduleBook.evening, notDue "maintenance" held] := by
  intro book outcome
  have loaded : (loadBook site (some "site.toml")).result = .ok book := by decide +kernel
  have registered : book.get? "maintenance" = some maintenance := by decide +kernel
  have refused : book.isDue? "maintenance" none ScheduleBook.evening = some false := by
    decide +kernel
  have text : outcome.stdout =
      "last run: never\nmaintenance: not due (blocked by range, weekday)\n" := by decide +kernel
  obtain ⟨-, -, -, grounds⟩ := due_answer loaded "warn" "maintenance" none ScheduleBook.evening
  refine ⟨loaded, registered, refused, text, grounds maintenance registered ?_⟩
  rw [Option.map_none, refused]
  simp only [ne_eq, Option.some_inj, reduceCtorEq, not_false_eq_true]

end Command

end Provision
