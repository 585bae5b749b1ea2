import Mathlib.Data.Finset.Card
import Mathlib.Data.List.Forall2
import Provision.Proofs.Schedule.Book
import Provision.Proofs.Text.Blank

/-!
Which schedule a name stands for. A book has three layers: the built-in schedules, those of the
entries of its configuration, and those that were registered later. A name stands for the schedule
of the last layer that has it, and within the last layer for the one that was registered last.
-/

namespace Provision

namespace Schedule

/-- The last of some schedules with this name. -/
def lastNamed? (name : String) (schedules : List Schedule) : Option Schedule :=
  (schedules.filter (·.name = name)).getLast?

theorem lastNamed?_cons (name : String) (s : Schedule) (rest : List Schedule) :
    lastNamed? name (s :: rest) =
      (lastNamed? name rest).or (if s.name = name then some s else none) := by
  rw [lastNamed?, lastNamed?, List.filter_cons]
  simp only [decide_eq_true_eq]
  split
  · rw [List.getLast?_cons]
    cases (rest.filter (·.name = name)).getLast? <;> rfl
  · rw [Option.or_none]

theorem lastNamed?_eq_none_iff (name : String) (schedules : List Schedule) :
    lastNamed? name schedules = none ↔ name ∉ schedules.map (·.name) := by
  simp only [lastNamed?, List.getLast?_eq_none_iff, List.filter_eq_nil_iff, decide_eq_true_eq,
    List.mem_map, not_exists, not_and]

theorem name_of_lastNamed? {name : String} {schedules : List Schedule} {s : Schedule}
    (found : lastNamed? name schedules = some s) : s.name = name :=
  of_decide_eq_true (List.mem_filter.mp (List.mem_of_getLast? found)).2

/-- Where no name occurs twice the last is also the first. -/
theorem lastNamed?_eq_find? {schedules : List Schedule} (distinct : (schedules.map (·.name)).Nodup)
    (name : String) : lastNamed? name schedules = schedules.find? (·.name = name) := by
  induction schedules with
  | nil => rfl
  | cons s rest ih =>
    obtain ⟨fresh, others⟩ := List.nodup_cons.mp distinct
    rw [lastNamed?_cons, List.find?_cons]
    by_cases same : s.name = name
    · subst same
      rw [(lastNamed?_eq_none_iff _ _).mpr fresh]
      simp only [Option.none_or, if_true, decide_true]
    · simp only [same, if_false, Option.or_none, decide_false, ih others]

theorem name_of_ofAttributes {name : String} {a : Attributes} {s : Schedule}
    (accepted : ofAttributes name a = .ok s) : s.name = name := by
  obtain ⟨-, -, windows, weekdays, -, -, rfl⟩ := ofAttributes_eq_ok_iff.mp accepted
  rfl

end Schedule

namespace ScheduleBook

open Schedule (lastNamed?)

theorem get?_insertAll (book : ScheduleBook) (schedules : List Schedule) (name : String) :
    (book.insertAll schedules).get? name = (lastNamed? name schedules).or (book.get? name) := by
  induction schedules generalizing book with
  | nil => rfl
  | cons s rest ih =>
    have inserted : (book.insert s).get? name = if name = s.name then some s else book.get? name :=
      KeyedList.get?_insert name s.name s book.schedules
    rw [insertAll, List.foldl_cons]
    refine (ih (book.insert s)).trans ?_
    rw [inserted, Schedule.lastNamed?_cons, Option.or_assoc]
    congr 1
    by_cases same : s.name = name
    · simp only [same, if_true, Option.some_or]
    · simp only [same, Ne.symm same, if_false, Option.none_or]

theorem builtins_nodup : (Schedule.builtins.map (·.name)).Nodup := by decide +kernel

theorem get?_new (settings : Settings) (name : String) :
    (ScheduleBook.new settings).get? name =
      if settings.defaultSchedules then Schedule.builtins.find? (·.name = name) else none := by
  unfold ScheduleBook.new
  dsimp only
  split
  · rw [get?_insertAll, Schedule.lastNamed?_eq_find? builtins_nodup]
    exact Option.or_none
  · rfl

end ScheduleBook

namespace Config

open Schedule (lastNamed?)

/-- The schedule that the entry of this name makes. -/
def made? (c : Config) (name : String) : Option Schedule :=
  (c.entries.find? (·.name = name)).bind fun e =>
    (Schedule.ofAttributes e.name e.attributes).toOption

/-- The built-in schedule of this name, if the settings register those. -/
def builtin? (c : Config) (name : String) : Option Schedule :=
  if c.settings.defaultSchedules then Schedule.builtins.find? (·.name = name) else none

/-- All names that schedules are given in the three layers, as often as they are. -/
def givenNames (c : Config) (inserted : List Schedule) : List String :=
  (if c.settings.defaultSchedules then Schedule.builtins.map (·.name) else []) ++
    c.entries.map (·.name) ++ inserted.map (·.name)

section Entries

/-- The entries make the schedules, one each and in their order. -/
def Make (entries : List Entry) (schedules : List Schedule) : Prop :=
  entries.Forall₂ (fun e s => Schedule.ofAttributes e.name e.attributes = .ok s) schedules

/-- An entry that makes a schedule if no earlier entry has its name. -/
def Entry.Sound (e : Entry) : Prop :=
  ¬ Text.AllBlank e.name.toList ∧ ∃ s, Schedule.ofAttributes e.name e.attributes = .ok s

/-- Nothing is reported where each entry is sound and has a name of its own. -/
theorem check_snd_eq_nil_iff (seen : List String) (entries : List Entry) :
    (check seen entries).2 = [] ↔
      (∀ e ∈ entries, e.Sound ∧ e.name ∉ seen) ∧ (entries.map (·.name)).Nodup := by
  induction entries generalizing seen with
  | nil => exact iff_of_true rfl ⟨List.forall_mem_nil _, List.nodup_nil⟩
  | cons e rest ih =>
    rw [List.forall_mem_cons, List.map_cons, List.nodup_cons]
    simp only [check, List.isEmpty_iff, Text.trim_eq_nil_iff]
    split
    case isTrue blank => exact iff_of_false (List.cons_ne_nil _ _) fun h => h.1.1.1.1 blank
    case isFalse named =>
      split
      case isTrue known => exact iff_of_false (List.cons_ne_nil _ _) fun h => h.1.1.2 known
      case isFalse fresh =>
        cases made : Schedule.ofAttributes e.name e.attributes with
        | error error =>
          refine iff_of_false (List.cons_ne_nil _ _) fun h => ?_
          obtain ⟨⟨⟨-, s, accepted⟩, -⟩, -⟩ := h.1
          rw [made] at accepted
          contradiction
        | ok s =>
          -- Its name is among those seen when the others are checked, so none of them has it.
          have others : (∀ other ∈ rest, other.Sound ∧ other.name ∉ e.name :: seen) ↔
              (∀ other ∈ rest, other.Sound ∧ other.name ∉ seen) ∧ e.name ∉ rest.map (·.name) := by
            simp only [List.mem_cons, not_or, List.mem_map, not_exists, not_and]
            constructor
            · intro each
              exact ⟨fun other member => ⟨(each other member).1, (each other member).2.2⟩,
                fun other member => (each other member).2.1⟩
            · rintro ⟨each, differs⟩ other member
              exact ⟨(each other member).1, differs other member, (each other member).2⟩
          have sound : e.Sound := ⟨named, s, made⟩
          dsimp only
          rw [ih, others]
          tauto

theorem make_of_no_faults {seen : List String} {entries : List Entry}
    (sound : (check seen entries).2 = []) : Make entries (check seen entries).1 := by
  induction entries generalizing seen with
  | nil => exact .nil
  | cons e rest ih =>
    simp only [check] at sound ⊢
    split at sound
    · cases sound
    · split at sound
      · cases sound
      case isFalse named fresh =>
        simp only [named, fresh, if_false, Bool.false_eq_true]
        cases made : Schedule.ofAttributes e.name e.attributes with
        | error error => simp only [made, reduceCtorEq] at sound
        | ok s =>
          simp only [made] at sound
          exact .cons made (ih sound)

variable {entries : List Entry} {schedules : List Schedule}

theorem Make.names_eq (make : Make entries schedules) :
    schedules.map (·.name) = entries.map (·.name) := by
  induction make with
  | nil => rfl
  | cons made _ ih => rw [List.map_cons, List.map_cons, ih, Schedule.name_of_ofAttributes made]

theorem Make.exists_of_mem (make : Make entries schedules) {e : Entry} (member : e ∈ entries) :
    ∃ s, Schedule.ofAttributes e.name e.attributes = .ok s := by
  induction make with
  | nil => exact absurd member List.not_mem_nil
  | cons made _ ih =>
    rcases List.mem_cons.mp member with rfl | later
    · exact ⟨_, made⟩
    · exact ih later

theorem Make.find?_eq (make : Make entries schedules) (name : String) :
    schedules.find? (·.name = name) = (entries.find? (·.name = name)).bind fun e =>
      (Schedule.ofAttributes e.name e.attributes).toOption := by
  induction make with
  | nil => rfl
  | @cons e s _ _ made _ ih =>
    rw [List.find?_cons, List.find?_cons, Schedule.name_of_ofAttributes made]
    split
    · rw [Option.bind_some, made]
      rfl
    · exact ih

end Entries

section Book

variable {c : Config} {book : ScheduleBook}

theorem faults_eq_nil_iff (c : Config) :
    c.faults = [] ↔ (∀ e ∈ c.entries, e.Sound) ∧ (c.entries.map (·.name)).Nodup := by
  rw [faults, check_snd_eq_nil_iff]
  simp only [List.not_mem_nil, not_false_eq_true, and_true]

theorem book_eq_insertAll (accepted : c.book = .ok book) :
    Make c.entries c.schedules ∧ (c.entries.map (·.name)).Nodup ∧
      book = (ScheduleBook.new c.settings).insertAll c.schedules := by
  obtain ⟨sound, rfl⟩ := (book_eq_ok_iff c book).mp accepted
  exact ⟨make_of_no_faults sound, ((faults_eq_nil_iff c).mp sound).2, rfl⟩

theorem get?_insertAll_of_book (accepted : c.book = .ok book) (inserted : List Schedule)
    (name : String) :
    (book.insertAll inserted).get? name =
      (lastNamed? name inserted).or ((c.made? name).or (c.builtin? name)) := by
  obtain ⟨make, distinct, rfl⟩ := book_eq_insertAll accepted
  have entered : lastNamed? name c.schedules = c.made? name :=
    (Schedule.lastNamed?_eq_find? (make.names_eq ▸ distinct) name).trans (make.find?_eq name)
  rw [ScheduleBook.get?_insertAll, ScheduleBook.get?_insertAll, ScheduleBook.get?_new, entered]
  rfl

/-- No two entries have one name, so an entry makes the schedule of its name. -/
theorem made?_of_mem (accepted : c.book = .ok book) {e : Entry} (member : e ∈ c.entries) :
    ∃ s, Schedule.ofAttributes e.name e.attributes = .ok s ∧ c.made? e.name = some s := by
  obtain ⟨make, distinct, -⟩ := book_eq_insertAll accepted
  obtain ⟨s, made⟩ := make.exists_of_mem member
  have found : c.entries.find? (·.name = e.name) = some e := by
    cases first : c.entries.find? (·.name = e.name) with
    | none => exact absurd (decide_eq_true rfl) (List.find?_eq_none.mp first e member)
    | some other =>
      have same : other.name = e.name := by
        simpa only [decide_eq_true_eq] using List.find?_some first
      rw [List.inj_on_of_nodup_map distinct (List.mem_of_find?_eq_some first) member same]
  refine ⟨s, made, ?_⟩
  rw [made?, found, Option.bind_some, made]
  rfl

theorem name_of_made? {name : String} {s : Schedule} (made : c.made? name = some s) :
    s.name = name := by
  obtain ⟨e, found, made⟩ := Option.bind_eq_some_iff.mp made
  have named : e.name = name := by simpa only [decide_eq_true_eq] using List.find?_some found
  cases accepted : Schedule.ofAttributes e.name e.attributes with
  | error error => rw [accepted] at made; contradiction
  | ok s' =>
    rw [accepted] at made
    cases made
    rw [Schedule.name_of_ofAttributes accepted, named]

theorem name_of_builtin? {name : String} {s : Schedule} (builtin : c.builtin? name = some s) :
    s.name = name := by
  unfold builtin? at builtin
  split at builtin
  · simpa only [decide_eq_true_eq] using List.find?_some builtin
  · contradiction

theorem made?_eq_none_iff (accepted : c.book = .ok book) (name : String) :
    c.made? name = none ↔ name ∉ c.entries.map (·.name) := by
  constructor
  · rintro nothing given
    obtain ⟨e, member, rfl⟩ := List.mem_map.mp given
    obtain ⟨s, -, made⟩ := made?_of_mem accepted member
    rw [nothing] at made
    contradiction
  · intro absent
    have unfound : c.entries.find? (·.name = name) = none := by
      refine List.find?_eq_none.mpr fun e member same => absent ?_
      exact List.mem_map.mpr ⟨e, member, of_decide_eq_true same⟩
    rw [made?, unfound, Option.bind_none]

theorem builtin?_eq_none_iff (name : String) :
    c.builtin? name = none ↔
      name ∉ if c.settings.defaultSchedules then Schedule.builtins.map (·.name) else [] := by
  unfold builtin?
  split
  · rw [← Schedule.lastNamed?_eq_find? ScheduleBook.builtins_nodup]
    exact Schedule.lastNamed?_eq_none_iff name Schedule.builtins
  · exact iff_of_true rfl List.not_mem_nil

theorem mem_names_insertAll_iff (accepted : c.book = .ok book) (inserted : List Schedule)
    (name : String) :
    name ∈ (book.insertAll inserted).names ↔ name ∈ c.givenNames inserted := by
  rw [← not_iff_not, ScheduleBook.names, ← KeyedList.get?_eq_none_iff]
  refine (Eq.congr_left (get?_insertAll_of_book accepted inserted name)).trans ?_
  rw [Option.or_eq_none_iff, Option.or_eq_none_iff, Schedule.lastNamed?_eq_none_iff,
    made?_eq_none_iff accepted, builtin?_eq_none_iff, givenNames, List.mem_append, List.mem_append,
    not_or, not_or]
  tauto

/-- What a name stands for in the book of a configuration in which schedules were registered later:
the last of these under that name, else the schedule that the entry of that name makes, else the
built-in one if the settings register those. Each schedule stands under its own name, the names
ascend, there are as many schedules as different names were given, and one that is registered next
takes the place of what its name stands for. -/
theorem book_insertAll_layers (accepted : c.book = .ok book) (inserted : List Schedule) :
    (∀ name, (book.insertAll inserted).get? name =
        (lastNamed? name inserted).or ((c.made? name).or (c.builtin? name))) ∧
      (∀ e ∈ c.entries, ∃ s, Schedule.ofAttributes e.name e.attributes = .ok s ∧
        c.made? e.name = some s) ∧
      (∀ entry ∈ (book.insertAll inserted).schedules, entry.2.name = entry.1) ∧
      (book.insertAll inserted).names.Pairwise (· < ·) ∧
      (book.insertAll inserted).size = (c.givenNames inserted).toFinset.card ∧
      ∀ s, ((book.insertAll inserted).register s).1 = (book.insertAll inserted).get? s.name := by
  have layers := get?_insertAll_of_book accepted inserted
  have ascending := ScheduleBook.insertAll_ascending
    (ScheduleBook.ascending_of_config accepted) inserted
  have sorted := ScheduleBook.names_pairwise ascending
  refine ⟨layers, fun e member => made?_of_mem accepted member, ?_, sorted, ?_, fun s => ?_⟩
  · intro entry member
    have found := (KeyedList.get?_eq_some_iff ascending entry.1 entry.2).mpr member
    have layered := (layers entry.1).symm.trans found
    rcases Option.or_eq_some_iff.mp layered with late | ⟨-, early⟩
    · exact Schedule.name_of_lastNamed? late
    · rcases Option.or_eq_some_iff.mp early with made | ⟨-, builtin⟩
      · exact name_of_made? made
      · exact name_of_builtin? builtin
  · have distinct : (book.insertAll inserted).names.Nodup := sorted.imp String.ne_of_lt
    calc (book.insertAll inserted).size
        = (book.insertAll inserted).names.length := List.length_map _ |>.symm
      _ = (book.insertAll inserted).names.toFinset.card :=
          (List.toFinset_card_of_nodup distinct).symm
      _ = (c.givenNames inserted).toFinset.card := by
          congr 1
          ext name
          rw [List.mem_toFinset, List.mem_toFinset, mem_names_insertAll_iff accepted]
  · exact KeyedList.exchange_fst s.name s ascending

/-- Two entries, the first for a name that is built in. -/
def yard : Config :=
  ⟨1, {}, [⟨"daily", some .weekly, none, none, none, none⟩,
    ⟨"mow", some .monthly, none, none, none, some (.one (.text "Sat"))⟩]⟩

/-- What is registered later: one for the name of an entry, and one for a new name. -/
def yardWork : List Schedule := [Schedule.unrestricted "mow", Schedule.sweep]

theorem book_insertAll_layers_yard :
    ∃ book, yard.book = .ok book ∧
      (book.insertAll yardWork).get? "mow" = some (Schedule.unrestricted "mow") ∧
      (book.insertAll yardWork).get? "daily" =
        some { Schedule.unrestricted "daily" with period := some .weekly } ∧
      (book.insertAll yardWork).get? "hourly" =
        some { Schedule.unrestricted "hourly" with period := some .hourly } ∧
      (book.insertAll yardWork).get? "rake" = none ∧ (book.insertAll yardWork).size = 8 ∧
      ((book.insertAll yardWork).register (Schedule.unrestricted "sweep")).1 =
        some Schedule.sweep := by
  have accepted : yard.book = .ok ((ScheduleBook.new yard.settings).insertAll yard.schedules) := rfl
  obtain ⟨layers, -, -, -, size, exchanged⟩ := book_insertAll_layers accepted yardWork
  refine ⟨_, accepted, (layers "mow").trans ?_, (layers "daily").trans ?_,
    (layers "hourly").trans ?_, (layers "rake").trans ?_, size.trans ?_,
    (exchanged (Schedule.unrestricted "sweep")).trans ((layers "sweep").trans ?_)⟩
  all_goals decide +kernel

end Book

end Config

end Provision
