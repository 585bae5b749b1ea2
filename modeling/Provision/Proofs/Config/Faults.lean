import Provision.Config.Validate
import Provision.Proofs.Text.Blank

/-!
What validation reports. Each entry is judged on its own and by the names of the entries before it,
also of those that are faulty themselves; the faults stand in the order of the entries, and there is
a book exactly where there are none.
-/

namespace Provision.Config

/-- The fault of an entry that comes after others: a blank name, else the name of an earlier entry,
else what is wrong with its attributes. -/
def Entry.fault? (earlier : List Entry) (e : Entry) : Option Fault :=
  if Text.AllBlank e.name.toList then some .emptyName
  else if ∃ other ∈ earlier, ¬ Text.AllBlank other.name.toList ∧ other.name = e.name then
    some (.duplicateName e.name)
  else
    match Schedule.ofAttributes e.name e.attributes with
    | .ok _ => none
    | .error error => some (.badSchedule e.name error)

/-- The fault of the entry at a place. -/
def faultAt? (c : Config) (place : Nat) : Option Fault :=
  c.entries[place]?.bind (Entry.fault? (c.entries.take place))

section Check

variable {seen : List String} {earlier : List Entry} {e : Entry}

/-- The names seen are those of the earlier entries that have one. -/
def Records (seen : List String) (earlier : List Entry) : Prop :=
  ∀ name, name ∈ seen ↔ ∃ other ∈ earlier, ¬ Text.AllBlank other.name.toList ∧ other.name = name

theorem Records.blank (records : Records seen earlier) (blank : Text.AllBlank e.name.toList) :
    Records seen (earlier ++ [e]) := by
  intro name
  simp only [records name, List.mem_append, List.mem_singleton, or_and_right, exists_or,
    exists_eq_left, blank, not_true_eq_false, false_and, or_false]

theorem Records.again (records : Records seen earlier) (known : e.name ∈ seen) :
    Records seen (earlier ++ [e]) := by
  intro name
  simp only [List.mem_append, List.mem_singleton, or_and_right, exists_or, exists_eq_left,
    ← records name]
  constructor
  · exact .inl
  · rintro (old | ⟨-, rfl⟩)
    · exact old
    · exact known

theorem Records.fresh (records : Records seen earlier) (named : ¬ Text.AllBlank e.name.toList) :
    Records (e.name :: seen) (earlier ++ [e]) := by
  intro name
  rw [List.mem_cons, records name]
  simp only [List.mem_append, List.mem_singleton, or_and_right, exists_or, exists_eq_left, named,
    not_false_eq_true, true_and]
  rw [or_comm, eq_comm]

/-- Reading on past an entry reports its fault, if it has one, and then those of the others. -/
theorem check_cons (records : Records seen earlier) (e : Entry) (rest : List Entry) :
    ∃ seen', Records seen' (earlier ++ [e]) ∧
      (check seen (e :: rest)).2 = (e.fault? earlier).toList ++ (check seen' rest).2 := by
  simp only [check, Entry.fault?, List.isEmpty_iff, Text.trim_eq_nil_iff, ← records e.name]
  split
  case isTrue blank => exact ⟨seen, records.blank blank, rfl⟩
  case isFalse named =>
    split
    case isTrue known => exact ⟨seen, records.again known, rfl⟩
    case isFalse =>
      refine ⟨e.name :: seen, records.fresh named, ?_⟩
      cases Schedule.ofAttributes e.name e.attributes <;> rfl

theorem filterMap_range_cons {α β : Type} (f : List α → α → Option β) (a : α) (rest : List α) :
    ((List.range (a :: rest).length).filterMap fun i =>
        (a :: rest)[i]?.bind (f ((a :: rest).take i))) =
      (f [] a).toList ++ (List.range rest.length).filterMap fun i =>
        rest[i]?.bind (f (a :: rest.take i)) := by
  rw [List.length_cons, List.range_succ_eq_map, List.filterMap_cons, List.filterMap_map]
  simp only [List.getElem?_cons_zero, Option.bind_some, List.take_zero, Function.comp_def,
    List.getElem?_cons_succ, List.take_succ_cons]
  cases f [] a <;> rfl

theorem check_snd (records : Records seen earlier) (rest : List Entry) :
    (check seen rest).2 = (List.range rest.length).filterMap fun i =>
      rest[i]?.bind (Entry.fault? (earlier ++ rest.take i)) := by
  -- Each entry that is read joins the earlier ones, whatever was reported about it.
  induction rest generalizing seen earlier with
  | nil => rfl
  | cons e rest ih =>
    obtain ⟨seen', records', reported⟩ := check_cons records e rest
    rw [reported, ih records',
      filterMap_range_cons (fun before => Entry.fault? (earlier ++ before)) e rest]
    simp only [List.append_nil, List.append_assoc, List.singleton_append]

end Check

/-- Validation reports one fault for each faulty entry, in the order of the entries, and nothing
else. There is a book exactly where nothing is reported, and else the report stands in its place. -/
theorem faults_eq_filterMap (c : Config) :
    c.faults = (List.range c.entries.length).filterMap c.faultAt? ∧
      ((∃ book, c.book = .ok book) ↔ c.faults = []) ∧
      ∀ faults, c.book = .error faults ↔ faults = c.faults ∧ c.faults ≠ [] := by
  have nothing : Records [] [] := fun name => by
    simp only [List.not_mem_nil, false_and, exists_false]
  refine ⟨check_snd nothing c.entries, ?_⟩
  -- Both statements about the book read off its two cases.
  unfold book
  simp only [List.isEmpty_iff]
  split
  case isTrue sound =>
    simp only [Except.ok.injEq, exists_eq', sound, reduceCtorEq, ne_eq, not_true_eq_false,
      and_false, implies_true, and_self]
  case isFalse faulty =>
    simp only [reduceCtorEq, exists_false, faulty, Except.error.injEq, ne_eq, not_false_eq_true,
      and_true, eq_comm, implies_true]

-- A name counts as taken although the entry that has it makes no schedule.
example :
    let e : Entry := ⟨"sweep", none, none, none, none, none⟩
    faults ⟨1, {}, [{ e with runs := some 0 }, e, { e with name := " \t" }, e]⟩ =
      [.badSchedule "sweep" .zeroRuns, .duplicateName "sweep", .emptyName,
        .duplicateName "sweep"] := by
  decide +kernel

end Provision.Config
