import Mathlib.Data.List.Sort
import Provision.Proofs.Config.Layers

/-!
The order of the entries of a configuration. What validation reports depends on it, for of two
entries with one name the later is blamed; but whether it reports anything does not, and neither
does the book.
-/

namespace Provision

namespace KeyedList

variable {α : Type}

/-- What is found under each key determines a list with ascending keys. -/
theorem ext_get? {entries entries' : KeyedList α} (h : Ascending entries)
    (h' : Ascending entries') (same : ∀ key, get? key entries = get? key entries') :
    entries = entries' := by
  have irrefl : Std.Irrefl fun a b : String × α => a.1 < b.1 := ⟨fun a => String.lt_irrefl a.1⟩
  have antisymm : Std.Antisymm fun a b : String × α => a.1 < b.1 :=
    ⟨fun _ _ before after => absurd after (String.lt_asymm before)⟩
  refine List.Pairwise.eq_of_mem_iff h h' fun entry => ?_
  rw [← get?_eq_some_iff h entry.1 entry.2, same, get?_eq_some_iff h' entry.1 entry.2]

end KeyedList

namespace ScheduleBook

theorem settings_insertAll (book : ScheduleBook) (schedules : List Schedule) :
    (book.insertAll schedules).settings = book.settings := by
  induction schedules generalizing book with
  | nil => rfl
  | cons s rest ih => exact ih (book.insert s)

theorem settings_new (settings : Settings) : (ScheduleBook.new settings).settings = settings := by
  unfold ScheduleBook.new
  dsimp only
  split
  · exact settings_insertAll _ _
  · rfl

end ScheduleBook

namespace Config

variable {c : Config} {entries : List Entry} {book book' : ScheduleBook}

theorem settings_of_book (accepted : c.book = .ok book) : book.settings = c.settings := by
  obtain ⟨-, rfl⟩ := (c.book_eq_ok_iff book).mp accepted
  rw [ScheduleBook.settings_insertAll, ScheduleBook.settings_new]

/-- Entries of which each is sound and has its own name are so in any order. -/
theorem faults_eq_nil_iff_of_perm (perm : entries.Perm c.entries) :
    faults { c with entries } = [] ↔ c.faults = [] := by
  rw [faults_eq_nil_iff, faults_eq_nil_iff]
  refine and_congr ?_ (perm.map (·.name)).nodup_iff
  exact forall_congr' fun e => imp_congr_left perm.mem_iff

theorem made?_of_perm (perm : entries.Perm c.entries) (accepted : c.book = .ok book)
    (accepted' : Config.book { c with entries } = .ok book') (name : String) :
    made? { c with entries } name = c.made? name := by
  by_cases given : name ∈ c.entries.map (·.name)
  · obtain ⟨e, member, rfl⟩ := List.mem_map.mp given
    obtain ⟨s, made, found⟩ := made?_of_mem accepted member
    obtain ⟨s', made', found'⟩ := made?_of_mem accepted' (perm.mem_iff.mpr member)
    rw [found, found', Except.ok.inj (made.symm.trans made')]
  · have given' : name ∉ entries.map (·.name) := by rwa [(perm.map (·.name)).mem_iff]
    rw [(made?_eq_none_iff accepted name).mpr given,
      (made?_eq_none_iff accepted' name).mpr given']

theorem book_eq_of_perm (perm : entries.Perm c.entries) (accepted : c.book = .ok book)
    (accepted' : Config.book { c with entries } = .ok book') : book' = book := by
  have found (name : String) : book'.get? name = book.get? name := by
    have layers := get?_insertAll_of_book accepted [] name
    have layers' := get?_insertAll_of_book accepted' [] name
    rw [made?_of_perm perm accepted accepted'] at layers'
    exact layers'.trans layers.symm
  have schedules : book'.schedules = book.schedules :=
    KeyedList.ext_get? (ScheduleBook.ascending_of_config accepted')
      (ScheduleBook.ascending_of_config accepted) found
  have settings : book'.settings = book.settings :=
    (settings_of_book accepted').trans (settings_of_book accepted).symm
  cases book
  cases book'
  rw [ScheduleBook.mk.injEq]
  exact ⟨settings, schedules⟩

/-- A configuration with its entries in another order is accepted exactly when it was accepted in
the first one, and then the two books give the same schedule for every name, list the same names in
the same order, and let the same work run at every moment, whenever it was run last. -/
theorem book_of_perm (perm : entries.Perm c.entries) :
    ((∃ book, Config.book { c with entries } = .ok book) ↔ ∃ book, c.book = .ok book) ∧
      ∀ book book', c.book = .ok book → Config.book { c with entries } = .ok book' →
        (∀ name, book'.get? name = book.get? name) ∧ book'.names = book.names ∧
          ∀ previous now, book'.due previous now = book.due previous now := by
  constructor
  · simp only [book_eq_ok_iff, exists_and_left, exists_eq', and_true]
    exact faults_eq_nil_iff_of_perm perm
  · intro book book' accepted accepted'
    obtain rfl := book_eq_of_perm perm accepted accepted'
    exact ⟨fun _ => rfl, rfl, fun _ _ => rfl⟩

/-- The entry for the built-in name last. -/
theorem book_of_perm_yard :
    yard.entries.reverse.Perm yard.entries ∧
      ∃ book book', yard.book = .ok book ∧
        Config.book { yard with entries := yard.entries.reverse } = .ok book' ∧
        book'.get? "daily" = book.get? "daily" ∧ book'.names = book.names ∧
        book'.due ScheduleBook.lastRuns ScheduleBook.evening =
          book.due ScheduleBook.lastRuns ScheduleBook.evening := by
  have perm : yard.entries.reverse.Perm yard.entries := yard.entries.reverse_perm
  obtain ⟨accepts, same⟩ := book_of_perm perm
  have accepted : yard.book = .ok ((ScheduleBook.new yard.settings).insertAll yard.schedules) := rfl
  obtain ⟨book', accepted'⟩ := accepts.mpr ⟨_, accepted⟩
  obtain ⟨found, names, due⟩ := same _ _ accepted accepted'
  exact ⟨perm, _, _, accepted, accepted', found "daily", names, due _ _⟩

-- Which faults are reported, and how many, does depend on the order.
example :
    let e : Entry := ⟨"sweep", none, none, none, none, none⟩
    faults ⟨1, {}, [{ e with runs := some 0 }, e]⟩ =
        [.badSchedule "sweep" .zeroRuns, .duplicateName "sweep"] ∧
      faults ⟨1, {}, [e, { e with runs := some 0 }]⟩ = [.duplicateName "sweep"] := by
  decide +kernel

end Config

end Provision
