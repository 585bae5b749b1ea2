import Mathlib.Data.Nat.Bitwise
import Provision.Calendar.Weekday

/-!
Sets of days as numbers. Each day has a bit of its own, the lowest for Sunday, and the bits of a set
are those of the days that were put in. So a set that was made from days is known by the days in it.
-/

namespace Provision

namespace Weekday

theorem index_lt (d : Weekday) : d.index < 7 := by
  cases d <;> decide

theorem mem_all (d : Weekday) : d ∈ all := by
  cases d <;> decide

theorem index_inj {d e : Weekday} : d.index = e.index ↔ d = e := by
  constructor
  · intro same
    cases d <;> cases e <;> first | rfl | contradiction
  · rintro rfl
    rfl

theorem exists_index_eq {n : Nat} (small : n < 7) : ∃ d : Weekday, d.index = n := by
  have listed : all.map index = List.range 7 := rfl
  have member : n ∈ all.map index := listed ▸ List.mem_range.mpr small
  obtain ⟨d, -, index⟩ := List.mem_map.mp member
  exact ⟨d, index⟩

end Weekday

namespace WeekdaySet

/-- The set as a number, whose bits are the days. -/
def mask (s : WeekdaySet) : Nat := s.bits.toNat

/-- No bit of a day is cut off. -/
theorem mask_insert (s : WeekdaySet) (d : Weekday) :
    (s.insert d).mask = s.mask ||| Nat.pow 2 d.index := by
  have fits : (BitVec.ofNat 8 (Nat.pow 2 d.index)).toNat = Nat.pow 2 d.index := by
    cases d <;> rfl
  rw [mask, insert, BitVec.toNat_or, fits, mask]

theorem testBit_mask_insert (s : WeekdaySet) (d : Weekday) (n : Nat) :
    (s.insert d).mask.testBit n = true ↔ s.mask.testBit n = true ∨ d.index = n := by
  rw [mask_insert, Nat.testBit_or, Bool.or_eq_true]
  refine or_congr_right ?_
  show (2 ^ d.index).testBit n = true ↔ _
  rw [Nat.testBit_two_pow, decide_eq_true_eq]

theorem testBit_mask_ofList (days : List Weekday) (n : Nat) :
    (ofList days).mask.testBit n = true ↔ ∃ d ∈ days, d.index = n := by
  have step : ∀ s : WeekdaySet, (days.foldl insert s).mask.testBit n = true ↔
      s.mask.testBit n = true ∨ ∃ d ∈ days, d.index = n := by
    induction days with
    | nil => simp
    | cons d rest ih =>
      intro s
      rw [List.foldl_cons, ih, testBit_mask_insert, or_assoc]
      simp only [List.mem_cons, exists_eq_or_imp]
  have start : empty.mask.testBit n = false := Nat.zero_testBit n
  rw [ofList, step, start]
  simp

theorem contains_eq_testBit (s : WeekdaySet) (d : Weekday) :
    s.contains d = s.mask.testBit d.index := rfl

/-- Neither the order of the days nor their repetition counts. -/
theorem contains_ofList_iff {days : List Weekday} {d : Weekday} :
    (ofList days).contains d = true ↔ d ∈ days := by
  rw [contains_eq_testBit, testBit_mask_ofList]
  simp only [Weekday.index_inj, exists_eq_right]

/-- There are no bits but those of the days. -/
def InWeek (s : WeekdaySet) : Prop := ∀ n, s.mask.testBit n = true → n < 7

theorem inWeek_ofList (days : List Weekday) : (ofList days).InWeek := by
  intro n set
  obtain ⟨d, -, rfl⟩ := (testBit_mask_ofList days n).mp set
  exact d.index_lt

theorem ext_contains {s t : WeekdaySet} (inWeek : s.InWeek) (inWeek' : t.InWeek)
    (same : ∀ d, s.contains d = t.contains d) : s = t := by
  have agree : s.mask = t.mask := by
    apply Nat.eq_of_testBit_eq
    intro n
    by_cases inside : n < 7
    · obtain ⟨d, rfl⟩ := Weekday.exists_index_eq inside
      exact same d
    · rw [Bool.eq_false_of_not_eq_true fun set => inside (inWeek n set),
        Bool.eq_false_of_not_eq_true fun set => inside (inWeek' n set)]
  obtain ⟨bits⟩ := s
  obtain ⟨bits'⟩ := t
  rw [mk.injEq]
  exact BitVec.eq_of_toNat_eq agree

theorem mem_toList_iff {s : WeekdaySet} {d : Weekday} : d ∈ s.toList ↔ s.contains d = true := by
  rw [toList, List.mem_filter, and_iff_right d.mem_all]

theorem ofList_toList {s : WeekdaySet} (inWeek : s.InWeek) : ofList s.toList = s := by
  refine ext_contains (inWeek_ofList s.toList) inWeek fun d => ?_
  rw [Bool.eq_iff_iff, contains_ofList_iff, mem_toList_iff]

end WeekdaySet

end Provision
