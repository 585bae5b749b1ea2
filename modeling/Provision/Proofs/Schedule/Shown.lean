import Provision.Proofs.Schedule.Sound

/-!
Schedules shown as attributes. The windows and the days of a schedule have texts that are read as
the same windows and days, so the attributes with these texts make the schedule again.
-/

namespace Provision.Schedule

variable {s : Schedule}

/-- The attributes that show a schedule: its windows and the days of its set, each by its text. -/
def attributes (s : Schedule) : Attributes where
  period := s.period
  periodMatch := s.periodMatch
  runs := s.runs
  windows := s.windows.map Window.text
  weekdays := s.weekdays.elim [] fun days => days.toList.map Weekday.name

theorem Sound.violations_attributes (sound : s.Sound) : violations s.attributes = [] := by
  apply violations_eq_nil_iff.mpr
  refine ⟨sound.runs_pos, ?_, ?_, ?_⟩
  · rintro ⟨several, number⟩
    exact PeriodMatch.noConfusion (number.symm.trans (sound.distance_of_runs several))
  · intro text member
    obtain ⟨w, among, rfl⟩ := List.mem_map.mp member
    exact ⟨w, window_eq_ok_iff.mpr ⟨w.writes_text, sound.start_le_stop w among⟩⟩
  · intro token member
    cases restricted : s.weekdays with
    | none => simp [attributes, restricted] at member
    | some days =>
      simp only [attributes, restricted, Option.elim_some, List.mem_map] at member
      obtain ⟨d, -, rfl⟩ := member
      exact ⟨d, d.writes_name⟩

theorem Sound.madeFrom_attributes (sound : s.Sound) : MadeFrom s.name s.attributes s where
  named := rfl
  period := rfl
  periodMatch := rfl
  runs := rfl
  windows := by
    rw [attributes, List.forall₂_map_left_iff, List.forall₂_same]
    intro w among
    exact window_eq_ok_iff.mpr ⟨w.writes_text, sound.start_le_stop w among⟩
  everyDay := by
    cases restricted : s.weekdays with
    | none => simp [attributes, restricted]
    | some days =>
      -- A set of days is never empty, so it is not taken for no restriction.
      obtain ⟨-, -, d, allowed⟩ := sound.days_nonempty restricted
      have member := WeekdaySet.mem_toList_iff.mpr allowed
      simp [attributes, restricted, List.ne_nil_of_mem member]
  inWeek := fun days restricted => (sound.days_nonempty restricted).2.1
  days := by
    intro days restricted d
    simp only [attributes, restricted, Option.elim_some, List.mem_map, exists_exists_and_eq_and,
      WeekdaySet.mem_toList_iff]
    constructor
    · intro allowed
      exact ⟨d, allowed, d.writes_name⟩
    · rintro ⟨e, allowed, writes⟩
      rwa [writes.unique e.writes_name]

/-- A schedule that was accepted is made again from its name and the attributes that show it. -/
theorem ofAttributes_attributes {name : String} {a : Attributes}
    (accepted : ofAttributes name a = .ok s) : ofAttributes s.name s.attributes = .ok s := by
  have sound := sound_of_ofAttributes accepted
  rw [ofAttributes_eq_ok_iff_madeFrom]
  exact ⟨sound.violations_attributes, sound.madeFrom_attributes⟩

theorem ofAttributes_attributes_evenings :
    ofAttributes "backup" evenings = .ok backup ∧
      backup.attributes =
        { period := some .daily, runs := 4, windows := ["22:00:00 - 23:30:00"],
          weekdays := ["Mon", "Fri"] } ∧
      ofAttributes backup.name backup.attributes = .ok backup := by
  have accepted : ofAttributes "backup" evenings = .ok backup := by decide +kernel
  exact ⟨accepted, by decide +kernel, ofAttributes_attributes accepted⟩

end Provision.Schedule
