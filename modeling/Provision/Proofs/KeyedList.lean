import Provision.KeyedList

/-!
What entering pairs does to a keyed list. No other key comes or goes, the keys stay strictly
ascending, and pairs whose keys are ascending already are entered as they stand.
-/

namespace Provision.KeyedList

variable {α : Type}

theorem insert_cons (key : String) (a : α) (k : String) (b : α) (rest : KeyedList α) :
    insert key a ((k, b) :: rest) =
      if key < k then (key, a) :: (k, b) :: rest
      else if k = key then (key, a) :: rest
      else (k, b) :: insert key a rest := by
  simp only [insert, exchange]
  split
  · rfl
  · split <;> rfl

theorem mem_keys_insert (name key : String) (a : α) (entries : KeyedList α) :
    name ∈ keys (insert key a entries) ↔ name = key ∨ name ∈ keys entries := by
  induction entries with
  | nil => simp [insert, exchange, keys]
  | cons entry rest ih =>
    obtain ⟨k, b⟩ := entry
    simp only [keys] at ih
    rw [insert_cons]
    split
    · simp [keys]
    · split
      case isTrue same =>
        subst same
        simp [keys]
      case isFalse =>
        simp only [keys, List.map_cons, List.mem_cons, ih]
        exact or_left_comm

/-- Entering a pair brings in no other pair. -/
theorem mem_insert {p : String × α} {key : String} {a : α} {entries : KeyedList α}
    (member : p ∈ insert key a entries) : p = (key, a) ∨ p ∈ entries := by
  induction entries with
  | nil => exact .inl (List.mem_singleton.mp member)
  | cons entry rest ih =>
    obtain ⟨k, b⟩ := entry
    rw [insert_cons] at member
    split at member
    · exact List.mem_cons.mp member
    · split at member
      · exact (List.mem_cons.mp member).imp_right (List.mem_cons_of_mem _)
      · rcases List.mem_cons.mp member with rfl | later
        · exact .inr List.mem_cons_self
        · exact (ih later).imp_right (List.mem_cons_of_mem _)

theorem mem_of_mem_ofPairs {p : String × α} {pairs : List (String × α)}
    (member : p ∈ ofPairs pairs) : p ∈ pairs := by
  have step : ∀ entries : KeyedList α,
      p ∈ pairs.foldl (fun entries q => insert q.1 q.2 entries) entries →
        p ∈ entries ∨ p ∈ pairs := by
    clear member
    induction pairs with
    | nil => intro entries member; exact .inl member
    | cons q rest ih =>
      intro entries member
      rcases ih _ member with early | late
      · rcases mem_insert early with rfl | old
        · exact .inr List.mem_cons_self
        · exact .inl old
      · exact .inr (List.mem_cons_of_mem q late)
  exact (step [] member).resolve_left List.not_mem_nil

theorem mem_keys_foldl_insert (name : String) (pairs : List (String × α)) (entries : KeyedList α) :
    name ∈ keys (pairs.foldl (fun entries p => insert p.1 p.2 entries) entries) ↔
      name ∈ keys entries ∨ name ∈ keys pairs := by
  induction pairs generalizing entries with
  | nil => simp [keys]
  | cons pair rest ih =>
    rw [List.foldl_cons, ih, mem_keys_insert]
    simp only [keys, List.map_cons, List.mem_cons, or_assoc, or_left_comm]

/-- Sorting a list of names loses none and adds none. -/
theorem mem_sortedNames (name : String) (names : List String) :
    name ∈ sortedNames names ↔ name ∈ names := by
  rw [sortedNames, ofPairs, mem_keys_foldl_insert]
  simp [keys]

theorem ascending_cons (key : String) (a : α) (rest : KeyedList α) :
    Ascending ((key, a) :: rest) ↔ (∀ k ∈ keys rest, key < k) ∧ Ascending rest := by
  simp [Ascending, keys]

theorem get?_eq_none_iff (key : String) (entries : KeyedList α) :
    get? key entries = none ↔ key ∉ keys entries := by
  induction entries with
  | nil => simp [get?, keys]
  | cons entry rest ih =>
    obtain ⟨k, b⟩ := entry
    simp only [get?, keys, List.map_cons, List.mem_cons, not_or] at *
    split
    case isTrue same => simp [same]
    case isFalse different => simp [ih, Ne.symm different]

theorem get?_insert (name key : String) (a : α) (entries : KeyedList α) :
    get? name (insert key a entries) = if name = key then some a else get? name entries := by
  induction entries with
  | nil => simp only [insert, exchange, get?, eq_comm]
  | cons entry rest ih =>
    obtain ⟨k, b⟩ := entry
    rw [insert_cons]
    split
    · simp only [get?, eq_comm]
    · split
      case isTrue same =>
        subst same
        simp only [get?, eq_comm]
        split <;> rfl
      case isFalse different =>
        simp only [get?, ih]
        split
        case isTrue same =>
          subst same
          rw [if_neg different]
        case isFalse => rfl

/-- Entering a pair hands back what its key had before. -/
theorem exchange_fst (key : String) (a : α) {entries : KeyedList α} (h : Ascending entries) :
    (exchange key a entries).1 = get? key entries := by
  induction entries with
  | nil => rfl
  | cons entry rest ih =>
    obtain ⟨k, b⟩ := entry
    obtain ⟨first, tail⟩ := (ascending_cons k b rest).mp h
    simp only [exchange, get?]
    split
    case isTrue before =>
      have absent : key ∉ keys rest := fun member =>
        String.lt_irrefl key (String.lt_trans before (first key member))
      rw [if_neg (String.ne_of_lt before).symm, (get?_eq_none_iff key rest).mpr absent]
    case isFalse =>
      split
      · rfl
      · exact ih tail

/-- Where the keys are ascending, a pair is in the list exactly when its key is found with it. -/
theorem get?_eq_some_iff {entries : KeyedList α} (h : Ascending entries) (key : String) (a : α) :
    get? key entries = some a ↔ (key, a) ∈ entries := by
  induction entries with
  | nil => simp [get?]
  | cons entry rest ih =>
    obtain ⟨k, b⟩ := entry
    obtain ⟨first, tail⟩ := (ascending_cons k b rest).mp h
    rw [get?, List.mem_cons]
    split
    case isTrue same =>
      subst same
      have absent : (k, a) ∉ rest := by
        intro member
        have key : k ∈ keys rest := List.mem_map_of_mem member
        exact String.lt_irrefl k (first k key)
      simp only [absent, or_false, Option.some_inj, Prod.mk.injEq, true_and, eq_comm]
    case isFalse different =>
      rw [ih tail]
      simp only [Prod.mk.injEq, Ne.symm different, false_and, false_or]

theorem insert_ascending (key : String) (a : α) (entries : KeyedList α)
    (h : Ascending entries) : Ascending (insert key a entries) := by
  induction entries with
  | nil => simp [insert, exchange, Ascending]
  | cons entry rest ih =>
    obtain ⟨k, b⟩ := entry
    obtain ⟨first, tail⟩ := (ascending_cons k b rest).mp h
    rw [insert_cons]
    split
    case isTrue before =>
      refine (ascending_cons key a _).mpr ⟨?_, h⟩
      intro name member
      rcases List.mem_cons.mp member with rfl | later
      · exact before
      · exact String.lt_trans before (first name later)
    case isFalse notBefore =>
      split
      case isTrue same =>
        subst same
        exact (ascending_cons k a rest).mpr ⟨first, tail⟩
      case isFalse different =>
        have after : k < key :=
          String.not_le.mp fun le => different (String.le_antisymm (String.not_lt.mp notBefore) le)
        refine (ascending_cons k b _).mpr ⟨?_, ih tail⟩
        intro name member
        rcases (mem_keys_insert name key a rest).mp member with rfl | later
        · exact after
        · exact first name later

theorem ofPairs_ascending (pairs : List (String × α)) : Ascending (ofPairs pairs) := by
  have step : ∀ entries : KeyedList α, Ascending entries →
      Ascending (pairs.foldl (fun entries p => insert p.1 p.2 entries) entries) := by
    induction pairs with
    | nil => intro entries h; exact h
    | cons pair rest ih =>
      intro entries h
      exact ih _ (insert_ascending pair.1 pair.2 entries h)
  exact step [] List.Pairwise.nil

/-- A key above all others goes to the end. -/
theorem insert_eq_append (key : String) (a : α) (entries : KeyedList α)
    (above : ∀ k ∈ keys entries, k < key) : insert key a entries = entries ++ [(key, a)] := by
  induction entries with
  | nil => rfl
  | cons entry rest ih =>
    obtain ⟨k, b⟩ := entry
    have below : k < key := above k (by simp [keys])
    rw [insert_cons, if_neg (String.lt_asymm below), if_neg (String.ne_of_lt below),
      ih fun name member => above name (List.mem_cons_of_mem k member)]
    rfl

theorem ofPairs_eq_self (pairs : List (String × α)) (h : Ascending pairs) :
    ofPairs pairs = pairs := by
  have step : ∀ entries : KeyedList α, Ascending (entries ++ pairs) →
      pairs.foldl (fun entries p => insert p.1 p.2 entries) entries = entries ++ pairs := by
    induction pairs with
    | nil => intro entries _; simp
    | cons pair rest ih =>
      intro entries ascending
      have above : ∀ k ∈ keys entries, k < pair.1 := by
        intro k member
        obtain ⟨entry, present, rfl⟩ := List.mem_map.mp member
        exact (List.pairwise_append.mp ascending).2.2 entry present pair List.mem_cons_self
      have shifted : entries ++ pair :: rest = (entries ++ [(pair.1, pair.2)]) ++ rest := by simp
      rw [shifted] at ascending ⊢
      rw [List.foldl_cons, insert_eq_append pair.1 pair.2 entries above]
      exact ih (List.Pairwise.of_cons h) _ ascending
  exact step [] h

end Provision.KeyedList
