import Provision.Value.Json
import Provision.Proofs.Json.RoundTrip
import Provision.Proofs.KeyedList

/-!
Values as documents and back. A document is nested as deep as its value, and gives back the value
that it was made from, as long as the hashes in it have their keys in ascending order, as those of
every value that was read do.
-/

namespace Provision.Value

mutual

/-- A value and all values inside it. -/
def parts : Value → List Value
  | .array items => .array items :: partsOfItems items
  | .hash entries => .hash entries :: partsOfEntries entries
  | v => [v]

def partsOfItems : List Value → List Value
  | [] => []
  | v :: rest => v.parts ++ partsOfItems rest

def partsOfEntries : List (String × Value) → List Value
  | [] => []
  | (_, v) :: rest => v.parts ++ partsOfEntries rest

end

mutual

/-- How many arrays and hashes are around the innermost value. -/
def depth : Value → Nat
  | .array items => depthOfItems items + 1
  | .hash entries => depthOfEntries entries + 1
  | _ => 0

def depthOfItems : List Value → Nat
  | [] => 0
  | v :: rest => max v.depth (depthOfItems rest)

def depthOfEntries : List (String × Value) → Nat
  | [] => 0
  | (_, v) :: rest => max v.depth (depthOfEntries rest)

end

/-- No float stands anywhere in a value. -/
def FloatFree (v : Value) : Prop := ∀ x, .float x ∉ v.parts

/-- Every hash in a value holds its keys in strictly ascending order. -/
def KeysAscending (v : Value) : Prop :=
  ∀ entries, .hash entries ∈ v.parts → KeyedList.Ascending entries

mutual

theorem depth_toJson (v : Value) : v.toJson.depth = v.depth := by
  cases v with
  | array items => rw [toJson, Json.depth, depth, depthOfAll_toJsonItems items]
  | hash entries => rw [toJson, Json.depth, depth, depthOfMembers_toJsonEntries entries]
  | _ => rfl

theorem depthOfAll_toJsonItems (items : List Value) :
    Json.depthOfAll (toJsonItems items) = depthOfItems items := by
  cases items with
  | nil => rfl
  | cons v rest =>
    rw [toJsonItems, Json.depthOfAll, depthOfItems, depth_toJson v, depthOfAll_toJsonItems rest]

theorem depthOfMembers_toJsonEntries (entries : List (String × Value)) :
    Json.depthOfMembers (toJsonEntries entries) = depthOfEntries entries := by
  cases entries with
  | nil => rfl
  | cons entry rest =>
    obtain ⟨key, v⟩ := entry
    rw [toJsonEntries, Json.depthOfMembers, depthOfEntries, depth_toJson v,
      depthOfMembers_toJsonEntries rest]

end

mutual

theorem isIntegral_toJson (v : Value) (floatFree : v.FloatFree) : v.toJson.IsIntegral := by
  cases v with
  | float x => exact absurd (by simp [parts]) (floatFree x)
  | array items =>
    exact allIntegral_toJsonItems items fun x member =>
      floatFree x (List.mem_cons_of_mem _ member)
  | hash entries =>
    exact membersIntegral_toJsonEntries entries fun x member =>
      floatFree x (List.mem_cons_of_mem _ member)
  | _ => trivial

theorem allIntegral_toJsonItems (items : List Value)
    (floatFree : ∀ x, .float x ∉ partsOfItems items) : Json.AllIntegral (toJsonItems items) := by
  cases items with
  | nil => trivial
  | cons v rest =>
    exact ⟨isIntegral_toJson v fun x member => floatFree x (List.mem_append_left _ member),
      allIntegral_toJsonItems rest fun x member => floatFree x (List.mem_append_right _ member)⟩

theorem membersIntegral_toJsonEntries (entries : List (String × Value))
    (floatFree : ∀ x, .float x ∉ partsOfEntries entries) :
    Json.MembersIntegral (toJsonEntries entries) := by
  cases entries with
  | nil => trivial
  | cons entry rest =>
    obtain ⟨key, v⟩ := entry
    exact ⟨isIntegral_toJson v fun x member => floatFree x (List.mem_append_left _ member),
      membersIntegral_toJsonEntries rest fun x member =>
        floatFree x (List.mem_append_right _ member)⟩

end

mutual

theorem ofJson_toJson (v : Value) (ascending : v.KeysAscending) : ofJson v.toJson = v := by
  cases v with
  | array items =>
    rw [toJson, ofJson, ofJsonItems_toJsonItems items fun entries member =>
      ascending entries (List.mem_cons_of_mem _ member)]
  | hash entries =>
    rw [toJson, ofJson, ofJsonMembers_toJsonEntries entries fun inner member =>
      ascending inner (List.mem_cons_of_mem _ member)]
    exact congrArg hash (KeyedList.ofPairs_eq_self entries (ascending entries List.mem_cons_self))
  | _ => rfl

theorem ofJsonItems_toJsonItems (items : List Value)
    (ascending : ∀ entries, .hash entries ∈ partsOfItems items → KeyedList.Ascending entries) :
    ofJsonItems (toJsonItems items) = items := by
  cases items with
  | nil => rfl
  | cons v rest =>
    rw [toJsonItems, ofJsonItems,
      ofJson_toJson v fun entries member => ascending entries (List.mem_append_left _ member),
      ofJsonItems_toJsonItems rest fun entries member =>
        ascending entries (List.mem_append_right _ member)]

theorem ofJsonMembers_toJsonEntries (entries : List (String × Value))
    (ascending : ∀ inner, .hash inner ∈ partsOfEntries entries → KeyedList.Ascending inner) :
    ofJsonMembers (toJsonEntries entries) = entries := by
  cases entries with
  | nil => rfl
  | cons entry rest =>
    obtain ⟨key, v⟩ := entry
    rw [toJsonEntries, ofJsonMembers,
      ofJson_toJson v fun inner member => ascending inner (List.mem_append_left _ member),
      ofJsonMembers_toJsonEntries rest fun inner member =>
        ascending inner (List.mem_append_right _ member)]

end

theorem mem_partsOfItems {w : Value} {items : List Value} :
    w ∈ partsOfItems items ↔ ∃ v ∈ items, w ∈ v.parts := by
  induction items with
  | nil => simp [partsOfItems]
  | cons v rest ih => simp [partsOfItems, ih]

theorem mem_partsOfEntries {w : Value} {entries : List (String × Value)} :
    w ∈ partsOfEntries entries ↔ ∃ entry ∈ entries, w ∈ entry.2.parts := by
  induction entries with
  | nil => simp [partsOfEntries]
  | cons entry rest ih => simp [partsOfEntries, ih]

mutual

/-- Whatever a document says, the hashes of its value have ascending keys. -/
theorem keysAscending_ofJson (j : Json) : (ofJson j).KeysAscending := by
  intro inner member
  cases j with
  | array items =>
    rw [ofJson, parts, List.mem_cons] at member
    obtain ⟨v, present, found⟩ := mem_partsOfItems.mp (member.resolve_left Value.noConfusion)
    exact keysAscending_ofJsonItems items v present inner found
  | object members =>
    rw [ofJson, parts, List.mem_cons] at member
    rcases member with same | deeper
    · cases same
      exact KeyedList.ofPairs_ascending _
    · obtain ⟨entry, present, found⟩ := mem_partsOfEntries.mp deeper
      exact keysAscending_ofJsonMembers members entry (KeyedList.mem_of_mem_ofPairs present)
        inner found
  | number n => cases n <;> simp [ofJson, ofNumber, parts] at member
  | _ => simp [ofJson, parts] at member

theorem keysAscending_ofJsonItems (items : List Json) :
    ∀ v ∈ ofJsonItems items, v.KeysAscending := by
  intro v member
  cases items with
  | nil => cases member
  | cons j rest =>
    rcases List.mem_cons.mp member with rfl | later
    · exact keysAscending_ofJson j
    · exact keysAscending_ofJsonItems rest v later

theorem keysAscending_ofJsonMembers (members : List (String × Json)) :
    ∀ entry ∈ ofJsonMembers members, entry.2.KeysAscending := by
  intro entry member
  cases members with
  | nil => cases member
  | cons first rest =>
    obtain ⟨key, j⟩ := first
    rcases List.mem_cons.mp member with rfl | later
    · exact keysAscending_ofJson j
    · exact keysAscending_ofJsonMembers rest entry later

end

end Provision.Value
