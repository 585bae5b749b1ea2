import Provision.Proofs.Command.BindingName
import Provision.Proofs.Value.Json

/-!
Printed results as bindings. A name without an equals sign, with neither a blank at its ends nor a
dollar sign in front, is read as it stands, and the JSON text behind it is read as the value that it
was printed from: a text that could not be read would be bound as a string without any error.
-/

namespace Provision.Command

/-- A name that a binding leaves as it is. -/
structure IsBindingName (name : String) : Prop where
  nonempty : name ≠ ""
  noEquals : '=' ∉ name.toList
  trimmed : Text.IsTrimmed name.toList
  noDollar : name.toList.head? ≠ some '$'

variable {name : String}

theorem isBindingName_iff : IsBindingName name ↔
    name ≠ "" ∧ '=' ∉ name.toList ∧ bindingName name.toList = name.toList := by
  rw [bindingName_eq_self_iff]
  constructor
  · rintro ⟨nonempty, noEquals, trimmed, noDollar⟩
    exact ⟨nonempty, noEquals, trimmed, noDollar⟩
  · rintro ⟨nonempty, noEquals, trimmed, noDollar⟩
    exact ⟨nonempty, noEquals, trimmed, noDollar⟩

theorem readBinding_append (plain : IsBindingName name) (raw : String) :
    readBinding (name ++ "=" ++ raw) = .ok (name, bindingValue raw.toList) := by
  obtain ⟨nonempty, noEquals, same⟩ := isBindingName_iff.mp plain
  exact (readBinding_eq_ok_iff noEquals).mpr ⟨nonempty, same, rfl⟩

/-- Nested too deep, a value comes back as the text that was printed. -/
theorem bindingValue_jsonText (v : Value) (floatFree : v.FloatFree)
    (ascending : v.KeysAscending) :
    bindingValue v.jsonText.toList = if v.depth ≤ 127 then v else .string v.jsonText := by
  have read : Json.read? v.toJson.print = if v.depth ≤ 127 then some v.toJson else none := by
    rw [Json.read?_print v.toJson (v.isIntegral_toJson floatFree), v.depth_toJson, Json.maxDepth]
  rw [bindingValue, Value.jsonText, String.toList_ofList, read]
  by_cases room : v.depth ≤ 127
  · simp only [if_pos room, v.ofJson_toJson ascending]
  · simp only [if_neg room]

/-- A value without floats that is printed as JSON and bound to a name is that value again, while
its arrays and hashes are nested at most 127 deep; nested deeper, it is bound as the string that was
printed. A hash holds its keys in ascending order, as every hash that was read does. -/
theorem readBinding_jsonText (plain : IsBindingName name) (v : Value) (floatFree : v.FloatFree)
    (ascending : v.KeysAscending) :
    readBinding (name ++ "=" ++ v.jsonText) =
      .ok (name, if v.depth ≤ 127 then v else .string v.jsonText) := by
  rw [readBinding_append plain, bindingValue_jsonText v floatFree ascending]

/-- A name with a blank and a dollar sign inside, and a hash with an escaped key, the least integer
and a string with an equals sign and a quotation mark. -/
theorem readBinding_jsonText_hash :
    let v : Value := .hash [("\n", .integer (-9223372036854775808)),
      ("é", .array [.undef, .string "=\"7"])]
    IsBindingName "a $b" ∧ v.FloatFree ∧ v.KeysAscending ∧
      readBinding ("a $b" ++ "=" ++ v.jsonText) = .ok ("a $b", v) := by
  intro v
  have plain : IsBindingName "a $b" := by
    refine ⟨by decide, by decide, ⟨?_, ?_⟩, by decide⟩
    · simp [Text.isBlank]
    · simp [Text.isBlank]
  have floatFree : v.FloatFree := by
    simp [v, Value.FloatFree, Value.parts, Value.partsOfEntries, Value.partsOfItems]
  have ascending : v.KeysAscending := by
    intro entries part
    have same : entries = [("\n", .integer (-9223372036854775808)),
        ("é", .array [.undef, .string "=\"7"])] := by
      simpa [v, Value.parts, Value.partsOfEntries, Value.partsOfItems] using part
    subst same
    exact (KeyedList.ascending_cons _ _ _).mpr ⟨by decide, List.pairwise_singleton _ _⟩
  have bound := readBinding_jsonText plain v floatFree ascending
  rw [if_pos (by decide)] at bound
  exact ⟨plain, floatFree, ascending, bound⟩

end Provision.Command
