import InstanceIdentity.Json.Parser
import InstanceIdentity.Proofs.Dictionary

/-!
# Normal forms

In memory an object has each key once and its members in the order of their keys; the normal form of a
value is what it is in memory.

Main results:

- Theorem `Json.normal_normal`: a value in normal form is its own normal form.
- Theorem `Json.normal_of_ofText`: what is read of a document is in normal form.
-/

namespace InstanceIdentity.Json

theorem normalMembers_eq (members : List (String × Json)) :
    normalMembers members = members.map fun member => (member.1, member.2.normal) := by
  induction members with
  | nil => rfl
  | cons member rest ih => rw [normalMembers, ih]; rfl

/-- The entries of a dictionary are members in normal form when their values are. -/
theorem normal_entries {values : Dictionary Json}
    (heach : ∀ entry ∈ values.entries, entry.2.normal = entry.2) :
    (Json.object values.entries).normal = .object values.entries := by
  have hsame : normalMembers values.entries = values.entries := by
    rw [normalMembers_eq]
    have hunchanged : ∀ entry ∈ values.entries, (entry.1, entry.2.normal) = id entry :=
      fun entry hmem => Prod.ext rfl (heach entry hmem)
    rw [List.map_congr_left hunchanged, List.map_id]
  rw [normal, hsame, Dictionary.ofList_entries]

mutual

/-- A value in normal form is its own normal form. -/
theorem normal_normal : (json : Json) → json.normal.normal = json.normal
  | .null => rfl
  | .boolean _ => rfl
  | .integer _ => rfl
  | .float _ => rfl
  | .text _ => rfl
  | .array items => by
    rw [normal, normal, normal_normalItems]
  | .object members => by
    rw [normal]
    refine normal_entries fun entry hmem => normal_normalMembers members entry ?_
    exact Dictionary.mem_of_mem_ofList hmem

theorem normal_normalItems : (items : List Json) → normalItems (normalItems items) = normalItems items
  | [] => rfl
  | item :: rest => by
    rw [normalItems, normalItems, normal_normal item, normal_normalItems rest]

theorem normal_normalMembers : (members : List (String × Json)) →
    ∀ member ∈ normalMembers members, member.2.normal = member.2
  | [] => by
    rw [normalMembers]
    simp
  | (key, value) :: rest => by
    rw [normalMembers]
    simp only [List.mem_cons, forall_eq_or_imp]
    exact ⟨normal_normal value, normal_normalMembers rest⟩

end

/-- What is read of a document is in normal form. -/
theorem normal_of_ofText {text : String} {json : Json} (hread : ofText text = .ok json) :
    json.normal = json := by
  unfold ofText at hread
  rcases hfound : (Reader.document (Reader.value Reader.nesting)).run text with fault | written
  · rw [hfound] at hread
    cases hread
  · rw [hfound] at hread
    obtain rfl : written.normal = json := Except.ok.inj hread
    exact normal_normal written

/-- The members of an object in normal form are in normal form, and in the order of their keys. -/
theorem ofList_of_normal {members : List (String × Json)}
    (hnormal : (Json.object members).normal = .object members) :
    (Dictionary.ofList (normalMembers members)).entries = members := by
  rw [Json.normal] at hnormal
  exact Json.object.inj hnormal

end InstanceIdentity.Json
