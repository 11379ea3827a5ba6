import InstanceIdentity.Facts
import InstanceIdentity.Proofs.Dictionary

/-!
# What is known of a host

Every question that detection puts to a snapshot is answered by the facts under single keys.

Main results:

- Theorems `FactSet.text?_eq_some_iff`, `FactSet.isGuest_iff`, `FactSet.mem_texts_iff`: facts are told
  apart by their kinds.
-/

namespace InstanceIdentity.FactSet

variable {facts : FactSet} {key value : String}

theorem text?_eq_some_iff : facts.text? key = some value ↔ facts.get? key = some (.text value) := by
  unfold text?
  rcases facts.get? key with _ | _ | _ | _ <;> simp [Fact.text?]

/-- A host is a guest when the fact that says so is true. -/
theorem isGuest_iff : facts.isGuest = true ↔ facts.get? guestKey = some (.flag true) := by
  unfold isGuest flag?
  rcases facts.get? guestKey with _ | _ | _ | _ <;> simp [Fact.flag?]

theorem mem_texts_iff : value ∈ facts.texts ↔ ∃ key, facts.get? key = some (.text value) := by
  have htextual (fact : Fact) : fact.text? = some value ↔ fact = .text value := by
    cases fact <;> simp [Fact.text?]
  simp only [texts, List.mem_filterMap, htextual, exists_eq_right, Dictionary.mem_values_iff]
  rfl

end InstanceIdentity.FactSet
