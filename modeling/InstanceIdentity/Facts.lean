import InstanceIdentity.Json.Shape

/-!
# Host facts

What is known about a host is a flat mapping of dotted keys to loosely typed values.  No schema is
enforced: a missing key means that a fact is unknown, and tests on text or truth see only facts of
their own kind.
-/

namespace InstanceIdentity

/-- The value of one fact. -/
inductive Fact where
  | flag (value : Bool)
  | text (value : String)
  /-- Any other JSON value, which no test on text or truth sees. -/
  | other (value : Json)

namespace Fact

/-- The text of a textual fact. -/
def text? : Fact → Option String
  | .text value => some value
  | _ => none

/-- The truth of a boolean fact. -/
def flag? : Fact → Option Bool
  | .flag value => some value
  | _ => none

/-- The fact that a JSON value stands for. -/
def ofJson : Json → Fact
  | .boolean value => .flag value
  | .text value => .text value
  | value => .other value

/-- The JSON value of a fact. -/
def toJson : Fact → Json
  | .flag value => .boolean value
  | .text value => .text value
  | .other value => value

/-- Every JSON value survives the way through a fact. -/
@[simp]
theorem toJson_ofJson (value : Json) : toJson (ofJson value) = value := by
  cases value <;> rfl

end Fact

/-- The fact that probing sets when the host is a guest. -/
def guestKey : String := "virt.is_guest"

/-- The fact that names the hypervisor. -/
def hypervisorKey : String := "virt.host_type"

/-- A snapshot of the facts about a host. -/
structure FactSet where
  facts : Dictionary Fact

namespace FactSet

/-- Nothing is known. -/
def empty : FactSet := ⟨.empty⟩

/-- Adds a fact or replaces the one with the same key. -/
def insert (set : FactSet) (key : String) (fact : Fact) : FactSet :=
  ⟨set.facts.insert key fact⟩

/-- Adds facts one after the other. -/
def insertAll (set : FactSet) (facts : List (String × Fact)) : FactSet :=
  ⟨set.facts.insertAll facts⟩

/-- The snapshot of a list of facts; the last one of a key stays. -/
def ofList (facts : List (String × Fact)) : FactSet := empty.insertAll facts

/-- The value under a key. -/
def get? (set : FactSet) (key : String) : Option Fact := set.facts.get? key

/-- The text under a key. -/
def text? (set : FactSet) (key : String) : Option String := (set.get? key).bind Fact.text?

/-- The truth under a key. -/
def flag? (set : FactSet) (key : String) : Option Bool := (set.get? key).bind Fact.flag?

/-- Probing found the host to be a guest. -/
def isGuest (set : FactSet) : Bool := (set.flag? guestKey).getD false

/-- The facts in the order of their keys. -/
def toList (set : FactSet) : List (String × Fact) := set.facts.entries

/-- The texts among the values, in the order of their keys. -/
def texts (set : FactSet) : List String := set.facts.values.filterMap Fact.text?

/-- The number of facts. -/
def size (set : FactSet) : Nat := set.facts.size

/-- A snapshot is a JSON object of its facts. -/
def shape : Json.Shape FactSet :=
  (Json.Shape.dictionary (.via .any Fact.ofJson Fact.toJson)).via mk facts

end FactSet

end InstanceIdentity
