import InstanceIdentity.Json.Fault
import InstanceIdentity.Json.Shape

/-!
# Reading shapes from trees

A value in memory is read into a type by the type's shape.  The members of an object are taken in
their order, so of several faulty ones the first is reported.  A tree has no places: only the cause
of a failure is known.
-/

namespace InstanceIdentity.Json

/-- The description of a value that was not expected. -/
def found : Json → Found
  | .null => .null
  | .boolean value => .boolean value
  | .integer value => .integer value
  | .float value => .float value
  | .text value => .text value
  | .array _ => .sequence
  | .object _ => .map

/-- A number of elements, in words. -/
def elements (count : Nat) : String :=
  if count = 1 then "1 element" else toString count ++ " elements"

/-- A record given as a list is described by its title and the number of its fields. -/
def listedFields (title : String) (count : Nat) : String := title ++ " with " ++ elements count

/-- Whether a tree is a document of its own or was set aside in the middle of one. -/
inductive Origin where
  | document
  | aside
  deriving DecidableEq

/-- A list that goes on after the fields of a record. -/
def Origin.surplus (origin : Origin) (length taken : Nat) : Cause :=
  match origin with
  | .document => .invalidLength length "fewer elements in array"
  | .aside => .invalidLength length (elements taken ++ " in sequence")

/-- What is known of the fields, completed by what stands for the absent ones. -/
def Fields.finish {σ α : Type} : Fields σ α → σ → Except Cause α
  | .done, _ => .ok ()
  | .field name absence _ rest, (slot, others) => do
    match slot <|> absence.inObject? with
    | some value => return (value, ← rest.finish others)
    | none => throw (.missingField name)

/-- The value that a name stands for. -/
def named {α : Type} (names : List (String × α)) (name : String) : Except Cause α :=
  match names.lookup name with
  | some value => .ok value
  | none => .error (.unknownVariant name (names.map Prod.fst))

/-- A name among those of alternatives. -/
def Alternatives.named {α : Type} (alternatives : Alternatives α) (name : String) :
    Except Cause String :=
  Json.named (alternatives.names.map fun known => (known, known)) name

/-- The name of an alternative, given as a value. -/
def Alternatives.tag {α : Type} (alternatives : Alternatives α) : Json → Except Cause String
  | .text name => alternatives.named name
  | other => throw (.mismatch other.found "variant identifier")

/-- The alternative that one member of an object names, and the other members. -/
def Alternatives.split {α : Type} (alternatives : Alternatives α) (title key : String) :
    Json → Except Cause (String × Json)
  | .object members => do
    match members.lookup key with
    | none => throw (.missingField key)
    | some tag => return (← alternatives.tag tag, .object (members.filter fun m => m.1 != key))
  | .array [] => throw (.missingField key)
  | .array (tag :: rest) => return (← alternatives.tag tag, .array rest)
  | other => throw (.mismatch other.found title)

mutual

/-- The value of a type that a tree stands for. -/
def Shape.readTree {α : Type} : Shape α → Origin → Json → Except Cause α
  | .any, _, json => .ok json.normal
  | .boolean, _, .boolean value => .ok value
  | .boolean, _, other => throw (.mismatch other.found "a boolean")
  | .float, _, .float value => .ok value
  | .float, _, .integer value => .ok (Binary64.ofInt value)
  | .float, _, other => throw (.mismatch other.found "f64")
  | .natural bound name, _, .integer value =>
    if h : 0 ≤ value ∧ value.toNat < bound then .ok ⟨value.toNat, h.2⟩
    else throw (.invalidValue (.integer value) name)
  | .natural _ name, _, other => throw (.mismatch other.found name)
  | .text _ read _, _, .text value => (read value).mapError .refused
  | .text expected _ _, _, other => throw (.mismatch other.found expected)
  | .optional _, _, .null => .ok none
  | .optional inner, origin, json => some <$> inner.readTree origin json
  | .list inner, origin, .array items => items.mapM fun item => inner.readTree origin item
  | .list _, _, other => throw (.mismatch other.found "a sequence")
  | .dictionary inner, origin, .object members =>
    Dictionary.ofList <$> members.mapM fun member => do
      return (member.1, ← inner.readTree origin member.2)
  | .dictionary _, _, other => throw (.mismatch other.found "a map")
  | .choice names _, _, .text name => named names name
  | .choice names _, _, .object [(name, content)] => do
    let value ← named names name
    match content with
    | .null => return value
    | other => throw (.mismatch other.found "unit")
  | .choice _ _, _, .object _ => throw (.invalidValue .map "map with a single key")
  | .choice _ _, _, other => throw (.mismatch other.found "string or map")
  | .record _ fields, origin, .object members => do
    fields.finish (← members.foldlM (fun slots member =>
      (fields.offerTree origin member.1 member.2 slots).getD (.ok slots)) fields.blank)
  | .record title fields, origin, .array items => fields.readItems origin title items.length 0 items
  | .record title _, _, other => throw (.mismatch other.found title)
  | .keyed _ alternatives, _, .text name => do
    discard (alternatives.named name)
    throw (.mismatch .unitVariant "struct variant")
  | .keyed _ alternatives, origin, .object [(name, content)] => do
    let name ← alternatives.named name
    match content with
    | .object members => alternatives.readTree name origin (.object members)
    | other => throw (.mismatch other.found "struct variant")
  | .keyed _ _, _, .object _ => throw (.invalidValue .map "map with a single key")
  | .keyed _ _, _, other => throw (.mismatch other.found "string or map")
  | .tagged title key alternatives, _, json => do
    let (name, content) ← alternatives.split title key json
    alternatives.readTree name .aside content
  | .chosen refusal read _, _, json => (read json).elim (throw (.refused refusal)) .ok
  | .refined inner read _, origin, json => do
    (read (← inner.readTree origin json)).mapError .refused

/-- A field takes a member of its name; other members belong to no field. -/
def Fields.offerTree {σ α : Type} :
    Fields σ α → Origin → String → Json → σ → Option (Except Cause σ)
  | .done, _, _, _, _ => none
  | .field name _ inner rest, origin, key, json, (slot, others) =>
    if key = name then
      some do
        if slot.isSome then throw (.duplicateField name)
        return (some (← inner.readTree origin json), others)
    else (rest.offerTree origin key json others).map fun result => do return (slot, ← result)

/-- Fields listed in their order. -/
def Fields.readItems {σ α : Type} :
    Fields σ α → Origin → String → Nat → Nat → List Json → Except Cause α
  | .done, _, _, _, _, [] => .ok ()
  | .done, origin, _, length, taken, _ :: _ => throw (origin.surplus length taken)
  | .field _ absence inner rest, origin, title, length, taken, items =>
    match items with
    | [] =>
      match absence.inList? with
      | some value => do
        return (value, ← rest.readItems origin title length (taken + 1) [])
      | none => throw (.invalidLength taken (listedFields title (taken + 1 + rest.count)))
    | item :: items => do
      let value ← inner.readTree origin item
      return (value, ← rest.readItems origin title length (taken + 1) items)

/-- The record of a named alternative. -/
def Alternatives.readTree {α : Type} :
    Alternatives α → String → Origin → Json → Except Cause α
  | .nil, name, _, _ => throw (.unknownVariant name [])
  | .alternative known title fields rest, name, origin, json => do
    if name = known then
      match json with
      | .object members =>
        return .inl (← fields.finish (← members.foldlM (fun slots member =>
          (fields.offerTree origin member.1 member.2 slots).getD (.ok slots)) fields.blank))
      | .array items => return .inl (← fields.readItems origin title items.length 0 items)
      | other => throw (.mismatch other.found title)
    else return .inr (← rest.readTree name origin json)

end

/-- Reads a tree in normal form into the type of a shape. -/
def Shape.ofTree {α : Type} (shape : Shape α) (json : Json) : Except Cause α :=
  shape.readTree .document json

end InstanceIdentity.Json
