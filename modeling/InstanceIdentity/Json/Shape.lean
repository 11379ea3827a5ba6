import InstanceIdentity.Json.Basic

/-!
# Shapes of JSON documents

A shape says how the values of a type are laid out in JSON: which texts and numbers stand for them,
the fields of a record and what an absent one means, the alternatives of a choice and where their
names are written.  One shape serves for writing a value, for reading it from a document and for
reading it from a tree.
-/

namespace InstanceIdentity.Json

/-- What takes the place of a field that a document leaves out. -/
inductive Absence (α : Type) where
  /-- The field must be given. -/
  | refused
  /-- An object may leave it out, a list of fields may not. -/
  | inObject (value : α)
  /-- It may be left out everywhere. -/
  | anywhere (value : α)

/-- The value of a field that an object leaves out. -/
def Absence.inObject? {α : Type} : Absence α → Option α
  | .refused => none
  | .inObject value => some value
  | .anywhere value => some value

/-- The value of a field that a list of fields does not reach. -/
def Absence.inList? {α : Type} : Absence α → Option α
  | .anywhere value => some value
  | _ => none

mutual

/-- A layout of the values of a type. -/
inductive Shape : Type → Type 1 where
  /-- Any value, in normal form. -/
  | any : Shape Json
  | boolean : Shape Bool
  | float : Shape Binary64
  /-- A natural number below a bound, whose type has a name. -/
  | natural (bound : Nat) (name : String) : Shape (Fin bound)
  /-- A text that stands for a value; one that does not is refused with a message. -/
  | text {α : Type} (expected : String) (read : String → Except String α) (write : α → String) :
      Shape α
  | optional {α : Type} (inner : Shape α) : Shape (Option α)
  | list {α : Type} (inner : Shape α) : Shape (List α)
  | dictionary {α : Type} (inner : Shape α) : Shape (Dictionary α)
  /-- One of finitely many names. -/
  | choice {α : Type} (names : List (String × α)) (write : α → String) : Shape α
  /-- Named fields, which may also be listed in their order. -/
  | record {σ α : Type} (title : String) (fields : Fields σ α) : Shape α
  /-- An object with a single member, whose key names the alternative. -/
  | keyed {α : Type} (title : String) (alternatives : Alternatives α) : Shape α
  /-- An object in which a member of its own names the alternative, beside the fields of it. -/
  | tagged {α : Type} (title key : String) (alternatives : Alternatives α) : Shape α
  /-- Any value from which another can be chosen; one that offers none is refused. -/
  | chosen {α : Type} (refusal : String) (read : Json → Option α) (write : α → Json) : Shape α
  /-- Another type's layout, with a check that may refuse its values. -/
  | refined {α β : Type} (inner : Shape β) (read : β → Except String α) (write : α → β) : Shape α

/-- The fields of a record, with the type of what is known of them while an object is read. -/
inductive Fields : Type → Type → Type 1 where
  | done : Fields Unit Unit
  | field {α σ β : Type} (name : String) (absence : Absence α) (inner : Shape α)
      (rest : Fields σ β) : Fields (Option α × σ) (α × β)

/-- The alternatives of a choice between records. -/
inductive Alternatives : Type → Type 1 where
  | nil : Alternatives Empty
  /-- An alternative with fields; without any when there are none. -/
  | alternative {σ α β : Type} (name title : String) (fields : Fields σ α)
      (rest : Alternatives β) : Alternatives (α ⊕ β)

end

namespace Shape

/-- A layout carried over to another type by a pair of maps. -/
def via {α β : Type} (inner : Shape β) (read : β → α) (write : α → β) : Shape α :=
  .refined inner (fun value => .ok (read value)) write

/-- A text that stands for itself. -/
def plainText : Shape String := .text "a string" .ok id

end Shape

namespace Fields

variable {σ α : Type}

/-- The number of fields. -/
def count {σ α : Type} : Fields σ α → Nat
  | .done => 0
  | .field _ _ _ rest => rest.count + 1

/-- Nothing is known of any field. -/
def blank {σ α : Type} : Fields σ α → σ
  | .done => ()
  | .field _ _ _ rest => (none, rest.blank)

end Fields

/-- The names of the alternatives. -/
def Alternatives.names {α : Type} : Alternatives α → List String
  | .nil => []
  | .alternative name _ _ rest => name :: rest.names

/-! ## Writing -/

mutual

/-- The JSON value that a shape gives to a value of its type. -/
def Shape.write {α : Type} : Shape α → α → Json
  | .any, value => value
  | .boolean, value => .boolean value
  | .float, value => .float value
  | .natural _ _, value => .integer value.val
  | .text _ _ write, value => .text (write value)
  | .optional _, none => .null
  | .optional inner, some value => inner.write value
  | .list inner, values => .array (values.map fun value => inner.write value)
  | .dictionary inner, values =>
    .object (values.entries.map fun entry => (entry.1, inner.write entry.2))
  | .choice _ write, value => .text (write value)
  | .record _ fields, value => .object (fields.write value)
  | .keyed _ alternatives, value =>
    let (name, members) := alternatives.write value
    .object [(name, .object members)]
  | .tagged _ key alternatives, value =>
    let (name, members) := alternatives.write value
    .object ((key, .text name) :: members)
  | .chosen _ _ write, value => write value
  | .refined inner _ write, value => inner.write (write value)

/-- The members of a record. -/
def Fields.write {σ α : Type} : Fields σ α → α → List (String × Json)
  | .done, _ => []
  | .field name _ inner rest, (value, others) => (name, inner.write value) :: rest.write others

/-- The name of the alternative that a value belongs to, and its members. -/
def Alternatives.write {α : Type} : Alternatives α → α → String × List (String × Json)
  | .nil, value => nomatch value
  | .alternative name _ fields _, .inl value => (name, fields.write value)
  | .alternative _ _ _ rest, .inr value => rest.write value

end

end InstanceIdentity.Json
