import InstanceIdentity.Json.Shape.Tree

/-!
# What is known of a record

While the members of an object are read, a record knows those of its fields whose names have come by.
What it knows does not depend on the order of the members, and it is enough for a whole record when the
absent fields have the values that take their places.

Main results:

- Definition `Json.Fields.known`: what is known of a record; Definition `Json.Fields.Completes`: what is
  missing may be missing.
- Theorem `Json.Fields.finish_known`: a record is completed.
- Definitions `Json.Fields.Each`, `Json.Alternatives.Each`: a relation that holds of each field.
-/

namespace InstanceIdentity.Json

/-- A relation between two values of the type of a shape. -/
abbrev Shape.Relation := (α : Type) → Shape α → α → α → Prop

namespace Fields

/-- Induction along the fields of a record. -/
@[elab_as_elim, induction_eliminator]
theorem induction {motive : (σ α : Type) → Fields σ α → Prop} (done : motive Unit Unit .done)
    (field : ∀ {α σ β : Type} (name : String) (absence : Absence α) (inner : Shape α)
      (rest : Fields σ β),
      motive σ β rest → motive (Option α × σ) (α × β) (.field name absence inner rest))
    {σ α : Type} : (fields : Fields σ α) → motive σ α fields
  | .done => done
  | .field name absence inner rest => field name absence inner rest (induction done field rest)

variable {σ α : Type}

/-- The names of the fields. -/
def names {σ α : Type} : Fields σ α → List String
  | .done => []
  | .field name _ _ rest => name :: rest.names

/-- What is known of a record when the members with the given keys have been read. -/
def known {σ α : Type} : Fields σ α → α → List String → σ
  | .done, _, _ => ()
  | .field name _ _ rest, (value, others), present =>
    (if name ∈ present then some value else none, rest.known others present)

/-- Each field whose key is not there has the value that takes its place. -/
def Completes {σ α : Type} : Fields σ α → α → List String → Prop
  | .done, _, _ => True
  | .field name absence _ rest, (value, others), present =>
    (name ∈ present ∨ absence.inObject? = some value) ∧ rest.Completes others present

/-- A relation holds of the values of each field. -/
def Each {σ α : Type} (relation : Shape.Relation) : Fields σ α → α → α → Prop
  | .done, _, _ => True
  | .field (α := β) _ _ inner rest, (value, others), (result, results) =>
    relation β inner value result ∧ rest.Each relation others results

/-- Nothing is known before the first member. -/
theorem known_nil (fields : Fields σ α) (value : α) : fields.known value [] = fields.blank := by
  induction fields with
  | done => rfl
  | field name absence inner rest ih =>
    obtain ⟨value, others⟩ := value
    rw [known, blank, ih, if_neg List.not_mem_nil]

/-- Only the keys that name fields matter. -/
theorem known_congr (fields : Fields σ α) (value : α) {present present' : List String}
    (hsame : ∀ name ∈ fields.names, name ∈ present ↔ name ∈ present') :
    fields.known value present = fields.known value present' := by
  induction fields with
  | done => rfl
  | field name absence inner rest ih =>
    obtain ⟨value, others⟩ := value
    have hown := hsame name List.mem_cons_self
    rw [known, known, ih others fun other hmem => hsame other (List.mem_cons_of_mem name hmem)]
    simp only [hown]

/-- A key that names no field adds nothing. -/
theorem known_cons_of_not_mem {fields : Fields σ α} {key : String} (hforeign : key ∉ fields.names)
    (value : α) (present : List String) :
    fields.known value (key :: present) = fields.known value present := by
  refine known_congr fields value fun name hmem => ?_
  rw [List.mem_cons, or_iff_right]
  rintro rfl
  exact hforeign hmem

/-- A record is completed when what is missing may be missing. -/
theorem finish_known {fields : Fields σ α} {value : α} {present : List String}
    (hcomplete : fields.Completes value present) :
    fields.finish (fields.known value present) = .ok value := by
  induction fields with
  | done => rfl
  | field name absence inner rest ih =>
    obtain ⟨value, others⟩ := value
    obtain ⟨hown, hfurther⟩ := hcomplete
    have hslot : ((if name ∈ present then some value else none) <|> absence.inObject?) = some value := by
      split
      · rfl
      · rename_i habsent
        exact hown.resolve_left habsent
    rw [known, finish, ih hfurther, hslot]
    rfl

/-- Nothing is missing when all keys are there. -/
theorem completes_of_subset {fields : Fields σ α} {present : List String} (hall : fields.names ⊆ present)
    (value : α) : fields.Completes value present := by
  induction fields with
  | done => trivial
  | field name absence inner rest ih =>
    obtain ⟨value, others⟩ := value
    exact ⟨.inl (hall List.mem_cons_self), ih (fun _ hmem =>
      hall (List.mem_cons_of_mem name hmem)) others⟩

/-- The members of a record have the names of its fields. -/
theorem keys_write (fields : Fields σ α) (value : α) :
    (fields.write value).map Prod.fst = fields.names := by
  induction fields with
  | done => rw [write]; rfl
  | field name absence inner rest ih =>
    obtain ⟨value, others⟩ := value
    rw [write, List.map_cons, ih others, names]

/-- So a member has the name of a field. -/
theorem key_mem_names {fields : Fields σ α} {value : α} {member : String × Json}
    (hwritten : member ∈ fields.write value) : member.1 ∈ fields.names := by
  rw [← keys_write fields value]
  exact List.mem_map_of_mem hwritten

end Fields

namespace Alternatives

/-- A relation holds of the values of each field of the alternative that both values belong to, and the
fields have different names. -/
def Each {α : Type} (relation : Shape.Relation) : Alternatives α → α → α → Prop
  | .nil, _, _ => True
  | .alternative _ _ fields _, .inl value, .inl result =>
    fields.names.Nodup ∧ fields.Each relation value result
  | .alternative _ _ _ rest, .inr value, .inr result => rest.Each relation value result
  | .alternative .., _, _ => False

/-- The text that names one of the alternatives. -/
theorem named_of_mem {α : Type} {alternatives : Alternatives α} {name : String}
    (hknown : name ∈ alternatives.names) : alternatives.named name = .ok name := by
  have hlookup (names : List String) (hmem : name ∈ names) :
      (names.map fun known => (known, known)).lookup name = some name := by
    induction names with
    | nil => cases hmem
    | cons other names ih =>
      rw [List.map_cons, List.lookup_cons]
      split
      · rename_i hsame
        rw [beq_iff_eq.1 hsame]
      · rename_i hapart
        exact ih ((List.mem_cons.1 hmem).resolve_left (by simpa using hapart))
  unfold named Json.named
  rw [hlookup _ hknown]

/-- A value is written under the name of one of the alternatives. -/
theorem name_write_mem {α : Type} : (alternatives : Alternatives α) → (value : α) →
    (alternatives.write value).1 ∈ alternatives.names
  | .nil, value => nomatch value
  | .alternative _ _ _ _, .inl _ => by
    rw [write, names]
    exact List.mem_cons_self
  | .alternative _ _ _ rest, .inr value => by
    rw [write, names]
    exact List.mem_cons_of_mem _ (name_write_mem rest value)

end Alternatives

end InstanceIdentity.Json
