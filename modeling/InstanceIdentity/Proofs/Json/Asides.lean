import InstanceIdentity.Proofs.Json.Fields
import InstanceIdentity.Proofs.Json.Values
import Mathlib.Data.List.Nodup

/-!
# Members that are set aside

When one member of an object names an alternative, the others are set aside as values until the
alternative is known, and are read from there.

Main results:

- Structure `Json.Shape.Aside`: the judgement that a value which is set aside is read as another.
- Theorem `Json.Fields.foldlM_offerTree`: the fields of a record are taken one after the other.
- Theorem `Json.Alternatives.readTree_write`: an alternative is read from its members.
-/

namespace InstanceIdentity.Json

namespace Shape

variable {α β : Type} {depth : Nat} {value result : α}

attribute [local simp] Shape.write Shape.readTree

/-- Written with a certain number of containers in each other and set aside, a value is read as
another. -/
structure Aside (shape : Shape α) (depth : Nat) (value result : α) : Prop where
  fits : Fits depth (shape.write value)
  read : shape.readTree .aside (shape.write value).reread = .ok result

theorem aside_text {expected : String} {read : String → Except String α} {write : α → String}
    (haccepted : read (write value) = .ok result) (depth : Nat) :
    (Shape.text expected read write).Aside depth value result where
  fits := by simpa using .text depth _
  read := by simp [reread, haccepted, Except.mapError]

theorem aside_plainText (s : String) (depth : Nat) : plainText.Aside depth s s :=
  aside_text rfl depth

theorem aside_natural {bound : Nat} (hsmall : bound ≤ 2 ^ 64) (name : String) (value : Fin bound)
    (depth : Nat) : (Shape.natural bound name).Aside depth value value where
  fits := by
    have hbelow := Nat.lt_of_lt_of_le value.isLt hsmall
    simpa using .integer depth (by omega) (by omega)
  read := by simp [reread]

theorem aside_refined {inner : Shape β} {read : β → Except String α} {write : α → β} {raw : β}
    (haside : inner.Aside depth (write value) raw) (haccepted : read raw = .ok result) :
    (Shape.refined inner read write).Aside depth value result where
  fits := by simpa using haside.fits
  read := by
    rw [Shape.write, readTree, haside.read]
    change (read raw).mapError _ = _
    rw [haccepted]
    rfl

theorem aside_via {inner : Shape β} {read : β → α} {write : α → β} (raw : β)
    (haside : inner.Aside depth (write value) raw) (hsame : read raw = result) :
    (inner.via read write).Aside depth value result :=
  aside_refined haside (congrArg Except.ok hsame)

theorem aside_none (inner : Shape α) (depth : Nat) : (Shape.optional inner).Aside depth none none where
  fits := by simpa using .null depth
  read := by simp [reread]

/-- A value is told from none. -/
theorem aside_some {inner : Shape α} (haside : inner.Aside depth value result)
    (hpresent : (inner.write value).reread ≠ .null) :
    (Shape.optional inner).Aside depth (some value) (some result) where
  fits := by simpa using haside.fits
  read := by
    rw [Shape.write, readTree, haside.read]
    · rfl
    · exact fun _ _ _ _ habsent => hpresent habsent

end Shape

/-! ## Records -/

namespace Fields

variable {σ α : Type} {fields : Fields σ α} {depth : Nat} {value result : α} {present : List String}

/-- A member that is written for a field is taken by it when it comes for the first time. -/
theorem offerTree_member {member : String × Json} (hdistinct : fields.names.Nodup)
    (heach : fields.Each (fun _ shape => shape.Aside depth) value result)
    (hwritten : member ∈ fields.write value) (hnew : member.1 ∉ present) :
    fields.offerTree .aside member.1 member.2.reread (fields.known result present) =
      some (.ok (fields.known result (member.1 :: present))) := by
  induction fields with
  | done => cases hwritten
  | field name absence inner others ih =>
    obtain ⟨value, values⟩ := value
    obtain ⟨result, results⟩ := result
    obtain ⟨hown, hfurther⟩ := heach
    obtain ⟨hforeign, hdistinct⟩ := List.nodup_cons.1 hdistinct
    rw [write] at hwritten
    rw [known, known, offerTree]
    rcases List.mem_cons.1 hwritten with rfl | hwritten
    · rw [if_pos rfl, if_neg hnew, if_pos List.mem_cons_self, known_cons_of_not_mem hforeign, hown.read]
      rfl
    · have hapart : member.1 ≠ name := fun hsame => hforeign (hsame ▸ key_mem_names hwritten)
      have hsame : name ∈ member.1 :: present ↔ name ∈ present := by
        rw [List.mem_cons, or_iff_right (Ne.symm hapart)]
      rw [if_neg hapart, ih hdistinct hfurther hwritten]
      simp only [hsame]
      rfl

/-- The fields of a record are taken one after the other. -/
theorem foldlM_offerTree (hdistinct : fields.names.Nodup)
    (heach : fields.Each (fun _ shape => shape.Aside depth) value result)
    {members : List (String × Json)}
    (hwritten : ∀ member ∈ members, member ∈ fields.write value)
    (honce : (members.map Prod.fst ++ present).Nodup) :
    (rereadMembers members).foldlM (fun slots member =>
        (fields.offerTree .aside member.1 member.2 slots).getD (.ok slots))
          (fields.known result present) =
      .ok (fields.known result ((members.map Prod.fst).reverse ++ present)) := by
  induction members generalizing present with
  | nil => rw [rereadMembers]; rfl
  | cons member members ih =>
    obtain ⟨key, json⟩ := member
    rw [List.map_cons, List.cons_append] at honce
    obtain ⟨hfresh, hothers⟩ := List.nodup_cons.1 honce
    have hnew : key ∉ present := fun hearlier => hfresh (List.mem_append_right _ hearlier)
    have hmoved : (members.map Prod.fst ++ key :: present).Nodup :=
      List.perm_middle.nodup_iff.2 (List.nodup_cons.2 ⟨hfresh, hothers⟩)
    have htaken := offerTree_member hdistinct heach (hwritten (key, json) List.mem_cons_self) hnew
    have hmore := ih (fun member hmem => hwritten member (List.mem_cons_of_mem _ hmem)) hmoved
    rw [rereadMembers, List.foldlM_cons, htaken, List.map_cons, List.reverse_cons, List.append_assoc,
      List.singleton_append]
    exact hmore

/-- What is written for a record and set aside is read as the record. -/
theorem readMembers_write (hdistinct : fields.names.Nodup)
    (heach : fields.Each (fun _ shape => shape.Aside depth) value result) :
    ((rereadMembers (fields.write value)).foldlM (fun slots member =>
        (fields.offerTree .aside member.1 member.2 slots).getD (.ok slots)) fields.blank >>=
      fields.finish) = .ok result := by
  have honce : ((fields.write value).map Prod.fst ++ []).Nodup := by rwa [List.append_nil, keys_write]
  have htaken := foldlM_offerTree hdistinct heach (fun _ hmem => hmem) honce
  rw [known_nil, List.append_nil, keys_write] at htaken
  rw [htaken]
  exact finish_known (completes_of_subset (fun _ hmem => List.mem_reverse.2 hmem) result)

/-- The members of a record fit where its fields do. -/
theorem fits_of_mem_write {member : String × Json}
    (heach : fields.Each (fun _ shape => shape.Aside depth) value result)
    (hwritten : member ∈ fields.write value) : Fits depth member.2 := by
  induction fields with
  | done => cases hwritten
  | field name absence inner others ih =>
    obtain ⟨value, values⟩ := value
    obtain ⟨result, results⟩ := result
    rw [write] at hwritten
    rcases List.mem_cons.1 hwritten with rfl | hwritten
    · exact heach.1.fits
    · exact ih heach.2 hwritten

end Fields

namespace Alternatives

/-- The names of all fields. -/
def keys {α : Type} : Alternatives α → List String
  | .nil => []
  | .alternative _ _ fields rest => fields.names ++ rest.keys

/-- A member of an alternative is one of its fields. -/
theorem key_write_mem {α : Type} {member : String × Json} : (alternatives : Alternatives α) →
    (value : α) → member ∈ (alternatives.write value).2 → member.1 ∈ alternatives.keys
  | .nil, value, _ => nomatch value
  | .alternative _ _ fields _, .inl value, hmem => by
    rw [write] at hmem
    rw [keys, ← Fields.keys_write fields value]
    exact List.mem_append_left _ (List.mem_map_of_mem hmem)
  | .alternative _ _ _ rest, .inr value, hmem => by
    rw [write] at hmem
    exact List.mem_append_right _ (key_write_mem rest value hmem)

/-- The members of an alternative fit where its fields do. -/
theorem fits_of_mem_write {α : Type} {depth : Nat} {member : String × Json} :
    {alternatives : Alternatives α} → {value result : α} →
    alternatives.Each (fun _ shape => shape.Aside depth) value result →
    member ∈ (alternatives.write value).2 → Fits depth member.2
  | .nil, value, _, _, _ => nomatch value
  | .alternative _ _ fields _, .inl value, .inl result, heach, hmem => by
    rw [write] at hmem
    exact Fields.fits_of_mem_write heach.2 hmem
  | .alternative _ _ _ rest, .inr value, .inr result, heach, hmem => by
    rw [write] at hmem
    have hfurther : rest.Each (fun _ shape => shape.Aside depth) value result := heach
    exact fits_of_mem_write hfurther hmem

/-- An alternative is read from its members. -/
theorem readTree_write {α : Type} {depth : Nat} : {alternatives : Alternatives α} →
    {value result : α} → alternatives.names.Nodup →
    alternatives.Each (fun _ shape => shape.Aside depth) value result →
    alternatives.readTree (alternatives.write value).1 .aside
      (.object (rereadMembers (alternatives.write value).2)) = .ok result
  | .nil, value, _, _, _ => nomatch value
  | .alternative _ _ fields _, .inl value, .inl result, _, heach => by
    rw [write, readTree, if_pos rfl]
    dsimp only
    rw [← bind_assoc, Fields.readMembers_write heach.1 heach.2]
    rfl
  | .alternative name _ _ rest, .inr value, .inr result, hdistinct, heach => by
    obtain ⟨hforeign, hdistinct⟩ := List.nodup_cons.1 hdistinct
    have hapart : (rest.write value).1 ≠ name := by
      rintro rfl
      exact hforeign (name_write_mem rest value)
    rw [write, readTree, if_neg hapart, readTree_write hdistinct heach]
    rfl

end Alternatives

end InstanceIdentity.Json
