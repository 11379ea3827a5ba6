import InstanceIdentity.Proofs.Facts.Lookup
import InstanceIdentity.Proofs.Json.Dictionaries

/-!
# Facts exchanged as JSON

Facts and the members of a JSON object stand for each other.  Reading gives every member the kind of its
value.  Writing does not tell a flag or a text from another value that is one, so such a value is a flag or a
text when it comes back, and detection sees it then.

Main results:

- Theorem `FactSet.ofTree_write`: what is read for a snapshot that was written.
- Theorem `FactSet.ofText_iff`: a document is read as the object that it holds.
- Theorem `FactSet.exchange`: which snapshots come back, and which documents are read.
-/

namespace InstanceIdentity

/-! ## Single facts -/

namespace Fact

/-- A flag or a text that is kept as another value. -/
inductive Disguised : Fact → Prop where
  | flag (value : Bool) : Disguised (.other (.boolean value))
  | text (value : String) : Disguised (.other (.text value))

/-- What is read for a fact that was written. -/
def settled (fact : Fact) : Fact := ofJson fact.toJson

@[simp]
theorem settled_other (value : Json) : settled (.other value) = ofJson value := rfl

theorem ofJson_eq_flag_iff {json : Json} {value : Bool} : ofJson json = .flag value ↔
    json = .boolean value := by
  cases json <;> simp [ofJson]

theorem ofJson_eq_text_iff {json : Json} {value : String} : ofJson json = .text value ↔
    json = .text value := by
  cases json <;> simp [ofJson]

theorem ofJson_eq_other_iff {json value : Json} :
    ofJson json = .other value ↔ json = value ∧ ¬ Disguised (.other value) := by
  constructor
  · intro h
    cases json <;> cases h <;> exact ⟨rfl, nofun⟩
  · rintro ⟨rfl, hplain⟩
    cases json with
    | boolean value => exact absurd (.flag value) hplain
    | text value => exact absurd (.text value) hplain
    | _ => rfl

/-- A fact comes back unless it is disguised. -/
theorem settled_eq_self_iff {fact : Fact} : fact.settled = fact ↔ ¬ fact.Disguised := by
  cases fact with
  | flag value => exact ⟨fun _ => nofun, fun _ => rfl⟩
  | text value => exact ⟨fun _ => nofun, fun _ => rfl⟩
  | other value => rw [settled_other, ofJson_eq_other_iff, and_iff_right rfl]

theorem settled_eq_flag_iff {fact : Fact} {value : Bool} :
    fact.settled = .flag value ↔ fact = .flag value ∨ fact = .other (.boolean value) := by
  unfold settled
  rw [ofJson_eq_flag_iff]
  cases fact <;> simp [toJson]

theorem settled_eq_text_iff {fact : Fact} {value : String} :
    fact.settled = .text value ↔ fact = .text value ∨ fact = .other (.text value) := by
  unfold settled
  rw [ofJson_eq_text_iff]
  cases fact <;> simp [toJson]

end Fact

/-! ## Snapshots -/

namespace FactSet

/-- Every fact of a snapshot is a member of an object, and has the kind of its value. -/
structure Reflects (set : FactSet) (members : List (String × Json)) : Prop where
  flag : ∀ key value, set.get? key = some (.flag value) ↔ (key, .boolean value) ∈ members
  text : ∀ key value, set.get? key = some (.text value) ↔ (key, .text value) ∈ members
  other : ∀ key value, set.get? key = some (.other value) ↔
    (key, value) ∈ members ∧ (∀ flag, value ≠ .boolean flag) ∧ ∀ text, value ≠ .text text

/-- The values that no test sees are in normal form, as all values in memory are. -/
def Normal (set : FactSet) : Prop := ∀ key value, set.get? key = some (.other value) →
    value.normal = value

/-- What is read for a snapshot that was written. -/
def settled (set : FactSet) : FactSet := ⟨set.facts.map Fact.settled⟩

/-- The snapshot that the members of an object stand for. -/
def ofMembers (members : List (String × Json)) : FactSet :=
  ofList (members.map fun member => (member.1, Fact.ofJson member.2))

/-- Every object is read. -/
theorem ofTree_object (members : List (String × Json)) :
    shape.ofTree (.object members) = .ok (ofMembers (Json.normalMembers members)) := by
  have heach (json : Json) :
      (Json.Shape.via .any Fact.ofJson Fact.toJson).readTree .document json =
        .ok (Fact.ofJson json.normal) := by
    rw [Json.Shape.via, Json.Shape.readTree, Json.Shape.readTree]
    rfl
  have hall : members.mapM (fun member => do
      return (member.1, ← (Json.Shape.via .any Fact.ofJson Fact.toJson).readTree .document member.2)) =
        (.ok (members.map fun member => (member.1, Fact.ofJson member.2.normal)) : Except Json.Cause
          _) := by
    simp only [heach]
    exact List.mapM_pure
  rw [shape, Json.Shape.ofTree, Json.Shape.via, Json.Shape.readTree, Json.Shape.readTree, hall,
    ofMembers, Json.normalMembers_eq, List.map_map]
  rfl

/-- Documents are read as the objects that they hold. -/
theorem ofText_eq_ok_iff {text : String} {set : FactSet} :
    shape.ofText text = .ok set ↔
      ∃ members, Json.ofText text = .ok (.object members) ∧ ofMembers members = set := by
  rw [shape, Json.Shape.ofText_via_iff]
  simp only [Json.Shape.ofText_dictionary_iff]
  constructor
  · rintro ⟨_, ⟨members, hread, rfl⟩, rfl⟩
    exact ⟨members, hread, rfl⟩
  · rintro ⟨members, hread, rfl⟩
    exact ⟨_, ⟨members, hread, rfl⟩, rfl⟩

/-- The facts under single keys. -/
theorem get?_ofMembers {members : List (String × Json)} (hunique : (members.map Prod.fst).Nodup)
    {key : String} {fact : Fact} :
    (ofMembers members).get? key = some fact ↔ ∃ value, (key, value) ∈ members ∧
      Fact.ofJson value = fact := by
  have hkeys : ((members.map fun member => (member.1, Fact.ofJson member.2)).map Prod.fst).Nodup := by
    rw [List.map_map]
    exact hunique
  refine (Dictionary.get?_ofList_eq_some_iff hkeys).trans ?_
  simp only [List.mem_map, Prod.mk.injEq, Prod.exists]
  constructor
  · rintro ⟨_, value, hmem, rfl, hsame⟩
    exact ⟨value, hmem, hsame⟩
  · rintro ⟨value, hmem, hsame⟩
    exact ⟨key, value, hmem, rfl, hsame⟩

/-- Members with keys of their own are all kept, each as what it is. -/
theorem reflects_ofMembers {members : List (String × Json)} (hunique : (members.map Prod.fst).Nodup) :
    (ofMembers members).Reflects members where
  flag key value := by simp [get?_ofMembers hunique, Fact.ofJson_eq_flag_iff]
  text key value := by simp [get?_ofMembers hunique, Fact.ofJson_eq_text_iff]
  other key value := by
    have hplain : ¬ Fact.Disguised (.other value) ↔
        (∀ flag, value ≠ .boolean flag) ∧ ∀ text, value ≠ .text text := by
      constructor
      · exact fun h => ⟨fun flag hsame => h (hsame ▸ .flag flag), fun text hsame =>
          h (hsame ▸ .text text)⟩
      · rintro ⟨hnoFlag, hnoText⟩ (⟨flag⟩ | ⟨text⟩)
        · exact hnoFlag flag rfl
        · exact hnoText text rfl
    rw [get?_ofMembers hunique, ← hplain]
    simp only [Fact.ofJson_eq_other_iff]
    constructor
    · rintro ⟨_, hmem, rfl, h⟩
      exact ⟨hmem, h⟩
    · rintro ⟨hmem, h⟩
      exact ⟨value, hmem, rfl, h⟩

/-! ## Snapshots that are written -/

/-- The members that a snapshot is written with. -/
def members (set : FactSet) : List (String × Json) :=
  set.facts.entries.map fun entry => (entry.1, entry.2.toJson)

theorem write_eq (set : FactSet) : shape.write set = .object set.members := by
  simp only [shape, Json.Shape.via, Json.Shape.write, members]

/-- A snapshot that was read is written as the object that it was read from. -/
theorem members_ofMembers (members : List (String × Json)) :
    (ofMembers members).members = (Dictionary.ofList members).entries := by
  have hsame : members.map (fun member => (member.1, (Fact.ofJson member.2).toJson)) = members := by
    simp
  change ((Dictionary.ofList _).map Fact.toJson).entries = _
  rw [Dictionary.map_ofList, List.map_map]
  exact congrArg (fun members => (Dictionary.ofList members).entries) hsame

theorem ofMembers_members (set : FactSet) : ofMembers set.members = set.settled := by
  have hentries : set.members.map (fun member => (member.1, Fact.ofJson member.2)) =
      (set.facts.map Fact.settled).entries := by
    rw [members, List.map_map]
    rfl
  rw [ofMembers, hentries]
  exact congrArg mk (set.facts.map Fact.settled).ofList_entries

/-- What a snapshot is written as is in normal form. -/
theorem Normal.members {set : FactSet} (hnormal : set.Normal) :
    Json.normalMembers set.members = set.members := by
  have heach : ∀ member ∈ set.members, (member.1, member.2.normal) = id member := by
    intro member hmem
    obtain ⟨⟨key, fact⟩, hpresent, rfl⟩ := List.mem_map.1 hmem
    cases fact with
    | flag value => rfl
    | text value => rfl
    | other value => exact Prod.ext rfl (hnormal key value (Dictionary.get?_eq_some_iff.2 hpresent))
  rw [Json.normalMembers_eq, List.map_congr_left heach, List.map_id]

theorem Normal.write {set : FactSet} (hnormal : set.Normal) :
    (shape.write set).normal = shape.write set := by
  have hsorted : (Dictionary.ofList set.members).entries = set.members :=
    congrArg Dictionary.entries (set.facts.map Fact.toJson).ofList_entries
  rw [write_eq, Json.normal, hnormal.members, hsorted]

/-- What is read for a snapshot that was written. -/
theorem ofTree_write {set : FactSet} (hnormal : set.Normal) :
    shape.ofTree (shape.write set) = .ok set.settled := by
  rw [write_eq, ofTree_object, hnormal.members, ofMembers_members]

/-! ## What comes back -/

theorem get?_settled {set : FactSet} {key : String} :
    set.settled.get? key = (set.get? key).map Fact.settled :=
  Dictionary.get?_map Fact.settled

/-- A snapshot comes back unless a fact of it is disguised. -/
theorem settled_eq_self_iff {set : FactSet} :
    set.settled = set ↔ ∀ key fact, set.get? key = some fact → ¬ fact.Disguised := by
  constructor
  · intro hsame key fact hfound
    rw [← Fact.settled_eq_self_iff]
    have hkept : set.settled.get? key = some fact := hsame.symm ▸ hfound
    rw [get?_settled, hfound] at hkept
    exact Option.some.inj hkept
  · intro hplain
    refine congrArg mk (Dictionary.ext_get? fun key => get?_settled.trans ?_)
    change (set.get? key).map Fact.settled = set.get? key
    rcases hfound : set.get? key with _ | fact
    · rfl
    · exact congrArg some (Fact.settled_eq_self_iff.2 (hplain key fact hfound))

/-- A host is a guest afterwards also for a truth that was disguised. -/
theorem isGuest_settled {set : FactSet} :
    set.settled.isGuest = true ↔
      set.isGuest = true ∨ set.get? guestKey = some (.other (.boolean true)) := by
  rw [isGuest_iff, isGuest_iff, get?_settled, Option.map_eq_some_iff]
  simp only [Fact.settled_eq_flag_iff]
  constructor
  · rintro ⟨_, hfound, rfl | rfl⟩
    · exact .inl hfound
    · exact .inr hfound
  · rintro (hfound | hfound)
    · exact ⟨_, hfound, .inl rfl⟩
    · exact ⟨_, hfound, .inr rfl⟩

/-- Tests on text see afterwards the texts that were disguised, too. -/
theorem text?_settled {set : FactSet} {key value : String} :
    set.settled.text? key = some value ↔
      set.text? key = some value ∨ set.get? key = some (.other (.text value)) := by
  rw [text?_eq_some_iff, text?_eq_some_iff, get?_settled, Option.map_eq_some_iff]
  simp only [Fact.settled_eq_text_iff]
  constructor
  · rintro ⟨_, hfound, rfl | rfl⟩
    · exact .inl hfound
    · exact .inr hfound
  · rintro (hfound | hfound)
    · exact ⟨_, hfound, .inl rfl⟩
    · exact ⟨_, hfound, .inr rfl⟩

/-- What is read is in normal form. -/
theorem normal_ofMembers (members : List (String × Json)) :
    (ofMembers (Json.normalMembers members)).Normal := by
  intro key value hfound
  obtain ⟨⟨_, json⟩, hmem, hsame⟩ :=
    List.mem_map.1 (Dictionary.mem_of_mem_ofList (Dictionary.get?_eq_some_iff.1 hfound))
  obtain ⟨rfl, -⟩ := Fact.ofJson_eq_other_iff.1 (Prod.mk.inj hsame).2
  exact Json.normal_normalMembers members _ hmem

/-! ## Documents -/

/-- Members in normal form stand for the same snapshot. -/
theorem ofMembers_normal {members : List (String × Json)}
    (hnormal : (Json.object members).normal = .object members) :
    ofMembers (Json.normalMembers members) = ofMembers members := by
  have hsorted := Dictionary.ofList_map_entries Fact.ofJson (Json.normalMembers members)
  rw [Json.ofList_of_normal hnormal] at hsorted
  exact congrArg mk hsorted.symm

/-- A document is read as the object that it holds. -/
theorem ofText_iff {text : String} {set : FactSet} :
    shape.ofText text = .ok set ↔
      ∃ members, Json.ofText text = .ok (.object members) ∧ shape.ofTree (.object members) =
        .ok set := by
  rw [ofText_eq_ok_iff]
  refine exists_congr fun members => and_congr_right fun hread => ?_
  rw [ofTree_object, ofMembers_normal (Json.normal_of_ofText hread), Except.ok.injEq]

/-- The text of a snapshot is read when there is room for the containers in it. -/
theorem ofText_render_iff {set : FactSet} (hnormal : set.Normal) {depth : Nat}
    (hfits : Json.Fits depth (shape.write set)) (hkept : (shape.write set).reread = shape.write set)
    {read : FactSet} :
    shape.ofText (shape.write set).render = .ok read ↔
      Json.Fits Json.Reader.nesting (shape.write set) ∧ shape.ofTree (shape.write set) = .ok read := by
  have hback (henough : Json.Fits Json.Reader.nesting (shape.write set)) :
      Json.ofText (shape.write set).render = .ok (shape.write set) := by
    rw [Json.ofText_render henough, hkept, hnormal.write]
  rw [ofText_iff]
  constructor
  · rintro ⟨members, hfound, hread⟩
    have henough := (Json.ofText_render_iff hfits).1 ⟨_, hfound⟩
    have hsame : shape.write set = .object members := Except.ok.inj ((hback henough).symm.trans hfound)
    exact ⟨henough, hsame ▸ hread⟩
  · rintro ⟨henough, hread⟩
    rw [write_eq] at hread
    refine ⟨set.members, ?_, hread⟩
    rw [hback henough, write_eq]

/-! ## All together -/

/-- Objects and snapshots exchanged.  Every object with keys of its own is read as the snapshot that
reflects it, and the snapshot is written as the object.  A snapshot that is written and read comes back with
its disguised facts settled, so that it comes back equal when there are none.  A document is read as the
object that it holds, and the text of a snapshot when there is room for the containers in it. -/
theorem exchange {members : List (String × Json)} (hunique : (members.map Prod.fst).Nodup)
    {set : FactSet} (hnormal : set.Normal) :
    (∃ read, shape.ofTree (.object members) = .ok read ∧ read.Normal ∧
      read.Reflects (Json.normalMembers members) ∧
      shape.write read = (Json.object members).normal ∧
      ∃ sorted, shape.write read = .object sorted ∧ sorted.Perm (Json.normalMembers members)) ∧
    (∃ back, shape.ofTree (shape.write set) = .ok back ∧
      (back = set ↔ ∀ key fact, set.get? key = some fact → ¬ fact.Disguised) ∧
      (∀ key, back.get? key = (set.get? key).map Fact.settled) ∧
      (back.isGuest = true ↔
        set.isGuest = true ∨ set.get? guestKey = some (.other (.boolean true))) ∧
      ∀ key value, back.text? key = some value ↔
        set.text? key = some value ∨ set.get? key = some (.other (.text value))) ∧
    (∀ text read, shape.ofText text = .ok read ↔
      ∃ members, Json.ofText text = .ok (.object members) ∧
        shape.ofTree (.object members) = .ok read) ∧
    (∀ depth, Json.Fits depth (shape.write set) → (shape.write set).reread = shape.write set →
      ∀ read, shape.ofText (shape.write set).render = .ok read ↔
        Json.Fits Json.Reader.nesting (shape.write set) ∧
          shape.ofTree (shape.write set) = .ok read) := by
  have hkeys : ((Json.normalMembers members).map Prod.fst).Nodup := by
    rw [Json.normalMembers_eq, List.map_map]
    exact hunique
  have hwritten : shape.write (ofMembers (Json.normalMembers members)) =
      .object (Dictionary.ofList (Json.normalMembers members)).entries := by
    rw [write_eq, members_ofMembers]
  refine ⟨⟨_, ofTree_object members, normal_ofMembers members, reflects_ofMembers hkeys, ?_, _, hwritten,
    Dictionary.entries_ofList_perm hkeys⟩, ?_, fun _ _ => ofText_iff, ?_⟩
  · rw [hwritten, Json.normal]
  · exact ⟨set.settled, ofTree_write hnormal, settled_eq_self_iff, fun _ =>
      get?_settled, isGuest_settled,
      fun _ _ => text?_settled⟩
  · exact fun _ hfits hkept _ => ofText_render_iff hnormal hfits hkept

/-- A truth that is kept as another value is not seen, and makes the host a guest when the snapshot has been
written and read, as a value or as a text. -/
theorem exchange_disguised :
    let members : List (String × Json) := [(guestKey, .boolean true), ("dmi.memory.size", .integer 2048)]
    let set := ofList [(guestKey, .other (.boolean true))]
    (members.map Prod.fst).Nodup ∧ set.Normal ∧ set.isGuest = false ∧
      (∃ read, shape.ofTree (.object members) = .ok read ∧ read.isGuest = true) ∧
      ∃ back, shape.ofTree (shape.write set) = .ok back ∧ back ≠ set ∧ back.isGuest = true ∧
        shape.ofText (shape.write set).render = .ok back := by
  intro members set
  have hunique : (members.map Prod.fst).Nodup := by decide
  have hfound : set.get? guestKey = some (.other (.boolean true)) :=
    Dictionary.get?_eq_some_iff.2 (List.mem_singleton.2 rfl)
  have hnormal : set.Normal := by
    intro key value hstored
    have hsingle : (key, Fact.other value) ∈ [(guestKey, Fact.other (.boolean true))] :=
      Dictionary.get?_eq_some_iff.1 hstored
    cases List.mem_singleton.1 hsingle
    rfl
  have hfits (depth : Nat) : Json.Fits (depth + 1) (shape.write set) := by
    rw [write_eq]
    refine .object fun member hmem => ?_
    rw [List.mem_singleton.1 hmem]
    exact .boolean depth true
  have hkept : (shape.write set).reread = shape.write set := by
    rw [write_eq]
    rfl
  have hunseen : set.isGuest = false := by
    rw [Bool.eq_false_iff, ne_eq, isGuest_iff, hfound]
    simp
  obtain ⟨⟨read, hreadTree, -, hreflects, -⟩, ⟨back, hbackTree, hequal, -, hguest, -⟩, -, htexts⟩ :=
    exchange hunique hnormal
  have hseen : read.isGuest = true := isGuest_iff.2 ((hreflects.flag guestKey true).2 (.head _))
  refine ⟨hunique, hnormal, hunseen, ⟨read, hreadTree, hseen⟩, back, hbackTree, ?_,
    hguest.2 (.inr hfound), ?_⟩
  · exact fun hsame => hequal.1 hsame guestKey _ hfound (.flag true)
  · exact (htexts 1 (hfits 0) hkept back).2 ⟨hfits 126, hbackTree⟩

/-- An object that holds arrays in each other is read as a value, but not as a text when there are too
many of them. -/
theorem exchange_too_deep :
    let members : List (String × Json) := [("x", .nested 126)]
    (members.map Prod.fst).Nodup ∧ (∃ read, shape.ofTree (.object members) = .ok read) ∧
      ∀ read, shape.ofText (Json.object members).render ≠ .ok read := by
  intro members
  have hfits : Json.Fits 128 (.object members) := by
    refine .object fun member hmem => ?_
    rw [List.mem_singleton.1 hmem]
    exact Json.fits_nested_iff.2 (by decide)
  refine ⟨by decide, ⟨_, ofTree_object members⟩, fun read hgot => ?_⟩
  obtain ⟨_, hfound, -⟩ := ofText_iff.1 hgot
  rcases (Json.ofText_render_iff hfits).1 ⟨_, hfound⟩ with _ | _ | _ | _ | _ | _ | heach
  exact absurd (Json.fits_nested_iff.1 (heach _ List.mem_cons_self)) (by decide)

end FactSet

end InstanceIdentity
