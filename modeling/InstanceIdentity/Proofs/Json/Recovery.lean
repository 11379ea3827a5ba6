import InstanceIdentity.Proofs.Json.Asides
import InstanceIdentity.Proofs.Json.Skipping

/-!
# Values of a type are read back

A shape writes a value and reads another in its place: the value itself, unless numbers were rounded.

Main results:

- Definition `Json.Shape.Recovers`: the judgement, with rules for scalars, containers, records and
  alternatives.
- Theorem `Json.Fields.reads_object`: a record is read from its members in any order, among others, and
  without those whose absence means the same.
- Theorem `Json.Shape.roundTrip_of_recovers`: a document is read back.
-/

namespace InstanceIdentity.Json

open Reader

namespace Reader

variable {α β : Type} {reader : Reader α} {value : α} {before after rest : List Char}

/-- What is read is carried over. -/
theorem Reads.map {f : α → β} (hread : Reads reader before value after) :
    Reads (f <$> reader) before (f value) after := by
  rw [map_eq_pure_bind]
  exact .bind hread (.pure _ after)

/-- A judgement that is passed. -/
theorem reads_judged (value : α) (rest : List Char) : Reads (judged (.ok value)) rest value rest :=
  .pure value rest

end Reader

namespace Shape

variable {α β : Type} {depth : Nat} {value result : α}

attribute [local simp] Shape.write Shape.read

/-- Written with a certain number of containers in each other, a value is read as another, whatever
follows. -/
def Recovers (shape : Shape α) (depth : Nat) (value result : α) : Prop :=
  ∀ room rest, depth ≤ room → Ended rest →
    Reads (shape.read room) ((shape.write value).render.toList ++ rest) result rest

/-- More room does no harm. -/
theorem Recovers.mono {shape : Shape α} {more : Nat} (hrecovers : shape.Recovers depth value result)
    (henough : depth ≤ more) : shape.Recovers more value result :=
  fun room rest hdeep hended => hrecovers room rest (Nat.le_trans henough hdeep) hended

/-! ## Scalars -/

theorem recovers_text {expected : String} {read : String → Except String α} {write : α → String}
    (haccepted : read (write value) = .ok result) (depth : Nat) :
    (Shape.text expected read write).Recovers depth value result := by
  intro room rest _ _
  unfold Shape.read Shape.write
  rw [toList_render_text]
  exact reads_textBy (by rw [haccepted]; rfl) rest

theorem recovers_plainText (s : String) (depth : Nat) : plainText.Recovers depth s s :=
  recovers_text rfl depth

theorem recovers_boolean (value : Bool) (depth : Nat) : Shape.boolean.Recovers depth value value := by
  intro room rest _ _
  unfold Shape.read Shape.write
  cases value with
  | true => exact .placed (.blanks rfl (.skip (.bind (reads_word _ rest) (.pure _ rest))))
  | false => exact .placed (.blanks rfl (.skip (.bind (reads_word _ rest) (.pure _ rest))))

/-- A number that is written with or without a sign is judged. -/
theorem reads_numberBy {expected : String} {judge : Json → Except Cause α} {ds : List Char} {c : Char}
    {cs rest : List Char} {json : Json} (negative : Bool) (hparts : ds = c :: cs)
    (hdigit : c.isDigit = true)
    (hread : Reads (number negative) (ds ++ rest) json rest) (haccepted : judge json = .ok value) :
    Reads (numberBy expected judge) ((if negative then ['-'] else []) ++ ds ++ rest) value rest := by
  subst hparts
  have hverdict : Reads (judged (judge json)) rest value rest := by
    rw [haccepted]
    exact .pure value rest
  apply Reads.placed
  cases negative with
  | true => exact .blanks rfl (.skip (.bind hread hverdict))
  | false =>
    have hstart := isDigit_start hdigit .null
    refine .blanks hstart.solid ?_
    split
    case h_2 =>
      rename_i hfound
      cases hfound
      rw [if_pos hdigit]
      exact .bind hread hverdict
    all_goals
      rename_i hfound
      cases hfound
      try cases hdigit

/-- A finite number is read as the number that is read for it. -/
theorem recovers_float {x : Binary64} (hfinite : x.isFinite = true) (depth : Nat) :
    Shape.float.Recovers depth x x.reread := by
  intro room rest _ hended
  unfold Shape.read Shape.write
  cases x with
  | finite negative rank =>
    obtain ⟨c, cs, hparts, hdigit⟩ := unsigned_head rank
    rw [toList_render_float]
    exact reads_numberBy negative hparts hdigit (reads_number_unsigned negative rank hended) rfl
  | infinite negative => cases hfinite
  | nan => cases hfinite

/-- A name. -/
theorem recovers_choice {names : List (String × α)} {write : α → String}
    (hknown : names.lookup (write value) = some result) (depth : Nat) :
    (Shape.choice names write).Recovers depth value result := by
  intro room rest _ _
  have haccepted : Json.named names (write value) = .ok result := by
    unfold Json.named
    rw [hknown]
  unfold Shape.read Shape.write
  rw [toList_render_text]
  exact .blanks rfl (.bind (reads_textBy haccepted rest) (.pure _ rest))

/-! ## Other types -/

/-- What the inner shape reads is checked. -/
theorem reads_refined {inner : Shape β} {read : β → Except String α} (write : α → β) {raw : β}
    {room : Nat}
    {before after : List Char} (hfound : Reads (inner.read room) before raw after)
    (haccepted : read raw = .ok result) :
    Reads ((Shape.refined inner read write).read room) before result after := by
  unfold Shape.read
  refine .bind hfound ?_
  rw [haccepted]
  exact reads_judged result after

theorem recovers_refined {inner : Shape β} {read : β → Except String α} {write : α → β} {raw : β}
    (hrecovers : inner.Recovers depth (write value) raw) (haccepted : read raw = .ok result) :
    (Shape.refined inner read write).Recovers depth value result := by
  intro room rest henough hended
  rw [Shape.write]
  exact reads_refined write (hrecovers room rest henough hended) haccepted

theorem recovers_via {inner : Shape β} {read : β → α} {write : α → β} (raw : β)
    (hrecovers : inner.Recovers depth (write value) raw) (hsame : read raw = result) :
    (inner.via read write).Recovers depth value result :=
  recovers_refined hrecovers (congrArg Except.ok hsame)

/-! ## Optional values and containers -/

theorem recovers_none (inner : Shape α) (depth : Nat) :
    (Shape.optional inner).Recovers depth none none := by
  intro room rest _ _
  unfold Shape.read Shape.write
  exact .blanks rfl (.skip (.bind (reads_word _ rest) (.pure none rest)))

/-- A value is told from none by its first character. -/
theorem recovers_some {inner : Shape α} (hrecovers : inner.Recovers depth value result)
    (hpresent : inner.write value ≠ .null) :
    (Shape.optional inner).Recovers depth (some value) (some result) := by
  intro room rest henough hended
  have hread := hrecovers room rest henough hended
  obtain ⟨c, cs, hparts, hstart⟩ := exists_render_cons (inner.write value)
  unfold Shape.read Shape.write
  rw [hparts] at hread ⊢
  refine .blanks hstart.solid ?_
  split
  · rename_i hfound
    exact absurd (hstart.some (Option.some.inj hfound)) hpresent
  · exact hread.map

/-- The content of brackets, when there is room for one more container. -/
theorem reads_bracketed {content : Nat → Reader α} {close : Reader Unit} {room : Nat} {c : Char}
    {before between after : List Char} (hinside : Reads (content room) before value between)
    (hclosed : Reads close between () after) :
    Reads (bracketed (room + 1) content close) (c :: before) value after :=
  .skip (.enclosed hinside hclosed)

theorem recovers_list {inner : Shape α} {values : List α} {f : α → α}
    (heach : ∀ value ∈ values, inner.Recovers depth value (f value)) :
    (Shape.list inner).Recovers (depth + 1) values (values.map f) := by
  intro room rest henough hended
  obtain ⟨room, rfl, hdeep⟩ := exists_step henough
  have hentries : ∀ entry ∈ values.map (fun value => ((inner.write value).render.toList, f value)),
      Item (inner.read room) entry.1 entry.2 := by
    intro entry hmem
    obtain ⟨value, hpresent, rfl⟩ := List.mem_map.1 hmem
    exact item_of_reads fun rest hended => heach value hpresent room rest hdeep hended
  have htexts : (values.map fun value => inner.write value).map (fun item => item.render.toList) =
      (values.map fun value => ((inner.write value).render.toList, f value)).map Prod.fst := by
    rw [List.map_map, List.map_map]; rfl
  have hresults : values.map f =
      (values.map fun value => ((inner.write value).render.toList, f value)).map Prod.snd := by
    rw [List.map_map]; rfl
  unfold Shape.read Shape.write
  rw [toList_render_array, htexts, hresults]
  refine .placed (.blanks rfl (reads_bracketed (.bind (reads_remaining _) ?_) (reads_endArray rest)))
  have hsteps := length_le_remaining (fun entry hmem => (hentries entry hmem).ne_nil) true (']' :: rest)
  exact reads_items hentries hsteps 0 [] rest

theorem recovers_dictionary {inner : Shape α} {values : Dictionary α} {f : α → α}
    (heach : ∀ entry ∈ values.entries, inner.Recovers depth entry.2 (f entry.2)) :
    (Shape.dictionary inner).Recovers (depth + 1) values (values.map f) := by
  intro room rest henough hended
  obtain ⟨room, rfl, hdeep⟩ := exists_step henough
  have hmembers : ∀ entry ∈ values.entries.map
        (fun entry => (entry.1, (inner.write entry.2).render.toList, f entry.2)),
      ∀ rest, Ended rest → Reads (inner.read room) (entry.2.1 ++ rest) entry.2.2 rest := by
    intro entry hmem rest hended
    obtain ⟨value, hpresent, rfl⟩ := List.mem_map.1 hmem
    exact heach value hpresent room rest hdeep hended
  have htexts : (values.entries.map fun entry => (entry.1, inner.write entry.2)).map memberText =
      (values.entries.map fun entry => (entry.1, (inner.write entry.2).render.toList, f entry.2)).map
        fun entry => quoted entry.1 (':' :: entry.2.1) := by
    rw [List.map_map, List.map_map]; rfl
  have hresults : (values.map f).entries =
      (values.entries.map fun entry => (entry.1, (inner.write entry.2).render.toList, f entry.2)).map
        fun entry => (entry.1, entry.2.2) := by
    rw [List.map_map]; rfl
  unfold Shape.read Shape.write
  rw [toList_render_object, htexts, ← (values.map f).ofList_entries, hresults]
  refine .placed (.blanks rfl (reads_bracketed (.bind (reads_remaining _) ?_) (reads_endObject rest)))
  refine .bind (reads_members hmembers ?_ true [] rest) (.pure _ _)
  exact length_le_remaining (fun _ _ => List.cons_ne_nil _ _) true _

end Shape

/-! ## Records -/

namespace Fields

variable {σ α : Type} {fields : Fields σ α} {depth room : Nat} {value result : α} {present : List String}
  {member : String × Json} {rest : List Char}

/-- A key of no field is left to others. -/
theorem offer_of_not_mem {key : String} (hforeign : key ∉ fields.names) (slots : σ) :
    fields.offer room key slots = none := by
  induction fields with
  | done => rfl
  | field name absence inner others ih =>
    rw [names, List.mem_cons, not_or] at hforeign
    rw [offer, if_neg hforeign.1, ih hforeign.2]
    rfl

/-- A member that is written for a field is taken by it when it comes for the first time. -/
theorem takes_member (hdistinct : fields.names.Nodup)
    (heach : fields.Each (fun _ shape => shape.Recovers depth) value result) (henough : depth ≤ room)
    (hwritten : member ∈ fields.write value) (hnew : member.1 ∉ present) (hended : Ended rest) :
    Takes fields room member.1 (fields.known result present)
      (':' :: (member.2.render.toList ++ rest)) (fields.known result (member.1 :: present)) rest := by
  induction fields with
  | done => cases hwritten
  | field name absence inner others ih =>
    obtain ⟨value, values⟩ := value
    obtain ⟨result, results⟩ := result
    obtain ⟨hown, hfurther⟩ := heach
    obtain ⟨hforeign, hdistinct⟩ := List.nodup_cons.1 hdistinct
    rw [write] at hwritten
    rw [known, known]
    rcases List.mem_cons.1 hwritten with rfl | hwritten
    · rw [if_neg hnew, if_pos List.mem_cons_self, known_cons_of_not_mem hforeign]
      exact .own (hown room rest henough hended)
    · have hapart : member.1 ≠ name := fun hsame => hforeign (hsame ▸ key_mem_names hwritten)
      have hsame : name ∈ member.1 :: present ↔ name ∈ present := by
        rw [List.mem_cons, or_iff_right (Ne.symm hapart)]
      simp only [hsame]
      exact .further hapart (ih hdistinct hfurther hwritten)

/-- A member of no field is passed over. -/
theorem reads_member_foreign {slots final : σ} {fuel : Nat} {first : Bool} {after : List Char}
    (hforeign : member.1 ∉ fields.names) (hfits : ∃ depth, Fits depth member.2) (hended : Ended rest)
    (hmore : Reads (fieldsBy (fields.offer room) fuel false slots) rest final after) :
    Reads (fieldsBy (fields.offer room) (fuel + 1) first slots)
      (separated first (quoted member.1 (':' :: (member.2.render.toList ++ rest)))) final after := by
  obtain ⟨depth, hfits⟩ := hfits
  unfold fieldsBy
  apply Reads.bind (reads_key first member.1 _)
  simp only [offer_of_not_mem hforeign]
  exact .bind (.within (.bind (reads_colon _) (reads_skipValue hfits hended))) hmore

/-- Members that stand for the fields of a record: such as are written for them, in any order, no field
twice, and among them members of other names. -/
structure Stands (fields : Fields σ α) (value : α) (members : List (String × Json)) : Prop where
  each : ∀ member ∈ members, member ∈ fields.write value ∨
    member.1 ∉ fields.names ∧ ∃ depth, Fits depth member.2
  once : ∀ name ∈ fields.names, (members.map Prod.fst).count name ≤ 1

/-- The members of a record are read, in whatever order they come. -/
theorem reads_fields (hdistinct : fields.names.Nodup)
    (heach : fields.Each (fun _ shape => shape.Recovers depth) value result) (henough : depth ≤ room)
    {members : List (String × Json)} (hstands : fields.Stands value members) (present : List String)
    (hnew : ∀ name ∈ fields.names, name ∈ present → name ∉ members.map Prod.fst)
    {fuel : Nat} (hsteps : members.length ≤ fuel) (first : Bool) (rest : List Char) :
    Reads (fieldsBy (fields.offer room) fuel first (fields.known result present))
      (separate first (members.map memberText) ++ '\x7d' :: rest)
      (fields.known result ((members.map Prod.fst).reverse ++ present)) ('\x7d' :: rest) := by
  induction members generalizing fuel first present with
  | nil => exact reads_members_end _ fuel first _ rest
  | cons member members ih =>
    obtain ⟨fuel, rfl, hfurther⟩ := exists_step hsteps
    have hended : Ended (separate false (members.map memberText) ++ '\x7d' :: rest) :=
      ended_separate _ (ended_brace rest)
    have hothers : fields.Stands value members := by
      refine ⟨fun other hmem => hstands.each other (List.mem_cons_of_mem _ hmem), fun name hmem => ?_⟩
      exact Nat.le_trans List.count_le_count_cons (hstands.once name hmem)
    have hunrepeated : ∀ name ∈ fields.names, name ∈ member.1 :: present →
      name ∉ members.map Prod.fst := by
      intro name hfield hread hagain
      rcases List.mem_cons.1 hread with rfl | hearlier
      · have htwice := hstands.once member.1 hfield
        rw [List.map_cons, List.count_cons_self] at htwice
        exact absurd (List.count_pos_iff.2 hagain) (by omega)
      · exact hnew name hfield hearlier (List.mem_cons_of_mem _ hagain)
    have hmore := ih hothers _ hunrepeated hfurther false
    rw [List.map_cons, List.map_cons, List.reverse_cons, List.append_assoc, List.singleton_append,
      separate_cons_append, memberText, quoted_append, List.cons_append]
    rcases hstands.each member List.mem_cons_self with hwritten | ⟨hforeign, hfits⟩
    · have hfresh : member.1 ∉ present := fun hearlier =>
        hnew member.1 (key_mem_names hwritten) hearlier List.mem_cons_self
      exact reads_member (takes_member hdistinct heach henough hwritten hfresh hended) hmore
    · rw [known_cons_of_not_mem hforeign] at hmore
      exact reads_member_foreign hforeign hfits hended hmore

/-- The members that are written stand for the fields. -/
theorem stands_write (hdistinct : fields.names.Nodup) (value : α) :
    fields.Stands value (fields.write value) where
  each member hmem := .inl hmem
  once name _ := by
    rw [keys_write]
    exact List.nodup_iff_count_le_one.1 hdistinct name

/-- An object of members that stand for the fields of a record is read as the record, when what is
missing may be missing. -/
theorem reads_object (title : String) (listed : Nat → Reader α) (hdistinct : fields.names.Nodup)
    (heach : fields.Each (fun _ shape => shape.Recovers depth) value result) (henough : depth ≤ room)
    {members : List (String × Json)} (hstands : fields.Stands value members)
    (hcomplete : fields.Completes result (members.map Prod.fst)) (rest : List Char) :
    Reads (recordBy title listed fields.offer fields.finish fields.blank (room + 1))
      ((Json.object members).render.toList ++ rest) result rest := by
  have hsteps : members.length ≤ (separate true (members.map memberText) ++ '\x7d' :: rest).length + 1 :=
    length_le_remaining (fun _ _ => List.cons_ne_nil _ _) true _
  have hread := reads_fields hdistinct heach henough hstands [] (fun _ _ hmem =>
    nomatch hmem) hsteps true rest
  rw [known_nil, List.append_nil] at hread
  rw [toList_render_object]
  refine reads_record _ hread ?_
  have hsame : ∀ name ∈ fields.names, name ∈ (members.map Prod.fst).reverse ↔
    name ∈ members.map Prod.fst :=
    fun _ _ => List.mem_reverse
  rw [known_congr fields result hsame]
  exact finish_known hcomplete

/-- So is what is written for a record. -/
theorem reads_write (title : String) (listed : Nat → Reader α) (hdistinct : fields.names.Nodup)
    (heach : fields.Each (fun _ shape => shape.Recovers depth) value result) (henough : depth ≤ room)
    (rest : List Char) :
    Reads (recordBy title listed fields.offer fields.finish fields.blank (room + 1))
      ((Json.object (fields.write value)).render.toList ++ rest) result rest := by
  have hcomplete : fields.Completes result ((fields.write value).map Prod.fst) := by
    rw [keys_write]
    exact completes_of_subset (List.Subset.refl _) result
  exact reads_object title listed hdistinct heach henough (stands_write hdistinct value) hcomplete rest

end Fields

namespace Shape

variable {σ α : Type} {fields : Fields σ α} {depth : Nat} {value result : α}

theorem recovers_record (title : String) (hdistinct : fields.names.Nodup)
    (heach : fields.Each (fun _ shape => shape.Recovers depth) value result) :
    (Shape.record title fields).Recovers (depth + 1) value result := by
  intro room rest henough _
  obtain ⟨room, rfl, hdeep⟩ := exists_step henough
  unfold Shape.read Shape.write
  exact Fields.reads_write title _ hdistinct heach hdeep rest

/-- A record that is carried over to a structure. -/
theorem recovers_structure {β : Type} {title : String} {read : α → β} {write : β → α} {whole : β}
    (raw : α)
    (hdistinct : fields.names.Nodup)
    (heach : fields.Each (fun _ shape => shape.Recovers depth) (write whole) raw) :
    ((Shape.record title fields).via read write).Recovers (depth + 1) whole (read raw) :=
  recovers_via raw (recovers_record title hdistinct heach) rfl

end Shape

/-! ## Alternatives -/

namespace Alternatives

/-- An alternative is read from its members, when the key that names it has been read. -/
theorem reads_write {α : Type} {depth room : Nat} (henough : depth ≤ room) (rest : List Char) :
    {alternatives : Alternatives α} → {value result : α} → alternatives.names.Nodup →
    alternatives.Each (fun _ shape => shape.Recovers depth) value result →
    Reads (alternatives.read (alternatives.write value).1 (room + 1))
      ((Json.object (alternatives.write value).2).render.toList ++ rest) result rest
  | .nil, value, _, _, _ => nomatch value
  | .alternative _ title fields _, .inl value, .inl result, _, heach => by
    rw [write, Alternatives.read, if_pos rfl]
    exact (Fields.reads_write title _ heach.1 heach.2 henough rest).map
  | .alternative name _ _ others, .inr value, .inr result, hdistinct, heach => by
    obtain ⟨hforeign, hdistinct⟩ := List.nodup_cons.1 hdistinct
    have hapart : (others.write value).1 ≠ name := by
      rintro rfl
      exact hforeign (name_write_mem others value)
    rw [write, Alternatives.read, if_neg hapart]
    exact (reads_write henough rest hdistinct heach).map

end Alternatives

namespace Shape

variable {α : Type} {alternatives : Alternatives α} {depth : Nat} {value result : α}

/-- An object with one member, whose key names the alternative. -/
theorem recovers_keyed (title : String) (hdistinct : alternatives.names.Nodup)
    (heach : alternatives.Each (fun _ shape => shape.Recovers depth) value result) :
    (Shape.keyed title alternatives).Recovers (depth + 2) value result := by
  intro room rest henough _
  obtain ⟨room, rfl, hdeep⟩ := exists_step henough
  obtain ⟨room, rfl, hdeepest⟩ := exists_step hdeep
  have hchosen (rest : List Char) : Reads (textBy "variant identifier" alternatives.named)
      (quoted (alternatives.write value).1 rest) (alternatives.write value).1 rest :=
    reads_textBy (Alternatives.named_of_mem (Alternatives.name_write_mem alternatives value)) rest
  have hcontent := Alternatives.reads_write hdeepest ('\x7d' :: rest) hdistinct heach
  unfold Shape.read Shape.write
  rw [toList_render_object, List.map_singleton, separate_cons_append, memberText, quoted_append,
    List.cons_append]
  refine .blanks rfl (.skip (.bind (hchosen _) (.bind (reads_colon _) (.bind hcontent ?_))))
  exact .blanks rfl (.skip (.pure result rest))

/-- The members behind the one that names an alternative are set aside. -/
theorem reads_asideBy {key name : String} {tag : Reader String} {room : Nat} (henough : depth ≤ room)
    {members : List (String × Json)} (hothers : ∀ member ∈ members, member.1 ≠ key)
    (hfits : ∀ member ∈ members, Fits depth member.2) {fuel : Nat} (hsteps : members.length < fuel)
    (acc : List (String × Json)) (rest : List Char) :
    Reads (asideBy key tag (Reader.value room) fuel false (some name) acc)
      (separate false (members.map memberText) ++ '\x7d' :: rest)
      (name, acc.reverse ++ rereadMembers members) ('\x7d' :: rest) := by
  induction members generalizing fuel acc with
  | nil =>
    obtain ⟨fuel, rfl, -⟩ := exists_step hsteps
    rw [rereadMembers, List.append_nil]
    exact .bind (reads_key_end false rest) (.pure _ _)
  | cons member members ih =>
    obtain ⟨fuel, rfl, hfurther⟩ := exists_step hsteps
    obtain ⟨other, json⟩ := member
    have hapart : other ≠ key := hothers (other, json) List.mem_cons_self
    have hended : Ended (separate false (members.map memberText) ++ '\x7d' :: rest) :=
      ended_separate _ (ended_brace rest)
    have hread := reads_value (hfits (other, json) List.mem_cons_self) henough hended
    have hmore := ih (fun member hmem => hothers member (List.mem_cons_of_mem _ hmem))
      (fun member hmem => hfits member (List.mem_cons_of_mem _ hmem)) hfurther
      ((other, json.reread) :: acc)
    rw [List.reverse_cons, List.append_assoc, List.singleton_append] at hmore
    rw [rereadMembers, List.map_cons, separate_cons_append, memberText, quoted_append, List.cons_append]
    refine .bind (reads_key false other _) ?_
    simp only [if_neg hapart]
    exact .bind (.within (.bind (reads_colon _) hread)) hmore

/-- An object in which the first member names an alternative: the name, and the others set aside. -/
theorem reads_aside (title : String) {key name : String} {tag : Reader String} {room : Nat}
    (hchosen : ∀ rest, Reads tag (quoted name rest) name rest) (henough : depth ≤ room)
    {members : List (String × Json)} (hothers : ∀ member ∈ members, member.1 ≠ key)
    (hfits : ∀ member ∈ members, Fits depth member.2) (rest : List Char) :
    Reads (aside title key tag (room + 1))
      ((Json.object ((key, .text name) :: members)).render.toList ++ rest)
      (name, .object (rereadMembers members)) rest := by
  have hwritten : ∀ member ∈ members, memberText member ≠ [] := fun _ _ => List.cons_ne_nil _ _
  have hlength := length_le_separate hwritten false ('\x7d' :: rest)
  -- the first member costs a step of its own, and there is one for the closing brace
  have hinside (fuel : Nat) (hsteps : members.length < fuel) :
      Reads (asideBy key tag (Reader.value room) (fuel + 1) true none [])
        (separated true (memberText (key, .text name) ++
          (separate false (members.map memberText) ++ '\x7d' :: rest)))
        (name, rereadMembers members) ('\x7d' :: rest) := by
    rw [memberText, quoted_append, List.cons_append]
    refine .bind (reads_key true key _) ?_
    simp only [↓reduceIte]
    refine .bind (.within (.bind (reads_colon _) ?_)) (reads_asideBy henough hothers hfits hsteps []
      rest)
    rw [toList_render_text]
    exact hchosen _
  rw [toList_render_object, List.map_cons, separate_cons_append]
  refine .placed (.blanks rfl (reads_bracketed ?_ (reads_endObject rest)))
  refine .bind (reads_remaining _) (.bind (hinside _ ?_) (.pure _ _))
  rw [separated, if_pos rfl, List.length_append]
  rw [List.length_cons] at hlength
  omega

/-- The members of an object of which one names the alternative. -/
theorem recovers_tagged (title : String) {key : String} (hdistinct : alternatives.names.Nodup)
    (hothers : key ∉ alternatives.keys)
    (heach : alternatives.Each (fun _ shape => shape.Aside depth) value result) :
    (Shape.tagged title key alternatives).Recovers (depth + 1) value result := by
  intro room rest henough _
  obtain ⟨room, rfl, hdeep⟩ := exists_step henough
  have hchosen (rest : List Char) : Reads (textBy "variant identifier" alternatives.named)
      (quoted (alternatives.write value).1 rest) (alternatives.write value).1 rest :=
    reads_textBy (Alternatives.named_of_mem (Alternatives.name_write_mem alternatives value)) rest
  have hapart (member : String × Json) (hmem : member ∈ (alternatives.write value).2) : member.1 ≠ key :=
    fun hsame => hothers (hsame ▸ Alternatives.key_write_mem alternatives value hmem)
  have hread := reads_aside title hchosen hdeep hapart
    (fun _ hmem => Alternatives.fits_of_mem_write heach hmem) rest
  unfold Shape.read Shape.write
  refine .bind hread ?_
  dsimp only
  rw [Alternatives.readTree_write hdistinct heach]
  exact reads_judged result rest

/-! ## Documents -/

/-- A document is read when its text is. -/
theorem ofText_of_reads {shape : Shape α} {s : String}
    (hread : Reads (shape.read nesting) s.toList result []) : shape.ofText s = .ok result :=
  (reads_document hread).run

/-- What is read when a value has been written. -/
def roundTrip (shape : Shape α) (value : α) : Except Fault α := shape.ofText (shape.write value).render

/-- A document is read back. -/
theorem roundTrip_of_recovers {shape : Shape α} (hrecovers : shape.Recovers depth value result)
    (hroom : depth ≤ nesting) : shape.roundTrip value = .ok result := by
  have hread := hrecovers nesting [] hroom ended_nil
  rw [List.append_nil] at hread
  exact ofText_of_reads hread

end Shape

end InstanceIdentity.Json
