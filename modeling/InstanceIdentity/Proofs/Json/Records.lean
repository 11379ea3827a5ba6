import InstanceIdentity.Proofs.Json.Objects

/-!
# Records in their grammar

A record stands in a document as an object or as a list.  When the values of each of its fields are those
of a grammar, then so are the records: an object has exactly one member for each field that is known, and
a list has the fields in their order.

Main results:

- Definitions `Json.FieldTakes`, `Json.Fills`: how the members of an object fill the fields of a record.
- Theorem `Json.gathers_field`: a field is filled by the one member of its name.
- Structure `Json.Reader.Recognizes`: a reader reads the values of a grammar; Theorem
  `Json.Reader.Follows.field`: the fields of a record follow from what each of them recognizes.
- Theorems `Json.Reader.ensures_recordBy`, `Json.Reader.reads_recordBy_object`,
  `Json.Reader.reads_recordBy_list`: records.
-/

namespace InstanceIdentity.Json

variable {α σ : Type} {Grammar : List Char → α → List Char → Prop} {Taken : σ → Member → σ → Prop}
  {name : String} {members : List Member}

/-! ## Fields and members -/

/-- A field that nothing is known of takes the member of its name, whose value has a certain grammar.  A
member of another name is left to the other fields. -/
inductive FieldTakes (name : String) (Grammar : List Char → α → List Char → Prop)
    (Taken : σ → Member → σ → Prop) : Option α × σ → Member → Option α × σ → Prop where
  | own {member : Member} {value : α} {others : σ} (named : member.key = name)
      (read : Grammar member.value value member.behind) :
      FieldTakes name Grammar Taken (none, others) member (some value, others)
  | further {member : Member} {slot : Option α} {others others' : σ} (apart : member.key ≠ name)
      (taken : Taken others member others') :
      FieldTakes name Grammar Taken (slot, others) member (slot, others')

/-- A field is filled by the one member that there is, or was filled before. -/
inductive Fills (Grammar : List Char → α → List Char → Prop) : Option α → List Member → Option α →
    Prop where
  | done (slot : Option α) : Fills Grammar slot [] slot
  | own {member : Member} {value : α} (read : Grammar member.value value member.behind) :
      Fills Grammar none [member] (some value)

theorem fills_some_iff {value : α} : Fills Grammar none members (some value) ↔
    ∃ member, members = [member] ∧ Grammar member.value value member.behind := by
  constructor
  · intro hfilled
    cases hfilled with
    | own hread => exact ⟨_, rfl, hread⟩
  · rintro ⟨member, rfl, hread⟩
    exact .own hread

/-- A field is filled by the member of its name, and the others gather from the other members. -/
theorem gathers_field {slot slot' : Option α} {others others' : σ} :
    Gathers (FieldTakes name Grammar Taken) (slot, others) members (slot', others') ↔
      Fills Grammar slot (members.filter (·.key = name)) slot' ∧
        Gathers Taken others (members.filter (·.key ≠ name)) others' := by
  induction members generalizing slot others with
  | nil =>
    constructor
    · intro hgathers
      cases hgathers with
      | done => exact ⟨.done _, .done _⟩
    · rintro ⟨hfilled, hgathers⟩
      cases hfilled
      cases hgathers
      exact .done _
  | cons member members ih =>
    by_cases hnamed : member.key = name
    · simp only [List.filter_cons, hnamed, decide_true, ↓reduceIte, ne_eq, not_true_eq_false,
        decide_false, Bool.false_eq_true]
      constructor
      · intro hgathers
        cases hgathers with | member htaken hfurther => ?_
        cases htaken with
        | further hapart => exact absurd hnamed hapart
        | own _ hread =>
          obtain ⟨hfilled, hgathers⟩ := ih.1 hfurther
          generalize members.filter (·.key = name) = own at hfilled
          cases hfilled with
          | done => exact ⟨.own hread, hgathers⟩
      · rintro ⟨hfilled, hgathers⟩
        generalize howned : members.filter (·.key = name) = own at hfilled
        cases hfilled with
        | own hread =>
          refine .member (.own hnamed hread) (ih.2 ⟨?_, hgathers⟩)
          rw [howned]
          exact .done _
    · simp only [List.filter_cons, hnamed, decide_false, Bool.false_eq_true, ↓reduceIte, ne_eq,
        not_false_eq_true, decide_true]
      constructor
      · intro hgathers
        cases hgathers with | member htaken hfurther => ?_
        cases htaken with
        | own hnamed' => exact absurd hnamed' hnamed
        | further _ htaken =>
          obtain ⟨hfilled, hgathers⟩ := ih.1 hfurther
          exact ⟨hfilled, .member htaken hgathers⟩
      · rintro ⟨hfilled, hgathers⟩
        cases hgathers with | member htaken hfurther => ?_
        exact .member (.further hnamed htaken) (ih.2 ⟨hfilled, hfurther⟩)

namespace Reader

variable {β : Type} {absence : Absence α} {inner : Shape α} {others : Fields σ β} {room : Nat}
  {before text rest : List Char}

/-! ## Fields that recognize their values -/

/-- A reader of values reads those of a certain grammar. -/
structure Recognizes {α : Type} (reader : Reader α) (Grammar : List Char → α → List Char → Prop) :
    Prop where
  stands {text rest : List Char} {value : α} (h : Grammar text value rest) : Stands .value text rest
  ensures (before : List Char) : Ensures reader before fun value rest =>
    ∃ text, Blanks before text ∧ Grammar text value rest
  reads {before text rest : List Char} {value : α} (blanks : Blanks before text)
    (h : Grammar text value rest) (ended : Ended rest) : Reads reader before value rest

theorem follows_done (room : Nat) : Follows (Fields.done.offer room) fun _ _ _ => True where
  ensures hoffered := by
    rw [Fields.offer] at hoffered
    cases hoffered
  reads hoffered := by
    rw [Fields.offer] at hoffered
    cases hoffered
  left _ := by simp

/-- The fields of a record follow from what each of them recognizes. -/
theorem Follows.field (hrecognizes : Recognizes (inner.read room) Grammar)
    (hfollows : Follows (others.offer room) Taken) :
    Follows ((Fields.field name absence inner others).offer room) (FieldTakes name Grammar Taken) where
  ensures {key slots taken} hoffered closed := by
    obtain ⟨slot, known⟩ := slots
    rw [Fields.offer] at hoffered
    split at hoffered
    · rename_i hnamed
      cases hoffered
      split
      · exact .bind .failUnplaced
      · rename_i hblank
        refine .bind (.pure (.within (.bind_of ensures_colon ?_)))
        intro _ between hback
        refine .bind_of (hrecognizes.ensures between) ?_
        rintro value behind ⟨solid, hblanks, hread⟩
        rw [Bool.not_eq_true, Option.isSome_eq_false_iff, Option.isNone_iff_eq_none] at hblank
        subst hblank
        exact .pure ⟨between, solid, hback, hblanks, hrecognizes.stands hread, .own hnamed hread⟩
    · rename_i hapart
      obtain ⟨taken, hleft, rfl⟩ := Option.map_eq_some_iff.1 hoffered
      refine .bind_of (hfollows.ensures hleft closed) ?_
      rintro known' behind ⟨between, solid, hback, hblanks, hvalue, htakes⟩
      exact .pure ⟨between, solid, hback, hblanks, hvalue, .further hapart htakes⟩
  reads {key slots slots' taken} hoffered closed between solid behind hcolon hblanks hended htakes := by
    obtain ⟨slot, known⟩ := slots
    rw [Fields.offer] at hoffered
    cases htakes with
    | own hnamed hread =>
      rw [if_pos hnamed] at hoffered
      cases hoffered
      simp only [Option.isSome_none, Bool.false_eq_true, ↓reduceIte]
      have hvalue := hrecognizes.reads hblanks hread hended
      exact .within (.bind (reads_colon_behind hcolon) (.bind hvalue (.pure _ behind)))
    | further hapart htakes =>
      rw [if_neg hapart] at hoffered
      obtain ⟨taken, hleft, rfl⟩ := Option.map_eq_some_iff.1 hoffered
      exact .bind (hfollows.reads hleft hcolon hblanks hended htakes) (.pure _ behind)
  left {key slots slots'} hrefused solid behind := by
    obtain ⟨slot, known⟩ := slots
    rw [Fields.offer] at hrefused
    by_cases hnamed : key = name
    · rw [if_pos hnamed] at hrefused
      cases hrefused
    · rw [if_neg hnamed, Option.map_eq_none_iff] at hrefused
      constructor
      · intro htakes
        cases htakes with
        | own hsame => exact absurd hsame hnamed
        | further _ htakes => rw [(hfollows.left hrefused).1 htakes]
      · rintro rfl
        exact .further hnamed ((hfollows.left hrefused).2 rfl)

/-! ## Fields in a list -/

/-- Whether a list goes on. -/
theorem ensures_hasItem (first : Bool) :
    Ensures (hasItem first) before fun more rest =>
      more = true → ∃ next, Parted first before next ∧ Blanks next rest := by
  unfold hasItem
  refine .blanks fun between hblanks => ?_
  split
  · exact .failAhead
  · exact .pure (by simp)
  · rename_i c _ hstart
    obtain ⟨text, rfl⟩ := exists_cons_of_head? hstart
    split
    · rename_i hisFirst
      subst hisFirst
      exact .pure fun _ => ⟨_, .first _, hblanks⟩
    · rename_i hlater
      rw [Bool.not_eq_true] at hlater
      subst hlater
      split
      · rename_i hcomma
        subst hcomma
        refine .skip (.blanks fun solid hfront => ?_)
        split
        · exact .failAhead
        · exact .pure fun _ => ⟨_, .comma hblanks, hfront⟩
        · exact .failAhead
      · exact .failAhead

/-- The next item of a list is a value that the reader recognizes. -/
theorem ensures_item {reader : Reader α} (hrecognizes : Recognizes reader Grammar) (first : Bool) :
    Ensures (do if ← hasItem first then return some (← reader) else return none) before
      fun item behind => ∀ value, item = some value → ∃ next text, Parted first before next ∧
        Blanks next text ∧ Grammar text value behind := by
  refine .bind_of (ensures_hasItem first) ?_
  intro more between hfound
  split
  · rename_i hgoes
    obtain ⟨next, hparted, hfront⟩ := hfound hgoes
    refine .bind_of (hrecognizes.ensures between) ?_
    rintro value behind ⟨text, hblanks, hread⟩
    refine .pure ?_
    rintro _ ⟨⟩
    exact ⟨next, text, hparted, hfront.trans hblanks, hread⟩
  · exact .pure (by simp)

/-- A field that must be given is the next item of a list. -/
theorem ensures_readListed_field {title : String} {taken : Nat} {post : α × β → List Char → Prop}
    (hrecognizes : Recognizes (inner.read room) Grammar)
    (hfurther : ∀ value next text behind, Parted (decide (taken = 0)) before next → Blanks next text →
      Grammar text value behind →
      Ensures (others.readListed title room (taken + 1)) behind fun known => post (value, known)) :
    Ensures ((Fields.field name .refused inner others).readListed title room taken) before post := by
  rw [Fields.readListed]
  refine .bind_of (.within (ensures_item hrecognizes _)) ?_
  intro item behind hfound
  cases item with
  | none => exact .failUnplaced
  | some value =>
    obtain ⟨next, text, hparted, hblanks, hread⟩ := hfound value rfl
    exact .bind_of (hfurther value next text behind hparted hblanks hread) fun known rest hholds =>
      .pure hholds

theorem reads_readListed_field {title : String} {taken : Nat} {next behind : List Char} {value : α}
    {known : β} (hrecognizes : Recognizes (inner.read room) Grammar)
    (hparted : Parted (decide (taken = 0)) before next) (hblanks : Blanks next text)
    (hread : Grammar text value behind) (hended : Ended behind)
    (hfurther : Reads (others.readListed title room (taken + 1)) behind known rest) :
    Reads ((Fields.field name .refused inner others).readListed title room taken) before (value, known)
      rest := by
  have hitem := hrecognizes.reads (.done text) hread hended
  obtain ⟨c, cs, rfl, hsolid, hinside⟩ := (hrecognizes.stands hread).start
  rw [Fields.readListed]
  have hpresent := reads_hasItem_of hparted hblanks hsolid hinside
  exact .bind (.within (.bind hpresent (.bind hitem (.pure (some value) behind))))
    (.bind hfurther (.pure _ rest))

/-! ## Records -/

section Records

variable {title : String} {listed : Nat → Reader α}
  {offers : Nat → String → σ → Option (Reader σ)} {finish : σ → Except Cause α} {blank : σ} {room : Nat}
  {value : α}

theorem ensures_endArray : Ensures endArray before fun _ rest => Blanks before (']' :: rest) := by
  unfold endArray
  refine .blanks fun between hblanks => ?_
  split
  · rename_i hclosing
    obtain ⟨rest, rfl⟩ := exists_cons_of_head? hclosing
    exact .skip_last hblanks
  · rename_i hcomma
    obtain ⟨rest, rfl⟩ := exists_cons_of_head? hcomma
    refine .skip (.blanks fun _ _ => ?_)
    split <;> exact .failAhead
  · exact .failAhead
  · exact .failAhead

theorem ensures_endObject : Ensures endObject before fun _ rest => Blanks before ('\x7d' :: rest) := by
  unfold endObject
  refine .blanks fun between hblanks => ?_
  split
  · rename_i hclosing
    obtain ⟨rest, rfl⟩ := exists_cons_of_head? hclosing
    exact .skip_last hblanks
  · exact .failAhead
  · exact .failAhead
  · exact .failAhead

/-- A container is read with its brackets. -/
theorem ensures_bracketed {content : Nat → Reader α} {close : Reader Unit} {post : α → List Char → Prop}
    {c : Char} (hinside : ∀ room, Ensures (content room) text fun value rest =>
      Ensures close rest fun _ => post value) :
    Ensures (bracketed room content close) (c :: text) post := by
  unfold bracketed
  cases room with
  | zero => exact .failAhead
  | succ room => exact .skip (.enclosed (hinside room))

/-- What is read of a record is listed, or gathered from the members of an object. -/
theorem ensures_recordBy {Listed : List Char → α → List Char → Prop}
    (hlist : ∀ room text, Ensures (listed room) text fun value rest =>
      ∀ after, Blanks rest (']' :: after) → Listed text value after)
    (hfollows : ∀ room, Follows (offers room) Taken) :
    Ensures (recordBy title listed offers finish blank room) before fun value rest =>
      ∃ text, (Blanks before ('[' :: text) ∧ Listed text value rest) ∨
        (Blanks before ('\x7b' :: text) ∧ ∃ members known, Members true text members rest ∧
          Gathers Taken blank members known ∧ finish known = .ok value) := by
  unfold recordBy
  refine .placed (.blanks fun between hblanks => ?_)
  split
  · rename_i hopening
    obtain ⟨text, rfl⟩ := exists_cons_of_head? hopening
    refine ensures_bracketed fun room => (hlist room text).mono ?_
    intro value rest hends
    exact ensures_endArray.mono fun _ after hclosed => ⟨text, .inl ⟨hblanks, hends after hclosed⟩⟩
  · rename_i hopening
    obtain ⟨text, rfl⟩ := exists_cons_of_head? hopening
    refine ensures_bracketed fun room => .remaining (.bind_of
      (ensures_fieldsBy (hfollows room) _ _ _) ?_)
    rintro known rest ⟨members, hgathers, hobject⟩
    refine ensures_judged fun value hfinished => ensures_endObject.mono fun _ after hclosed => ?_
    exact ⟨text, .inr ⟨hblanks, members, known, hobject after hclosed, hgathers, hfinished⟩⟩
  · exact ensures_mismatched
  · exact .failAhead

/-- A record that is listed is read. -/
theorem reads_recordBy_list {behind : List Char} (hblanks : Blanks before ('[' :: text))
    (hread : Reads (listed room) text value behind) (hclosed : Blanks behind (']' :: rest)) :
    Reads (recordBy title listed offers finish blank (room + 1)) before value rest :=
  .placed (.blanksTo hblanks rfl (.skip (.enclosed hread (.blanksTo hclosed rfl (reads_skip _ rest)))))

/-- A record that is gathered from the members of an object is read. -/
theorem reads_recordBy_object (hfollows : Follows (offers room) Taken)
    (hblanks : Blanks before ('\x7b' :: text)) (hobject : Members true text members rest)
    (hgathers : Gathers Taken blank members known) (hfinished : finish known = .ok value) :
    Reads (recordBy title listed offers finish blank (room + 1)) before value rest := by
  have hfields := reads_fieldsBy hfollows hobject hgathers (Nat.lt_succ_self text.length)
  refine .placed (.blanksTo hblanks rfl (.skip (.enclosed (.remaining (.bind hfields ?_))
    (reads_endObject rest))))
  rw [hfinished]
  exact .pure value _

end Records

end Reader

end InstanceIdentity.Json
