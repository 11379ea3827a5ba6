import InstanceIdentity.Proofs.Json.Skipping
import InstanceIdentity.Proofs.Json.Traversal

/-!
# Objects as lists of members

An object is a list of members, each with its key and the text of its value.  A text has at most one list
of members in front of it: the grammar leaves no choice, because everything in it is also read by a reader,
which makes none.  The fields of a record are gathered from the members one after the other, and what is
read of an object is what is gathered from its members, no more and no less.

Main results:

- Definition `Json.Members`: the members of an object; Theorem `Json.Members.unique`: they are the only
  ones.
- Definition `Json.Gathers`: what is gathered from members.
- Theorems `Json.Reader.ensures_fieldsBy`, `Json.Reader.reads_fieldsBy`: what is read is what is
  gathered.
-/

namespace InstanceIdentity.Json

open Reader (isBlank)

/-! ## Members -/

/-- A member of an object: its key, the text from its value on, and what is left behind the value. -/
structure Member where
  key : String
  value : List Char
  behind : List Char

/-- The members of an object, up to its closing brace. -/
inductive Members : Bool → List Char → List Member → List Char → Prop where
  | done {first : Bool} {text rest : List Char} (blanks : Blanks text ('\x7d' :: rest)) :
      Members first text [] rest
  | member {first : Bool} {text next solid behind rest key : List Char} {members : List Member}
      (parted : Parted first text next) (keyed : Keyed (fun text => Spells text key) next solid)
      (value : Stands .value solid behind) (others : Members false behind members rest) :
      Members first text (⟨String.ofList key, solid, behind⟩ :: members) rest

theorem Keyed.mono {Key Key' : List Char → List Char → Prop}
    (hweaker : ∀ text rest, Key text rest → Key' text rest) {text rest : List Char}
    (h : Keyed Key text rest) : Keyed Key' text rest := by
  obtain ⟨hfront, hkey, hback, hblanks⟩ := h
  exact .colon hfront (hweaker _ _ hkey) hback hblanks

/-- An object whose keys can be read can be passed over. -/
theorem Members.stands {first : Bool} {text rest : List Char} {members : List Member}
    (h : Members first text members rest) : Stands (.members first) text rest := by
  induction h with
  | done hblanks => exact .endMembers hblanks
  | member hparted hkeyed hvalue _ ih =>
    exact .member hparted (hkeyed.mono fun _ _ => Spells.spans) hvalue ih

/-- A member of an object in a longer text. -/
def Member.append (member : Member) (more : List Char) : Member :=
  ⟨member.key, member.value ++ more, member.behind ++ more⟩

/-- What comes behind an object does not matter to its members. -/
theorem Members.append (more : List Char) {first : Bool} {text rest : List Char} {members : List Member}
    (h : Members first text members rest) :
    Members first (text ++ more) (members.map (·.append more)) (rest ++ more) := by
  induction h with
  | done hblanks => exact .done (hblanks.append more)
  | member hparted hkeyed hvalue _ ih =>
    exact .member (hparted.append more) (hkeyed.append more (Spells.append more)) (hvalue.append more) ih

/-! ## There is no choice -/

/-- No blank comes first. -/
def Solid (text : List Char) : Prop := ∀ c ∈ text.head?, isBlank c = false

theorem solid_cons {c : Char} (hsolid : isBlank c = false) (rest : List Char) : Solid (c :: rest) := by
  rintro d ⟨⟩
  exact hsolid

theorem Stands.solid {text rest : List Char} (h : Stands .value text rest) : Solid text := by
  obtain ⟨c, cs, rfl, hsolid, -⟩ := h.start
  exact solid_cons hsolid cs

/-- A reader gets one value from a text. -/
theorem Reader.Reads.unique {α : Type} {reader : Reader α} {before rest rest' : List Char}
    {value value' : α} (hfirst : Reader.Reads reader before value rest)
    (hsecond : Reader.Reads reader before value' rest') : value = value' ∧ rest = rest' := by
  obtain ⟨place, hread⟩ := hfirst ⟨1, 0⟩
  obtain ⟨place', hread'⟩ := hsecond ⟨1, 0⟩
  rw [hread] at hread'
  cases hread'
  exact ⟨rfl, rfl⟩

theorem Blanks.unique {text rest rest' : List Char} (hfirst : Blanks text rest) (hsolid : Solid rest)
    (hsecond : Blanks text rest') (hsolid' : Solid rest') : rest = rest' := by
  induction hfirst with
  | done =>
    cases hsecond with
    | done => rfl
    | more hblank => exact absurd hblank (by simp [hsolid _ rfl])
  | more hblank _ ih =>
    cases hsecond with
    | done => exact absurd hblank (by simp [hsolid' _ rfl])
    | more _ hothers => exact ih hsolid hothers

/-- Blanks lead to one character. -/
theorem Blanks.unique_cons {c d : Char} {text rest rest' : List Char} (hfirst : Blanks text (c :: rest))
    (hsecond : Blanks text (d :: rest')) (hsolid : isBlank c = false) (hsolid' : isBlank d = false) :
    c = d ∧ rest = rest' :=
  List.cons.inj (hfirst.unique (solid_cons hsolid rest) hsecond (solid_cons hsolid' rest'))

theorem Spells.unique {text cs cs' rest rest' : List Char} (hfirst : Spells text cs rest)
    (hsecond : Spells text cs' rest') : cs = cs' ∧ rest = rest' := by
  obtain ⟨hsame, hleft⟩ := (Reader.reads_spelled hfirst).unique (Reader.reads_spelled hsecond)
  exact ⟨String.ofList_injective hsame, hleft⟩

theorem Parted.unique {first : Bool} {text rest rest' : List Char} (h : Parted first text rest)
    (h' : Parted first text rest') : rest = rest' := by
  cases h with
  | first =>
    cases h' with
    | first => rfl
  | comma hblanks =>
    cases h' with
    | comma hblanks' => exact (hblanks.unique_cons hblanks' rfl rfl).2

theorem Keyed.unique {text key key' rest rest' : List Char}
    (h : Keyed (fun text => Spells text key) text rest) (hsolid : Solid rest)
    (h' : Keyed (fun text => Spells text key') text rest') (hsolid' : Solid rest') :
    key = key' ∧ rest = rest' := by
  obtain ⟨hfront, hspells, hback, hblanks⟩ := h
  obtain ⟨hfront', hspells', hback', hblanks'⟩ := h'
  obtain ⟨-, rfl⟩ := hfront.unique_cons hfront' rfl rfl
  obtain ⟨rfl, rfl⟩ := hspells.unique hspells'
  obtain ⟨-, rfl⟩ := hback.unique_cons hback' rfl rfl
  exact ⟨rfl, hblanks.unique hsolid hblanks' hsolid'⟩

theorem Stands.unique {text rest rest' : List Char} (h : Stands .value text rest) (hended : Ended rest)
    (h' : Stands .value text rest') (hended' : Ended rest') : rest = rest' :=
  ((Reader.reads_skipValue_behind (.done text) h hended).unique
    (Reader.reads_skipValue_behind (.done text) h' hended')).2

/-- Neither the comma in front of a member nor its key is the end of the object. -/
theorem Members.not_closed {Key : List Char → List Char → Prop} {first : Bool}
    {text next solid rest : List Char} (hclosed : Blanks text ('\x7d' :: rest))
    (hparted : Parted first text next) (hkeyed : Keyed Key next solid) : False := by
  cases hparted with
  | first =>
    obtain ⟨hfront, -, -, -⟩ := hkeyed
    exact absurd (hclosed.unique_cons hfront rfl rfl).1 (by decide)
  | comma hblanks => exact absurd (hclosed.unique_cons hblanks rfl rfl).1 (by decide)

/-- A text has one list of members in front of it. -/
theorem Members.unique {first : Bool} {text rest rest' : List Char} {members members' : List Member}
    (h : Members first text members rest) (h' : Members first text members' rest') :
    members = members' ∧ rest = rest' := by
  induction h generalizing members' with
  | done hblanks =>
    cases h' with
    | done hblanks' => exact ⟨rfl, (hblanks.unique_cons hblanks' rfl rfl).2⟩
    | member hparted hkeyed => exact (not_closed hblanks hparted hkeyed).elim
  | member hparted hkeyed hvalue hothers ih =>
    cases h' with
    | done hblanks => exact (not_closed hblanks hparted hkeyed).elim
    | member hparted' hkeyed' hvalue' hothers' =>
      obtain rfl := hparted.unique hparted'
      obtain ⟨rfl, rfl⟩ := hkeyed.unique hvalue.solid hkeyed' hvalue'.solid
      obtain rfl := hvalue.unique hothers.stands.ended_members hvalue' hothers'.stands.ended_members
      obtain ⟨rfl, rfl⟩ := ih hothers'
      exact ⟨rfl, rfl⟩

/-! ## What is gathered from members -/

variable {σ : Type} {Taken : σ → Member → σ → Prop}

/-- What is known once the members have come by, of which each adds what a relation says. -/
inductive Gathers (Taken : σ → Member → σ → Prop) : σ → List Member → σ → Prop where
  | done (slots : σ) : Gathers Taken slots [] slots
  | member {slots slots' known : σ} {member : Member} {members : List Member}
      (taken : Taken slots member slots') (others : Gathers Taken slots' members known) :
      Gathers Taken slots (member :: members) known

namespace Reader

variable {offer : String → σ → Option (Reader σ)} {first : Bool} {before text rest : List Char}
  {members : List Member} {slots known : σ} {fuel : Nat}

/-- The fields of a record take from a member what a relation says; a member that no field takes adds
nothing. -/
structure Follows (offer : String → σ → Option (Reader σ)) (Taken : σ → Member → σ → Prop) :
    Prop where
  ensures {key : String} {slots : σ} {taken : Reader σ} (offered : offer key slots = some taken)
    (closed : List Char) : Ensures taken closed fun slots' behind =>
      ∃ between solid, Blanks closed (':' :: between) ∧ Blanks between solid ∧
        Stands .value solid behind ∧ Taken slots ⟨key, solid, behind⟩ slots'
  reads {key : String} {slots slots' : σ} {taken : Reader σ} (offered : offer key slots = some taken)
    {closed between solid behind : List Char} (colon : Blanks closed (':' :: between))
    (blanks : Blanks between solid) (ended : Ended behind)
    (takes : Taken slots ⟨key, solid, behind⟩ slots') : Reads taken closed slots' behind
  left {key : String} {slots slots' : σ} (refused : offer key slots = none) {solid behind : List Char} :
    Taken slots ⟨key, solid, behind⟩ slots' ↔ slots' = slots

theorem ensures_hasKey :
    Ensures (hasKey first) before fun more rest =>
      if more then ∃ next opened, Parted first before next ∧ Blanks next rest ∧ rest = '"' :: opened
      else Blanks before rest ∧ ∃ after, rest = '\x7d' :: after := by
  unfold hasKey
  refine .blanks fun between hblanks => ?_
  split
  · exact .failAhead
  · rename_i hstart
    exact .pure ⟨hblanks, exists_cons_of_head? hstart⟩
  · rename_i c _ hstart
    obtain ⟨text, rfl⟩ := exists_cons_of_head? hstart
    split
    · rename_i hisFirst
      subst hisFirst
      split
      · rename_i hquote
        subst hquote
        exact .pure ⟨_, text, .first _, hblanks, rfl⟩
      · exact .failAhead
    · rename_i hlater
      rw [Bool.not_eq_true] at hlater
      subst hlater
      split
      · rename_i hcomma
        subst hcomma
        refine .skip (.blanks fun opening hfront => ?_)
        split
        · rename_i hquote
          obtain ⟨opened, rfl⟩ := exists_cons_of_head? hquote
          exact .pure ⟨_, opened, .comma hblanks, hfront, rfl⟩
        · exact .failAhead
        · exact .failAhead
        · exact .failAhead
      · exact .failAhead

/-- The next key of an object, or its end. -/
theorem ensures_key :
    Ensures (key? first) before fun key rest =>
      match key with
      | none => Blanks before rest ∧ ∃ after, rest = '\x7d' :: after
      | some key => ∃ next opened cs, Parted first before next ∧ Blanks next ('"' :: opened) ∧
          Spells opened cs rest ∧ key = String.ofList cs := by
  unfold key?
  refine .bind_of ensures_hasKey ?_
  intro more between hfound
  cases more with
  | false => exact .pure hfound
  | true =>
    obtain ⟨next, opened, hparted, hfront, rfl⟩ := hfound
    refine .skip (.bind_of ensures_text ?_)
    rintro _ rest ⟨cs, hspells, rfl⟩
    exact .pure ⟨next, opened, cs, hparted, hfront, hspells, rfl⟩

/-- A member that is passed over has a value behind its colon. -/
theorem ensures_skipMember :
    Ensures (do colon; skipValue) before fun _ behind =>
      ∃ between solid, Blanks before (':' :: between) ∧ Blanks between solid ∧
        Stands .value solid behind := by
  refine .bind_of ensures_colon ?_
  intro _ between hback
  refine ensures_skipValue.mono ?_
  rintro _ behind ⟨solid, hblanks, hvalue⟩
  exact ⟨between, solid, hback, hblanks, hvalue⟩

/-- What is read of an object is gathered from its members. -/
theorem ensures_fieldsBy (hfollows : Follows offer Taken) (fuel : Nat) (first : Bool) (slots : σ) :
    Ensures (fieldsBy offer fuel first slots) before fun known rest =>
      ∃ members, Gathers Taken slots members known ∧
        ∀ after, Blanks rest ('\x7d' :: after) → Members first before members after := by
  induction fuel generalizing before first slots with
  | zero => exact .pure ⟨[], .done slots, fun after => .done⟩
  | succ fuel ih =>
    unfold fieldsBy
    refine .bind_of ensures_key ?_
    rintro (_ | key) closed hfound
    · exact .pure ⟨[], .done slots, fun after hblanks => .done (hfound.1.trans hblanks)⟩
    · obtain ⟨next, opened, cs, hparted, hfront, hspells, rfl⟩ := hfound
      dsimp only
      split
      · rename_i taken hoffered
        refine .bind_of (hfollows.ensures hoffered closed) ?_
        rintro slots' behind ⟨between, solid, hback, hblanks, hvalue, htakes⟩
        refine (ih false slots').mono ?_
        rintro known rest ⟨members, hgathers, hothers⟩
        refine ⟨⟨_, solid, behind⟩ :: members, .member htakes hgathers, ?_⟩
        intro after hclosing
        exact .member hparted (.colon hfront hspells hback hblanks) hvalue (hothers after hclosing)
      · rename_i hrefused
        refine .bind_of (.within ensures_skipMember) ?_
        rintro _ behind ⟨between, solid, hback, hblanks, hvalue⟩
        refine (ih false slots).mono ?_
        rintro known rest ⟨members, hgathers, hothers⟩
        refine ⟨⟨_, solid, behind⟩ :: members, .member ((hfollows.left hrefused).2 rfl) hgathers, ?_⟩
        intro after hclosing
        exact .member hparted (.colon hfront hspells hback hblanks) hvalue (hothers after hclosing)

/-- What is gathered from the members of an object is read. -/
theorem reads_fieldsBy (hfollows : Follows offer Taken) (hobject : Members first text members rest)
    (hgathers : Gathers Taken slots members known) (henough : text.length < fuel) :
    Reads (fieldsBy offer fuel first slots) text known ('\x7d' :: rest) := by
  induction hobject generalizing slots fuel with
  | done hblanks =>
    obtain ⟨fuel, rfl, -⟩ := exists_step henough
    cases hgathers
    exact .bind (reads_key_close hblanks) (.pure _ _)
  | @member first text next solid behind rest key members hparted hkeyed hvalue hothers ih =>
    obtain ⟨fuel, rfl, hsteps⟩ := exists_step henough
    cases hgathers with | member htaken hfurther => ?_
    have hended := hothers.stands.ended_members
    have hshorter : behind.length < fuel := by
      have := hparted.length_le
      have := hkeyed.length_lt (Spans.length_lt ∘ Spells.spans)
      have := hvalue.length_lt
      omega
    obtain ⟨hfront, hspells, hback, hblanks⟩ := hkeyed
    unfold fieldsBy
    refine .bind (reads_key_of hparted hfront hspells) ?_
    dsimp only
    split
    · rename_i hoffered
      exact .bind (hfollows.reads hoffered hback hblanks hended htaken) (ih hfurther hshorter)
    · rename_i hrefused
      obtain rfl := (hfollows.left hrefused).1 htaken
      have hskipped := reads_skipValue_behind hblanks hvalue hended
      exact .bind (.within (.bind (reads_colon_behind hback) hskipped)) (ih hfurther hshorter)

end Reader

end InstanceIdentity.Json
