import InstanceIdentity.Proofs.Json.Inversion
import InstanceIdentity.Proofs.Json.Values

/-!
# Values that are too deep

A value with more containers in each other than there is room for is not read: the first container for
which no room is left is refused, whatever comes before it in the text.

Main results:

- Theorem `Json.Reader.fails_value`: the reader of a value refuses one that is too deep.
- Theorem `Json.ofText_render_iff`: the documents that are read back are those that fit.
-/

namespace InstanceIdentity.Json

namespace Reader

variable {α β : Type} {reader : Reader α} {andThen : α → Reader β} {before between rest : List Char}
  {depth room : Nat}

/-- Nothing is got from a text. -/
def Fails (reader : Reader α) (before : List Char) : Prop := Ensures reader before fun _ _ => False

/-! ## Rules -/

/-- Behind a step that is known the text is known as well. -/
theorem Ensures.after {value : α} {post : β → List Char → Prop}
    (hread : Reads reader before value between) (h : Ensures (andThen value) between post) :
    Ensures (reader >>= andThen) before post := by
  refine .bind fun place found cursor hgot => ?_
  obtain ⟨place', hknown⟩ := hread place
  cases hgot.symm.trans hknown
  exact h

/-- What comes behind a step that fails does not matter. -/
theorem Fails.bind (hfails : Fails reader before) : Fails (reader >>= andThen) before :=
  .bind_of hfails fun _ _ hnothing => hnothing.elim

/-- Between a character that is no blank and what comes before it there are no blanks. -/
theorem Ensures.solid {andThen : Option Char → Reader β} {post : β → List Char → Prop} {c : Char}
    (hsolid : isBlank c = false) (h : Ensures (andThen (some c)) (c :: rest) post) :
    Ensures (Reader.blanks >>= andThen) (c :: rest) post := by
  refine Ensures.blanks fun between hpassed => ?_
  cases hpassed with
  | done => exact h
  | more hblank => exact absurd hblank (by simp [hsolid])

/-- A container is not read without its content. -/
theorem Fails.enclosed {content : Reader α} {close : Reader Unit} (hfails : Fails content before) :
    Fails (enclosed content close) before :=
  Ensures.enclosed (hfails.mono fun _ _ hnothing => hnothing.elim)

/-! ## Containers -/

/-- Items are not read when one of them is not: those in front of it are. -/
theorem fails_items {items : List Json} (hdeep : ∃ item ∈ items, ¬ Fits room item)
    (hfails : ∀ item ∈ items, ¬ Fits room item → ∀ rest, Fails (value room) (item.render.toList ++ rest))
    {fuel : Nat} (henough : items.length ≤ fuel) (position : Nat) (acc : List Json) (rest : List Char) :
    Fails (itemsBy (value room) fuel position acc)
      (separate (position = 0) (items.map fun item => item.render.toList) ++ ']' :: rest) := by
  induction items generalizing fuel position acc with
  | nil =>
    obtain ⟨_, ⟨⟩, _⟩ := hdeep
  | cons item items ih =>
    obtain ⟨fuel, rfl, hsteps⟩ := exists_step henough
    obtain ⟨c, cs, hparts, hstart⟩ := exists_render_cons item
    have hpresent := reads_hasItem (decide (position = 0)) hstart.solid hstart.item
      (cs ++ (separate false (items.map fun item => item.render.toList) ++ ']' :: rest))
    rw [← List.cons_append, ← hparts] at hpresent
    rw [List.map_cons, separate_cons_append]
    by_cases hfits : Fits room item
    · have hfurther : ∃ other ∈ items, ¬ Fits room other := by
        obtain ⟨other, hmem, hunfit⟩ := hdeep
        rcases List.mem_cons.1 hmem with rfl | hmem
        · exact absurd hfits hunfit
        · exact ⟨other, hmem, hunfit⟩
      have hread := reads_value hfits (Nat.le_refl room)
        (ended_separate (items.map fun item => item.render.toList) (ended_bracket rest))
      refine .after (.within (.bind hpresent (.bind hread (.pure _ _)))) ?_
      exact ih hfurther (fun other hmem => hfails other (List.mem_cons_of_mem _ hmem)) hsteps
        (position + 1) _
    · have hrefused := hfails item List.mem_cons_self hfits
        (separate false (items.map fun item => item.render.toList) ++ ']' :: rest)
      exact Fails.bind (.within (.after hpresent hrefused.bind))

/-- Members are not read when the value of one of them is not. -/
theorem fails_members {members : List (String × Json)} (hdeep : ∃ member ∈ members, ¬ Fits room member.2)
    (hfails : ∀ member ∈ members, ¬ Fits room member.2 →
      ∀ rest, Fails (value room) (member.2.render.toList ++ rest))
    {fuel : Nat} (henough : members.length ≤ fuel) (first : Bool) (acc : List (String × Json))
    (rest : List Char) :
    Fails (membersBy (value room) fuel first acc)
      (separate first (members.map memberText) ++ '\x7d' :: rest) := by
  induction members generalizing fuel first acc with
  | nil =>
    obtain ⟨_, ⟨⟩, _⟩ := hdeep
  | cons member members ih =>
    obtain ⟨fuel, rfl, hsteps⟩ := exists_step henough
    rw [List.map_cons, separate_cons_append, memberText, quoted_append, List.cons_append]
    refine .after (reads_key first member.1 _) ?_
    by_cases hfits : Fits room member.2
    · have hfurther : ∃ other ∈ members, ¬ Fits room other.2 := by
        obtain ⟨other, hmem, hunfit⟩ := hdeep
        rcases List.mem_cons.1 hmem with rfl | hmem
        · exact absurd hfits hunfit
        · exact ⟨other, hmem, hunfit⟩
      have hread := reads_value hfits (Nat.le_refl room)
        (ended_separate (members.map memberText) (ended_brace rest))
      refine .after (.within (.bind (reads_colon _) hread)) ?_
      exact ih hfurther (fun other hmem => hfails other (List.mem_cons_of_mem _ hmem)) hsteps false _
    · have hrefused := hfails member List.mem_cons_self hfits
        (separate false (members.map memberText) ++ '\x7d' :: rest)
      exact Fails.bind (.within (.after (reads_colon _) hrefused))

/-! ## Values -/

/-- A value that does not fit is refused. -/
theorem fails_value {json : Json} (hfits : Fits depth json) (hdeep : ¬ Fits room json)
    (rest : List Char) : Fails (value room) (json.render.toList ++ rest) := by
  induction hfits generalizing room rest with
  | null => exact absurd (.null room) hdeep
  | boolean depth value => exact absurd (.boolean room value) hdeep
  | integer depth hlow hhigh => exact absurd (.integer room hlow hhigh) hdeep
  | float depth hfinite => exact absurd (.float room hfinite) hdeep
  | text depth s => exact absurd (.text room s) hdeep
  | @array depth items heach ih =>
    rw [toList_render_array]
    cases room with
    | zero =>
      refine Ensures.solid rfl ?_
      exact .failAhead
    | succ room =>
      have hsome : ∃ item ∈ items, ¬ Fits room item := by
        by_contra hall
        push Not at hall
        exact hdeep (.array hall)
      have hwritten : ∀ item ∈ items, item.render.toList ≠ [] := by
        intro item _
        obtain ⟨c, cs, hparts, -⟩ := exists_render_cons item
        rw [hparts]
        exact List.cons_ne_nil c cs
      have hsteps := length_le_remaining hwritten true (']' :: rest)
      refine Ensures.solid rfl ?_
      refine Ensures.skip (Fails.enclosed ?_)
      refine Ensures.remaining ?_
      refine Fails.bind ?_
      exact fails_items hsome (fun item hmem hunfit => ih item hmem hunfit) hsteps 0 [] rest
  | @object depth members heach ih =>
    rw [toList_render_object]
    cases room with
    | zero =>
      refine Ensures.solid rfl ?_
      exact .failAhead
    | succ room =>
      have hsome : ∃ member ∈ members, ¬ Fits room member.2 := by
        by_contra hall
        push Not at hall
        exact hdeep (.object fun member hmem => hall member hmem)
      have hwritten : ∀ member ∈ members, memberText member ≠ [] := fun _ _ => List.cons_ne_nil _ _
      have hsteps := length_le_remaining hwritten true ('\x7d' :: rest)
      refine Ensures.solid rfl ?_
      refine Ensures.skip (Fails.enclosed ?_)
      refine Ensures.remaining ?_
      refine Fails.bind ?_
      exact fails_members hsome (fun member hmem hunfit => ih member hmem hunfit) hsteps true [] rest

end Reader

/-- Of the documents that can be written, those are read back that fit. -/
theorem ofText_render_iff {depth : Nat} {json : Json} (hfits : Fits depth json) :
    (∃ value, ofText json.render = .ok value) ↔ Fits Reader.nesting json := by
  constructor
  · rintro ⟨value, hread⟩
    by_contra hdeep
    have hfails := Reader.fails_value hfits hdeep []
    rw [List.append_nil] at hfails
    unfold ofText at hread
    rcases hrun : (Reader.document (Reader.value Reader.nesting)).run json.render with fault | found
    · rw [hrun] at hread
      cases hread
    · obtain ⟨_, hnothing⟩ := Reader.Ensures.run (Reader.Fails.bind hfails) hrun
      exact hnothing
  · exact fun henough => ⟨_, ofText_render henough⟩

/-! ## Nested arrays -/

/-- An empty array inside a number of others. -/
def nested : Nat → Json
  | 0 => .array []
  | n + 1 => .array [nested n]

theorem fits_nested_iff {n depth : Nat} : Fits depth (nested n) ↔ n < depth := by
  induction n generalizing depth with
  | zero =>
    constructor
    · rintro ⟨⟩
      exact Nat.succ_pos _
    · intro hsome
      obtain ⟨depth, rfl⟩ := Nat.exists_eq_add_one.2 hsome
      exact .array nofun
  | succ n ih =>
    constructor
    · rintro (_ | _ | _ | _ | _ | heach)
      exact Nat.succ_lt_succ (ih.1 (heach _ List.mem_cons_self))
    · intro hmore
      obtain ⟨depth, rfl⟩ := Nat.exists_eq_add_one.2 (Nat.zero_lt_of_lt hmore)
      refine .array fun item hmem => ?_
      rw [List.mem_singleton.1 hmem]
      exact ih.2 (Nat.lt_of_succ_lt_succ hmore)

end InstanceIdentity.Json
