import InstanceIdentity.Proofs.Json.Depth
import InstanceIdentity.Proofs.Json.Normal

/-!
# Dictionaries of any values

A dictionary whose values stand for any JSON value is read from a document while it is parsed.  What is
got is what the object that the document holds would be read as, member by member.

Main results:

- Definition `Json.Reader.Alike`: two readers get the same, whatever faults they report.
- Theorem `Json.Reader.alike_dictionary`: a dictionary is read like the object and then its members.
-/

namespace InstanceIdentity.Json

open Reader

variable {α β : Type}

namespace Reader

/-! ## Readers that get the same -/

/-- Two readers get the same values from all texts; their faults may differ. -/
def Alike (first second : Reader α) : Prop :=
  ∀ cursor value after, first cursor = (.ok value, after) ↔ second cursor = (.ok value, after)

/-- Two steps get a value when the first does and the second does from there. -/
theorem bind_ok_iff {reader : Reader α} {andThen : α → Reader β} {cursor after : Cursor} {result : β} :
    (reader >>= andThen) cursor = (.ok result, after) ↔
      ∃ value between, reader cursor = (.ok value, between) ∧
        andThen value between = (.ok result, after) := by
  constructor
  · intro hread
    rcases hfirst : reader cursor with ⟨fault | value, between⟩
    · rw [bind_of_error hfirst] at hread
      cases hread
    · exact ⟨value, between, rfl, (bind_of_ok hfirst).symm.trans hread⟩
  · rintro ⟨value, between, hfirst, hsecond⟩
    exact (bind_of_ok hfirst).trans hsecond

namespace Alike

theorem refl (reader : Reader α) : Alike reader reader := fun _ _ _ => Iff.rfl

theorem trans {first second third : Reader α} (h : Alike first second) (h' : Alike second third) :
    Alike first third :=
  fun cursor value after => (h cursor value after).trans (h' cursor value after)

theorem bind {first second : Reader α} {next further : α → Reader β} (h : Alike first second)
    (heach : ∀ value, Alike (next value) (further value)) : Alike (first >>= next)
      (second >>= further) := by
  intro cursor value after
  rw [bind_ok_iff, bind_ok_iff]
  constructor
  · rintro ⟨found, between, hread, hgot⟩
    exact ⟨found, between, (h _ _ _).1 hread, (heach _ _ _ _).1 hgot⟩
  · rintro ⟨found, between, hread, hgot⟩
    exact ⟨found, between, (h _ _ _).2 hread, (heach _ _ _ _).2 hgot⟩

/-- Where a fault is reported makes no difference. -/
theorem placed (reader : Reader α) : Alike (placed reader) reader := by
  intro cursor value after
  unfold Reader.placed
  rcases reader cursor with ⟨fault | found, between⟩
  · constructor <;> rintro ⟨⟩
  · exact Iff.rfl

/-- Readers that get nothing get the same. -/
theorem of_fails {first second : Reader α} (hnone : ∀ before, Fails first before)
    (hnothing : ∀ before, Fails second before) : Alike first second := fun _ _ _ =>
  ⟨fun hread => (hnone _ _ _ _ hread).elim, fun hread => (hnothing _ _ _ _ hread).elim⟩

/-- The same documents are read. -/
theorem document_run {first second : Reader α} (h : Alike first second) {s : String} {value : α} :
    (document first).run s = .ok value ↔ (document second).run s = .ok value := by
  have hsame : Alike (document first) (document second) := h.bind fun _ => .refl _
  constructor
  · exact fun hread => congrArg Prod.fst ((hsame _ _ _).1 (Prod.ext hread rfl))
  · exact fun hread => congrArg Prod.fst ((hsame _ _ _).2 (Prod.ext hread rfl))

end Alike

/-! ## Values that are carried over -/

theorem map_of_ok {f : α → β} {reader : Reader α} {cursor after : Cursor} {value : α}
    (h : reader cursor = (.ok value, after)) : (f <$> reader) cursor = (.ok (f value), after) := by
  rw [map_eq_pure_bind, bind_of_ok h]
  rfl

theorem map_of_error {f : α → β} {reader : Reader α} {cursor after : Cursor} {fault : Fault}
    (h : reader cursor = (.error fault, after)) : (f <$> reader) cursor = (.error fault, after) := by
  rw [map_eq_pure_bind, bind_of_error h]

theorem within_of_ok {segment : Segment} {reader : Reader α} {cursor after : Cursor} {value : α}
    (h : reader cursor = (.ok value, after)) : within segment reader cursor = (.ok value, after) := by
  unfold within
  change (ExceptT.tryCatch reader _) _ = _
  simp only [ExceptT.tryCatch, ExceptT.mk, Bind.bind, StateT.bind, h]
  rfl

theorem within_of_error {segment : Segment} {reader : Reader α} {cursor after : Cursor} {fault : Fault}
    (h : reader cursor = (.error fault, after)) :
    within segment reader cursor = (.error { fault with path := segment :: fault.path }, after) := by
  unfold within
  change (ExceptT.tryCatch reader _) _ = _
  simp only [ExceptT.tryCatch, ExceptT.mk, Bind.bind, StateT.bind, h]
  rfl

theorem map_within (segment : Segment) (f : α → β) (reader : Reader α) :
    within segment (f <$> reader) = f <$> within segment reader := by
  funext cursor
  rcases hread : reader cursor with ⟨fault | value, after⟩
  · rw [within_of_error (map_of_error hread), map_of_error (within_of_error hread)]
  · rw [within_of_ok (map_of_ok hread), map_of_ok (within_of_ok hread)]

theorem map_enclosed (f : α → β) (content : Reader α) (close : Reader Unit) :
    enclosed (f <$> content) close = f <$> enclosed content close := by
  funext cursor
  rcases hread : content cursor with ⟨fault | value, between⟩
  · have hfailed : enclosed content close cursor = (.error fault, (close between).2) := by
      rw [enclosed, hread]
    rw [enclosed, map_of_error hread, map_of_error hfailed]
  · rcases hended : close between with ⟨fault | ⟨⟩, after⟩
    · have hfailed : enclosed content close cursor = (.error fault, after) := by
        simp only [enclosed, hread, hended]
      rw [map_of_error hfailed]
      simp only [enclosed, map_of_ok hread, hended]
    · have henclosed : enclosed content close cursor = (.ok value, after) := by
        simp only [enclosed, hread, hended]
      rw [map_of_ok henclosed]
      simp only [Reader.enclosed, map_of_ok hread, hended]

/-- The members of an object with their values carried over. -/
theorem membersBy_map (f : α → β) (value : Reader α) (fuel : Nat) (first : Bool)
    (acc : List (String × α)) :
    membersBy (f <$> value) fuel first (acc.map fun member => (member.1, f member.2)) =
      (List.map fun member => (member.1, f member.2)) <$> membersBy value fuel first acc := by
  induction fuel generalizing first acc with
  | zero => simp [membersBy]
  | succ fuel ih =>
    unfold membersBy
    rw [map_bind]
    refine bind_congr fun key => ?_
    cases key with
    | none => simp
    | some key =>
      have hcarried : (do colon; f <$> value) = f <$> (do colon; value) := (map_bind _ _ _).symm
      dsimp only
      rw [hcarried, map_within, map_bind, bind_map_left]
      exact bind_congr fun read => ih false ((key, read) :: acc)

/-! ## Dictionaries -/

/-- The members of an object. -/
def membersOf : Json → Reader (List (String × Json))
  | .object members => pure members
  | other => failUnplaced (.mismatch other.found "a map")

theorem membersOf_eq_ok_iff {json : Json} {members : List (String × Json)} {cursor after : Cursor} :
    membersOf json cursor = (.ok members, after) ↔ json = .object members ∧ cursor = after := by
  cases json with
  | object found =>
    constructor
    · rintro ⟨⟩
      exact ⟨rfl, rfl⟩
    · rintro ⟨⟨⟩, rfl⟩
      rfl
  | _ => constructor <;> rintro ⟨⟨⟩, -⟩

/-- A value is no object. -/
def NoObject (json : Json) : Prop := ∀ members, json ≠ .object members

/-- Nothing is got from a value that is no object. -/
theorem fails_membersOf {reader : Reader Json} {before : List Char}
    (hother : Ensures reader before fun json _ => NoObject json) :
      Fails (reader >>= membersOf) before := by
  refine .bind_of hother fun json rest hnone => ?_
  cases json with
  | object members => exact absurd rfl (hnone members)
  | _ => exact .failUnplaced

theorem noObject_number {negative : Bool} {before : List Char} :
    Ensures (number negative) before fun json _ => NoObject json := by
  refine (ensures_number negative).mono ?_
  rintro _ rest ⟨figures, -, -, rfl, -⟩ members
  unfold numeralValue
  split <;> [skip; split] <;> simp

/-- After the blanks the first character decides: a brace leaves it to the reader of containers, and
behind any other there is no object. -/
theorem exists_scalarOr {container : Char → Reader Json}
    (harray : ∀ before, Ensures (container '[') before fun json _ => NoObject json) :
    ∃ begun : Option Char → Reader Json,
      scalarOr container = blanks >>= begun ∧ begun (some '\x7b') = container '\x7b' ∧
        ∀ head ≠ some '\x7b', ∀ before, Ensures (begun head) before fun json _ => NoObject json := by
  have hword {json : Json} (letters : List Char) (hnone : NoObject json) (before : List Char) :
      Ensures (do skip; word letters; return json) before fun json _ => NoObject json :=
    .bind_of .trivial fun _ _ _ => .bind_of .trivial fun _ _ _ => .pure hnone
  refine ⟨_, rfl, rfl, fun head hother before => ?_⟩
  split
  · exact .failAhead
  · exact hword _ (by simp [NoObject]) before
  · exact hword _ (by simp [NoObject]) before
  · exact hword _ (by simp [NoObject]) before
  · exact .bind_of .trivial fun _ _ _ => noObject_number
  · exact .bind_of .trivial fun _ _ _ => .bind_of .trivial fun _ _ _ => .pure fun _ => nofun
  · split
    · exact noObject_number
    · split
      · rename_i c _ _ _ _ _ _ hbracket
        rcases hbracket with rfl | rfl
        · exact harray before
        · exact absurd rfl hother
      · exact .failAhead

/-- A value without room for containers, by the first character behind the blanks. -/
theorem exists_value_zero :
    ∃ begun : Option Char → Reader Json, value 0 = blanks >>= begun ∧
      begun (some '\x7b') = failAhead .tooDeep ∧
      ∀ head ≠ some '\x7b', ∀ before, Ensures (begun head) before fun json _ => NoObject json := by
  rw [value]
  exact exists_scalarOr fun _ => .failAhead

/-- The members of an object, with room for containers in their values. -/
def members (room : Nat) : Reader (List (String × Json)) := do
  membersBy (value room) (← remaining) true []

/-- A value with room for containers in it, likewise. -/
theorem exists_value_succ (room : Nat) :
    ∃ begun : Option Char → Reader Json, value (room + 1) = blanks >>= begun ∧
      begun (some '\x7b') = (do skip; Json.object <$> enclosed (members room) endObject) ∧
      ∀ head ≠ some '\x7b', ∀ before, Ensures (begun head) before fun json _ => NoObject json := by
  have hbegins : ∃ begun : Option Char → Reader Json, value (room + 1) = blanks >>= begun ∧
      begun (some '\x7b') = (do
        skip
        enclosed (do return .object (← membersBy (value room) (← remaining) true [])) endObject) ∧
      ∀ head ≠ some '\x7b', ∀ before, Ensures (begun head) before fun json _ => NoObject json := by
    refine exists_scalarOr fun before => .bind_of .trivial fun _ _ _ => .enclosed ?_
    refine .bind_of .trivial fun _ _ _ => .bind_of .trivial fun _ _ _ => ?_
    exact .pure (Ensures.trivial.mono fun _ _ _ _ => nofun)
  have hobject : (do return Json.object (← membersBy (value room) (← remaining) true [])) =
      Json.object <$> members room := by
    rw [members, map_bind]
    exact bind_congr fun steps => bind_pure_comp _ _
  rw [hobject, map_enclosed] at hbegins
  exact hbegins

/-- The members of a dictionary are members of an object, with their values carried over. -/
theorem bracketed_dictionary {inner : Shape α} {f : Json → α}
    (heach : ∀ room, inner.read room = f <$> value room) (room : Nat) :
    bracketed (room + 1)
        (fun room => do
          return Dictionary.ofList (← membersBy (inner.read room) (← remaining) true [])) endObject = (do
      skip
      (fun members => Dictionary.ofList (members.map fun member => (member.1, f member.2))) <$>
        enclosed (members room) endObject) := by
  have hinside : (do return Dictionary.ofList (← membersBy (inner.read room) (← remaining) true [])) =
      (fun members => Dictionary.ofList (members.map fun member => (member.1, f member.2))) <$>
        members room := by
    rw [heach, members, map_bind]
    refine bind_congr fun steps => ?_
    have hcarried := membersBy_map f (value room) steps true []
    rw [List.map_nil] at hcarried
    rw [hcarried, bind_map_left, ← bind_pure_comp]
  rw [bracketed, hinside, map_enclosed]

/-- A reader that looks for a brace gets the same as one of values that looks for the members, when both do
so behind the brace. -/
theorem alike_placed {begun : Option Char → Reader Json} {start : Option Char → Reader α}
    {finish : List (String × Json) → Reader α}
    (hbrace : Alike (start (some '\x7b')) (begun (some '\x7b') >>= membersOf >>= finish))
    (hnothing : ∀ head ≠ some '\x7b', ∀ before, Fails (start head) before)
    (hother : ∀ head ≠ some '\x7b', ∀ before, Ensures (begun head) before fun json _ => NoObject json) :
    Alike (placed (blanks >>= start)) ((blanks >>= begun) >>= membersOf >>= finish) := by
  rw [bind_assoc blanks begun, bind_assoc]
  refine .trans (.placed _) (.bind (.refl _) fun head => ?_)
  by_cases hsame : head = some '\x7b'
  · subst hsame
    exact hbrace
  · exact .of_fails (hnothing head hsame) fun before => Fails.bind
      (fails_membersOf (hother head hsame before))

/-- A dictionary of values that stand for JSON values is read like an object, and then its members. -/
theorem alike_dictionary {inner : Shape α} {f : Json → α}
    (heach : ∀ room, inner.read room = f <$> value room) (room : Nat) :
    Alike ((Shape.dictionary inner).read room) (do
      let members ← value room >>= membersOf
      return Dictionary.ofList (members.map fun member => (member.1, f member.2))) := by
  unfold Shape.read
  cases room with
  | zero =>
    obtain ⟨begun, hparts, hbrace, hother⟩ := exists_value_zero
    rw [hparts]
    refine alike_placed ?_ (fun head hforeign before => ?_) hother
    · rw [hbrace]
      exact .of_fails (fun _ => .failAhead) fun _ => .bind (.bind .failAhead)
    · split
      · exact absurd rfl hforeign
      · exact ensures_mismatched
      · exact .failAhead
  | succ room =>
    obtain ⟨begun, hparts, hbrace, hother⟩ := exists_value_succ room
    rw [hparts]
    refine alike_placed ?_ (fun head hforeign before => ?_) hother
    · rw [bracketed_dictionary heach room, hbrace, bind_assoc, bind_assoc]
      refine .bind (.refl _) fun _ => ?_
      rw [bind_map_left, ← bind_pure_comp]
      refine .bind (.refl _) fun members => ?_
      rw [membersOf, pure_bind]
      exact .refl _
    · split
      · exact absurd rfl hforeign
      · exact ensures_mismatched
      · exact .failAhead

/-! ## Documents -/

/-- A document is read when its content is, and only blanks follow. -/
theorem document_run_eq_ok_iff {content : Reader α} {s : String} {value : α} :
    (document content).run s = .ok value ↔
      ∃ after, content (Cursor.ofText s) = (.ok value, after) ∧
        (skipBlanks after.place after.rest).rest = [] := by
  have hpassed (between : Cursor) : blanks between =
      (.ok (skipBlanks between.place between.rest).rest.head?,
        skipBlanks between.place between.rest) := rfl
  unfold Reader.run document
  constructor
  · intro hread
    obtain ⟨found, between, hgot, hended⟩ := bind_ok_iff.1 (Prod.ext hread rfl)
    replace hended := congrArg Prod.fst hended
    rw [bind_of_ok (hpassed between)] at hended
    rcases hnothing : (skipBlanks between.place between.rest).rest with _ | ⟨c, rest⟩
    · rw [hnothing] at hended
      cases hended
      exact ⟨between, hgot, hnothing⟩
    · rw [hnothing] at hended
      cases hended
  · rintro ⟨after, hgot, hnothing⟩
    rw [bind_of_ok hgot, bind_of_ok (hpassed after), hnothing]
    rfl

end Reader

namespace Shape

/-- A layout that is carried over is read as the other, and then carried over. -/
theorem read_via {inner : Shape β} {f : β → α} {g : α → β} (room : Nat) :
    (inner.via f g).read room = f <$> inner.read room := by
  rw [via, Shape.read, ← bind_pure_comp]
  rfl

/-- The same documents are read for a layout that is carried over. -/
theorem ofText_via_iff {inner : Shape β} {f : β → α} {g : α → β} {s : String} {value : α} :
    (inner.via f g).ofText s = .ok value ↔ ∃ raw, inner.ofText s = .ok raw ∧ f raw = value := by
  unfold Shape.ofText
  rw [read_via, document_run_eq_ok_iff]
  simp only [document_run_eq_ok_iff]
  constructor
  · rintro ⟨after, hgot, hended⟩
    rcases hread : inner.read nesting (Cursor.ofText s) with ⟨fault | raw, between⟩
    · rw [map_of_error hread] at hgot
      cases hgot
    · rw [map_of_ok hread] at hgot
      cases hgot
      exact ⟨raw, ⟨_, rfl, hended⟩, rfl⟩
  · rintro ⟨raw, ⟨after, hread, hended⟩, rfl⟩
    exact ⟨after, map_of_ok hread, hended⟩

/-- A dictionary whose values stand for any JSON value is read from the documents that are objects. -/
theorem ofText_dictionary_iff {f : Json → α} {g : α → Json} {s : String} {values : Dictionary α} :
    (dictionary (via .any f g)).ofText s = .ok values ↔
      ∃ members, Json.ofText s = .ok (.object members) ∧
        values = Dictionary.ofList (members.map fun member => (member.1, f member.2)) := by
  have heach (room : Nat) : (via .any f g).read room = (fun json => f json.normal) <$> value room := by
    rw [read_via, Shape.read, Functor.map_map]
  have hrun : (dictionary (via .any f g)).ofText s = .ok values ↔
      ∃ members, (document (value nesting)).run s = .ok (.object members) ∧
        values = Dictionary.ofList (members.map fun member => (member.1, f member.2.normal)) := by
    rw [Shape.ofText, (alike_dictionary heach nesting).document_run]
    simp only [document_run_eq_ok_iff, bind_ok_iff]
    constructor
    · rintro ⟨after, ⟨members, between, ⟨json, mid, hread, hobject⟩, hgot⟩, hended⟩
      obtain ⟨rfl, rfl⟩ := membersOf_eq_ok_iff.1 hobject
      cases hgot
      exact ⟨members, ⟨_, hread, hended⟩, rfl⟩
    · rintro ⟨members, ⟨after, hread, hended⟩, rfl⟩
      exact ⟨after, ⟨members, after, ⟨_, after, hread, membersOf_eq_ok_iff.2 ⟨rfl, rfl⟩⟩, rfl⟩, hended⟩
  rw [hrun]
  constructor
  · rintro ⟨members, hread, rfl⟩
    refine ⟨(Dictionary.ofList (normalMembers members)).entries, ?_, ?_⟩
    · rw [Json.ofText, hread]
      rfl
    · rw [Dictionary.ofList_map_entries, normalMembers_eq, List.map_map]
      rfl
  · rintro ⟨members, hread, rfl⟩
    rw [Json.ofText] at hread
    rcases hfound : (document (value nesting)).run s with fault | json
    · rw [hfound] at hread
      cases hread
    · rw [hfound] at hread
      have hnormal : json.normal = .object members := Except.ok.inj hread
      cases json with
      | object written =>
        rw [Json.normal] at hnormal
        cases hnormal
        refine ⟨written, rfl, ?_⟩
        rw [Dictionary.ofList_map_entries, normalMembers_eq, List.map_map]
        rfl
      | _ => cases hnormal

end Shape

end InstanceIdentity.Json
