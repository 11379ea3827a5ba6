import InstanceIdentity.Proofs.Json.Rendering

/-!
# Values are read back

A value that was written is read as the value, but for its numbers, each of which becomes what is read for
it.  The containers in each other must not be more than there is room for.

Main results:

- Definition `Json.Fits`: values that can be written and read; Definition `Json.reread`: what they
  become.
- Theorems `Json.Reader.reads_items`, `Json.Reader.reads_members`: the content of containers.
- Theorem `Json.Reader.reads_value`: a value is read back.
- Theorem `Json.ofText_render`: so is a whole document.
-/

namespace InstanceIdentity.Json

/-- A value with at most a number of containers in each other, whose integers have 64 bits and whose other
numbers are finite. -/
inductive Fits : Nat → Json → Prop where
  | null (depth : Nat) : Fits depth .null
  | boolean (depth : Nat) (value : Bool) : Fits depth (.boolean value)
  | integer (depth : Nat) {value : Int} (low : -(2 ^ 63) ≤ value) (high : value < 2 ^ 64) :
      Fits depth (.integer value)
  | float (depth : Nat) {x : Binary64} (finite : x.isFinite = true) : Fits depth (.float x)
  | text (depth : Nat) (s : String) : Fits depth (.text s)
  | array {depth : Nat} {items : List Json} (each : ∀ item ∈ items, Fits depth item) :
      Fits (depth + 1) (.array items)
  | object {depth : Nat} {members : List (String × Json)} (each : ∀ member ∈ members,
      Fits depth member.2) :
      Fits (depth + 1) (.object members)

mutual

/-- What a value becomes when it is written and read. -/
def reread : Json → Json
  | .float x => .float x.reread
  | .array items => .array (rereadItems items)
  | .object members => .object (rereadMembers members)
  | other => other

/-- What items become. -/
def rereadItems : List Json → List Json
  | [] => []
  | item :: rest => item.reread :: rereadItems rest

/-- What members become. -/
def rereadMembers : List (String × Json) → List (String × Json)
  | [] => []
  | (key, value) :: rest => (key, value.reread) :: rereadMembers rest

end

theorem rereadItems_eq (items : List Json) : rereadItems items = items.map reread := by
  induction items with
  | nil => rw [rereadItems]; rfl
  | cons item rest ih => rw [rereadItems, ih]; rfl

theorem rereadMembers_eq (members : List (String × Json)) :
    rereadMembers members = members.map fun member => (member.1, member.2.reread) := by
  induction members with
  | nil => rw [rereadMembers]; rfl
  | cons member rest ih => rw [rereadMembers, ih]; rfl

namespace Reader

variable {α : Type} {rest : List Char}

/-! ## What follows -/

/-- Behind one of several texts comes a comma, or what follows them all. -/
theorem ended_separate (items : List (List Char)) (hended : Ended rest) :
    Ended (separate false items ++ rest) := by
  cases items with
  | nil => exact hended
  | cons item items => exact ended_comma _

/-- There are no more texts than characters. -/
theorem length_le_separate {β : Type} {entries : List β} {text : β → List Char}
    (hsome : ∀ entry ∈ entries, text entry ≠ []) (first : Bool) (rest : List Char) :
    entries.length + rest.length ≤ (separate first (entries.map text) ++ rest).length := by
  induction entries generalizing first with
  | nil => exact Nat.le_of_eq (Nat.zero_add _)
  | cons entry entries ih =>
    have hown := List.length_pos_iff.2 (hsome entry List.mem_cons_self)
    have hothers := ih (fun other hmem => hsome other (List.mem_cons_of_mem _ hmem)) false
    have hall : (text entry).length + (separate false (entries.map text) ++ rest).length ≤
        (separate first ((entry :: entries).map text) ++ rest).length := by
      rw [List.map_cons, separate_cons_append, ← List.length_append]
      cases first with
      | true => exact Nat.le_refl _
      | false => exact Nat.le_succ _
    rw [List.length_cons]
    omega

/-- So there are steps enough for them. -/
theorem length_le_remaining {β : Type} {entries : List β} {text : β → List Char}
    (hsome : ∀ entry ∈ entries, text entry ≠ []) (first : Bool) (rest : List Char) :
    entries.length ≤ (separate first (entries.map text) ++ rest).length + 1 := by
  have hlength := length_le_separate hsome first rest
  omega

/-! ## Items -/

/-- A text that a reader reads as a value, and that is seen to be an item of a list. -/
structure Item (reader : Reader α) (text : List Char) (value : α) : Prop where
  start : ∃ c cs, text = c :: cs ∧ isBlank c = false ∧ c ≠ ']'
  read : ∀ rest, Ended rest → Reads reader (text ++ rest) value rest

theorem Item.ne_nil {reader : Reader α} {text : List Char} {value : α} (hitem : Item reader text value) :
    text ≠ [] := by
  obtain ⟨c, cs, hparts, -⟩ := hitem.start
  rw [hparts]
  exact List.cons_ne_nil c cs

theorem reads_hasItem_of {first : Bool} {text next cs : List Char} {c : Char}
    (hparted : Parted first text next) (hblanks : Blanks next (c :: cs)) (hsolid : isBlank c = false)
    (hinside : c ≠ ']') : Reads (hasItem first) text true (c :: cs) := by
  cases hparted with
  | first =>
    refine .blanksTo hblanks hsolid ?_
    split
    · rename_i habsent
      cases habsent
    · rename_i hfound
      exact absurd (Option.some.inj hfound) hinside
    · exact .pure true _
  | comma hfront =>
    refine .blanksTo hfront rfl (.skip (.blanksTo hblanks hsolid ?_))
    split
    · rename_i hfound
      exact absurd (Option.some.inj hfound) hinside
    · exact .pure true _
    · rename_i habsent
      cases habsent

theorem reads_hasItem (first : Bool) {c : Char} (hsolid : isBlank c = false) (hitem : c ≠ ']')
    (rest : List Char) : Reads (hasItem first) (separated first (c :: rest)) true (c :: rest) :=
  reads_hasItem_of (parted_separated first _) (.done _) hsolid hitem

/-- Items are read up to the end of the list. -/
theorem reads_items {item : Reader α} {entries : List (List Char × α)}
    (heach : ∀ entry ∈ entries, Item item entry.1 entry.2) {fuel : Nat} (henough : entries.length ≤ fuel)
    (position : Nat) (acc : List α) (rest : List Char) :
    Reads (itemsBy item fuel position acc)
      (separate (position = 0) (entries.map Prod.fst) ++ ']' :: rest)
      (acc.reverse ++ entries.map Prod.snd) (']' :: rest) := by
  induction entries generalizing fuel position acc with
  | nil =>
    rw [List.map_nil, List.map_nil, List.append_nil]
    cases fuel with
    | zero => exact .pure _ _
    | succ fuel =>
      refine .bind (.within (.bind (.blanks rfl (.pure false _)) (.pure none _))) ?_
      exact .pure _ _
  | cons entry entries ih =>
    obtain ⟨fuel, rfl, hsteps⟩ := exists_step henough
    obtain ⟨⟨c, cs, hparts, hsolid, hother⟩, hread⟩ := heach entry List.mem_cons_self
    have hmore := ih (fun e hmem => heach e (List.mem_cons_of_mem _ hmem)) hsteps (position + 1)
      (entry.2 :: acc)
    have hafter : Ended (separate false (entries.map Prod.fst) ++ ']' :: rest) :=
      ended_separate _ (ended_bracket rest)
    have hpresent := reads_hasItem (decide (position = 0)) hsolid hother
      (cs ++ (separate false (entries.map Prod.fst) ++ ']' :: rest))
    rw [← List.cons_append, ← hparts] at hpresent
    have hall : acc.reverse ++ (entry :: entries).map Prod.snd =
        (entry.2 :: acc).reverse ++ entries.map Prod.snd := by simp
    rw [hall, List.map_cons, separate_cons_append]
    refine .bind (.within (.bind hpresent (.bind (hread _ hafter) (.pure _ _)))) ?_
    exact hmore

/-! ## Members -/

/-- Members are read up to the end of the object. -/
theorem reads_members {value : Reader α} {entries : List (String × List Char × α)}
    (heach : ∀ entry ∈ entries, ∀ rest, Ended rest → Reads value (entry.2.1 ++ rest) entry.2.2 rest)
    {fuel : Nat} (henough : entries.length ≤ fuel) (first : Bool) (acc : List (String × α))
    (rest : List Char) :
    Reads (membersBy value fuel first acc)
      (separate first (entries.map fun entry => quoted entry.1 (':' :: entry.2.1)) ++ '\x7d' :: rest)
      (acc.reverse ++ entries.map fun entry => (entry.1, entry.2.2)) ('\x7d' :: rest) := by
  induction entries generalizing fuel first acc with
  | nil =>
    rw [List.map_nil, List.map_nil, List.append_nil]
    cases fuel with
    | zero => exact .pure _ _
    | succ fuel => exact .bind (reads_key_end first rest) (.pure _ _)
  | cons entry entries ih =>
    obtain ⟨fuel, rfl, hsteps⟩ := exists_step henough
    have hread := heach entry List.mem_cons_self
    have hmore := ih (fun e hmem => heach e (List.mem_cons_of_mem _ hmem)) hsteps false
      ((entry.1, entry.2.2) :: acc)
    have hafter := ended_separate (entries.map fun entry => quoted entry.1 (':' :: entry.2.1))
      (ended_brace rest)
    have hall : (acc.reverse ++ (entry :: entries).map fun entry => (entry.1, entry.2.2)) =
        ((entry.1, entry.2.2) :: acc).reverse ++ entries.map fun entry => (entry.1, entry.2.2) := by simp
    rw [hall, List.map_cons, separate_cons_append, quoted_append]
    refine .bind (reads_key first entry.1 _) ?_
    exact .bind (.within (.bind (reads_colon _) (hread _ hafter))) hmore

/-! ## Scalars -/

theorem reads_word (letters rest : List Char) : Reads (word letters) (letters ++ rest) () rest := by
  induction letters with
  | nil => exact .pure () rest
  | cons c letters ih =>
    unfold word
    apply Reads.peek
    simp only [List.cons_append, List.head?_cons, ↓reduceIte]
    exact .skip ih

/-- A value that is no container needs no room. -/
theorem reads_value_scalar {before : List Char} {json : Json}
    (hscalar : ∀ container, Reads (scalarOr container) before json rest) (room : Nat) :
    Reads (value room) before json rest := by
  cases room with
  | zero => exact hscalar _
  | succ room => exact hscalar _

/-- A number that starts with a digit. -/
theorem reads_scalar_digit {before cs : List Char} {c : Char} {json : Json}
    (hblanks : Blanks before (c :: cs)) (hdigit : c.isDigit = true)
    (hread : Reads (number false) (c :: cs) json rest) (container : Char → Reader Json) :
    Reads (scalarOr container) before json rest := by
  refine .blanksTo hblanks (solid_of_isDigit hdigit) ?_
  split
  case h_7 =>
    rename_i hfound
    cases hfound
    rw [if_pos hdigit]
    exact hread
  all_goals
    rename_i hfound
    cases hfound
    try cases hdigit

/-- A value of the grammar without inner structure is read. -/
theorem reads_scalar {before text : List Char} {json : Json} (hblanks : Blanks before text)
    (hscalar : Scalar text json rest) (hended : Ended rest) (container : Char → Reader Json) :
    Reads (scalarOr container) before json rest := by
  cases hscalar with
  | null => exact .blanksTo hblanks rfl (.skip (.bind (reads_word _ rest) (.pure _ rest)))
  | yes => exact .blanksTo hblanks rfl (.skip (.bind (reads_word _ rest) (.pure _ rest)))
  | no => exact .blanksTo hblanks rfl (.skip (.bind (reads_word _ rest) (.pure _ rest)))
  | number hnumber hlimit hdenoted hbounded =>
    have hread := reads_number (reads_numeral false hnumber (.inr hlimit) hended) hdenoted hbounded
    obtain ⟨c, cs, rfl, hdigit⟩ := hnumber.start
    exact reads_scalar_digit hblanks hdigit hread container
  | negative hnumber hlimit hdenoted hbounded =>
    have hread := reads_number (reads_numeral false hnumber (.inr hlimit) hended) hdenoted hbounded
    exact .blanksTo hblanks rfl (.skip hread)
  | text hspells => exact .blanksTo hblanks rfl (.skip (.bind (reads_spelled hspells) (.pure _ rest)))

/-- A finite number that is written is a scalar of the grammar. -/
theorem scalar_float {x : Binary64} (hfinite : x.isFinite = true) (rest : List Char) :
    Scalar ((Json.float x).render.toList ++ rest) (.float x.reread) rest := by
  cases x with
  | finite negative rank =>
    rw [toList_render_float, List.append_assoc]
    exact (denotes_unsigned rank.isLt rest).scalar negative (numeralValue_unsigned negative rank)
      (reread_bounded negative rank)
  | infinite negative => cases hfinite
  | nan => cases hfinite

/-- An integer of 64 bits that is written is a scalar of the grammar. -/
theorem scalar_integer {n : Int} (hlow : -(2 ^ 63) ≤ n) (hhigh : n < 2 ^ 64) (rest : List Char) :
    Scalar ((Json.integer n).render.toList ++ rest) (.integer n) rest := by
  have hdenotes := denotes_natural (n := n.natAbs) (by omega) rest
  rw [toList_render_integer, List.append_assoc]
  rcases Int.lt_or_le n 0 with hnegative | hnonneg
  · have hvalue : -(n.natAbs : Int) = n := by omega
    have hdenoted := numeralValue_negative (n := n.natAbs) (by omega) (by omega)
    rw [hvalue] at hdenoted
    rw [if_pos hnegative]
    exact hdenotes.scalar true hdenoted (by simp)
  · have hvalue : (n.natAbs : Int) = n := by omega
    have hdenoted : numeralValue false ⟨n.natAbs, 0, true⟩ = .integer n := congrArg _ hvalue
    rw [if_neg (Int.not_lt.2 hnonneg)]
    exact hdenotes.scalar false hdenoted (by simp)

/-! ## Any value -/

theorem reads_remaining (before : List Char) : Reads remaining before (before.length + 1) before :=
  fun place => ⟨place, rfl⟩

theorem reads_endArray (rest : List Char) : Reads endArray (']' :: rest) () rest :=
  .blanks rfl (reads_skip _ rest)

/-- The text of a value is an item of a list when it is read. -/
theorem item_of_reads {reader : Reader α} {json : Json} {value : α}
    (hread : ∀ rest, Ended rest → Reads reader (json.render.toList ++ rest) value rest) :
    Item reader json.render.toList value := by
  obtain ⟨c, cs, hparts, hstart⟩ := exists_render_cons json
  exact ⟨⟨c, cs, hparts, hstart.solid, hstart.item⟩, hread⟩

/-- A value is read back, but for its numbers, when there is room for it. -/
theorem reads_value {depth : Nat} {json : Json} (hfits : Fits depth json) {room : Nat}
    (henough : depth ≤ room) (hended : Ended rest) :
    Reads (value room) (json.render.toList ++ rest) json.reread rest := by
  induction hfits generalizing room rest with
  | null depth => exact reads_value_scalar (reads_scalar (.done _) (.null rest) hended) room
  | boolean depth value =>
    cases value with
    | true => exact reads_value_scalar (reads_scalar (.done _) (.yes rest) hended) room
    | false => exact reads_value_scalar (reads_scalar (.done _) (.no rest) hended) room
  | integer depth hlow hhigh =>
    exact reads_value_scalar (reads_scalar (.done _) (scalar_integer hlow hhigh rest) hended) room
  | float depth hfinite =>
    exact reads_value_scalar (reads_scalar (.done _) (scalar_float hfinite rest) hended) room
  | text depth s =>
    rw [toList_render_text]
    exact reads_value_text room s rest
  | @array depth items heach ih =>
    obtain ⟨room, rfl, hdeep⟩ := exists_step henough
    have hinner : ∀ entry ∈ items.map (fun item => (item.render.toList, item.reread)),
        Item (value room) entry.1 entry.2 := by
      intro entry hmem
      obtain ⟨item, hpresent, rfl⟩ := List.mem_map.1 hmem
      exact item_of_reads fun rest hended => ih item hpresent hdeep hended
    have htexts : items.map (fun item => item.render.toList) =
        (items.map fun item => (item.render.toList, item.reread)).map Prod.fst := by
      rw [List.map_map]; rfl
    have hvalues : items.map reread =
        (items.map fun item => (item.render.toList, item.reread)).map Prod.snd := by
      rw [List.map_map]; rfl
    rw [toList_render_array, reread, rereadItems_eq, htexts, hvalues]
    refine .blanks rfl (.skip (.enclosed ?_ (reads_endArray rest)))
    refine .bind (reads_remaining _) (.bind ?_ (.pure _ _))
    have hsteps := length_le_remaining (fun entry hmem => (hinner entry hmem).ne_nil) true (']' :: rest)
    exact reads_items hinner hsteps 0 [] rest
  | @object depth members heach ih =>
    obtain ⟨room, rfl, hdeep⟩ := exists_step henough
    have hinner : ∀ entry ∈ members.map (fun m => (m.1, m.2.render.toList, m.2.reread)),
        ∀ rest, Ended rest → Reads (value room) (entry.2.1 ++ rest) entry.2.2 rest := by
      intro entry hmem rest hended
      obtain ⟨member, hpresent, rfl⟩ := List.mem_map.1 hmem
      exact ih member hpresent hdeep hended
    have htexts : members.map memberText = (members.map fun m =>
        (m.1, m.2.render.toList, m.2.reread)).map
        fun entry => quoted entry.1 (':' :: entry.2.1) := by
      rw [List.map_map]; rfl
    have hvalues : members.map (fun m => (m.1, m.2.reread)) =
        (members.map fun m => (m.1, m.2.render.toList, m.2.reread)).map
          fun entry => (entry.1, entry.2.2) := by
      rw [List.map_map]; rfl
    rw [toList_render_object, reread, rereadMembers_eq, htexts, hvalues]
    refine .blanks rfl (.skip (.enclosed ?_ (reads_endObject rest)))
    refine .bind (reads_remaining _) (.bind ?_ (.pure _ _))
    exact reads_members hinner (length_le_remaining (fun _ _ =>
      List.cons_ne_nil _ _) true _) true [] rest

/-- A document is a value with nothing behind it. -/
theorem reads_document {content : Reader α} {before : List Char} {value : α}
    (hread : Reads content before value []) : Reads (document content) before value [] := by
  have hnothing : Reads blanks [] none [] := fun place => ⟨place, rfl⟩
  exact .bind hread (.bind hnothing (.pure value []))

end Reader

/-- The text of a value is read as the normal form of what the value becomes. -/
theorem ofText_render {json : Json} (hfits : Fits Reader.nesting json) :
    ofText json.render = .ok json.reread.normal := by
  have hread := Reader.reads_value hfits (Nat.le_refl _) ended_nil
  rw [List.append_nil] at hread
  unfold ofText
  rw [(Reader.reads_document hread).run]
  rfl

end InstanceIdentity.Json
