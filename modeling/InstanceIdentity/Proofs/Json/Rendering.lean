import InstanceIdentity.Proofs.Json.Numbers

/-!
# The text of a value

The text of a value starts with a character that tells what kind of value it is, and items and members
stand one after the other with commas in between.

Main results:

- Theorem `Json.exists_render_cons`: how the text of a value starts.
- Theorems `Json.toList_renderItems`, `Json.toList_renderMembers`: the texts of containers.
-/

namespace InstanceIdentity.Json

open Reader (quoted unsigned)

/-- The first character of a value: no blank, and neither the end of a list nor, unless the value is
`null`, the start of that word. -/
structure Start (json : Json) (c : Char) : Prop where
  solid : Reader.isBlank c = false
  item : c ≠ ']'
  some : c = 'n' → json = .null

theorem isDigit_start {c : Char} (h : c.isDigit = true) (json : Json) : Start json c where
  solid := solid_of_isDigit h
  item := by
    rintro rfl
    cases h
  some := by
    rintro rfl
    cases h

/-- The digits of a number start with a digit. -/
theorem unsigned_head (rank : Nat) : ∃ c cs, unsigned rank = c :: cs ∧ c.isDigit = true := by
  unfold unsigned
  split
  · exact ⟨'0', _, rfl, rfl⟩
  · unfold Decimal.pointed
    split
    · obtain ⟨c, cs, hparts, hdigit⟩ := Binary64.positional_head (Binary64.shortest rank)
      rw [hparts]
      split
      · exact ⟨c, _, rfl, hdigit⟩
      · exact ⟨c, cs, rfl, hdigit⟩
    · have hdigits := Binary64.digits_toDigits (Binary64.shortest rank).digits
      obtain ⟨c, cs, hparts⟩ :=
        List.exists_cons_of_ne_nil (Nat.toDigits_ne_nil (n := (Binary64.shortest rank).digits) (b := 10))
      unfold Decimal.scientific
      rw [hparts] at hdigits ⊢
      exact ⟨c, _, rfl, hdigits c List.mem_cons_self⟩

/-- The text of a finite number. -/
theorem toList_render_float (negative : Bool) (rank : Fin (2047 * Nat.pow 2 52)) :
    (Json.float (.finite negative rank)).render.toList =
      (if negative then ['-'] else []) ++ unsigned rank := by
  have htext : (Json.float (.finite negative rank)).render = Binary64.textBy Decimal.pointed "0.0"
      (.finite negative rank) := rfl
  rw [htext, Binary64.textBy_finite, String.toList_ofList]
  rfl

/-- The text of an integer. -/
theorem toList_render_integer (value : Int) :
    (Json.integer value).render.toList =
      (if value < 0 then ['-'] else []) ++ Nat.toDigits 10 value.natAbs := by
  have htext : (Json.integer value).render = value.repr := rfl
  rw [htext]
  cases value with
  | ofNat n =>
    rw [if_neg (by simp)]
    exact Nat.toList_repr
  | negSucc n =>
    rw [if_pos (Int.negSucc_lt_zero n)]
    have hparts : (Int.negSucc n).repr = "-" ++ (n + 1).repr := rfl
    rw [hparts, String.toList_append, Nat.toList_repr]
    rfl

/-- The text of a text. -/
theorem toList_render_text (s : String) (rest : List Char) :
    (Json.text s).render.toList ++ rest = quoted s rest :=
  Reader.toList_quotedText s rest

/-! ## Containers -/

/-- Texts with commas in between, or each behind a comma when they follow others. -/
def separate (first : Bool) : List (List Char) → List Char
  | [] => []
  | item :: items => Reader.separated first (item ++ separate false items)

theorem separate_cons_append (first : Bool) (item : List Char) (items : List (List Char))
    (rest : List Char) :
    separate first (item :: items) ++ rest =
      Reader.separated first (item ++ (separate false items ++ rest)) := by
  rw [separate]
  cases first <;> simp [Reader.separated]

/-- The text of a member. -/
def memberText (member : String × Json) : List Char := quoted member.1 (':' :: member.2.render.toList)

theorem toList_renderItems (items : List Json) :
    (renderItems items).toList = separate true (items.map fun item => item.render.toList) := by
  have hfurther (item : Json) (rest : List Json) : (renderItems (item :: rest)).toList =
      item.render.toList ++ separate false (rest.map fun item => item.render.toList) := by
    induction rest generalizing item with
    | nil => simp [renderItems, separate]
    | cons other rest ih =>
      rw [renderItems, String.toList_append, String.toList_append, ih, List.append_assoc]
      · rfl
      · simp
  cases items with
  | nil => rw [renderItems]; rfl
  | cons item rest => exact hfurther item rest

theorem toList_renderMembers (members : List (String × Json)) :
    (renderMembers members).toList = separate true (members.map memberText) := by
  have hfront (member : String × Json) :
      (quotedText member.1 ++ ":" ++ member.2.render).toList = memberText member := by
    rw [String.toList_append, String.toList_append, List.append_assoc, Reader.toList_quotedText]
    rfl
  have hfurther (member : String × Json) (rest : List (String × Json)) :
      (renderMembers (member :: rest)).toList =
        memberText member ++ separate false (rest.map memberText) := by
    induction rest generalizing member with
    | nil => rw [renderMembers, hfront, List.map_nil, separate, List.append_nil]
    | cons other rest ih =>
      rw [renderMembers, String.toList_append, String.toList_append, hfront, ih, List.append_assoc]
      · rfl
      · simp
  cases members with
  | nil => rw [renderMembers]; rfl
  | cons member rest => exact hfurther member rest

theorem toList_render_array (items : List Json) (rest : List Char) :
    (Json.array items).render.toList ++ rest =
      '[' :: (separate true (items.map fun item => item.render.toList) ++ ']' :: rest) := by
  rw [render, String.toList_append, String.toList_append, toList_renderItems]
  simp

theorem toList_render_object (members : List (String × Json)) (rest : List Char) :
    (Json.object members).render.toList ++ rest =
      '\x7b' :: (separate true (members.map memberText) ++ '\x7d' :: rest) := by
  rw [render, String.toList_append, String.toList_append, toList_renderMembers]
  simp

/-! ## First characters -/

/-- The text of a value starts with a character that tells its kind. -/
theorem exists_render_cons (json : Json) : ∃ c cs, json.render.toList = c :: cs ∧ Start json c := by
  have hsigned (negative : Bool) {ds : List Char} {c : Char} {cs : List Char} (hparts : ds = c :: cs)
      (hdigit : c.isDigit = true) :
      ∃ c cs, (if negative then ['-'] else []) ++ ds = c :: cs ∧ Start json c := by
    cases negative with
    | true => exact ⟨'-', ds, rfl, rfl, by decide, by simp⟩
    | false => exact ⟨c, cs, hparts, isDigit_start hdigit json⟩
  cases json with
  | null => exact ⟨'n', _, rfl, rfl, by decide, fun _ => rfl⟩
  | boolean value =>
    cases value with
    | true => exact ⟨'t', _, rfl, rfl, by decide, by simp⟩
    | false => exact ⟨'f', _, rfl, rfl, by decide, by simp⟩
  | integer value =>
    obtain ⟨c, cs, hparts⟩ :=
      List.exists_cons_of_ne_nil (Nat.toDigits_ne_nil (n := value.natAbs) (b := 10))
    have hdigits := Binary64.digits_toDigits value.natAbs
    rw [hparts] at hdigits
    rw [toList_render_integer]
    have hstart := hsigned (decide (value < 0)) hparts (hdigits c List.mem_cons_self)
    simpa only [decide_eq_true_eq] using hstart
  | float x =>
    cases x with
    | finite negative rank =>
      obtain ⟨c, cs, hparts, hdigit⟩ := unsigned_head rank
      rw [toList_render_float]
      exact hsigned negative hparts hdigit
    | infinite negative =>
      cases negative with
      | true => exact ⟨'-', _, rfl, rfl, by decide, by simp⟩
      | false => exact ⟨'i', _, rfl, rfl, by decide, by simp⟩
    | nan => exact ⟨'N', _, rfl, rfl, by decide, by simp⟩
  | text value =>
    have hparts := toList_render_text value []
    rw [List.append_nil] at hparts
    exact ⟨'"', _, hparts, rfl, by decide, by simp⟩
  | array items =>
    have hparts := toList_render_array items []
    rw [List.append_nil] at hparts
    exact ⟨'[', _, hparts, rfl, by decide, by simp⟩
  | object members =>
    have hparts := toList_render_object members []
    rw [List.append_nil] at hparts
    exact ⟨'\x7b', _, hparts, rfl, by decide, by simp⟩

end InstanceIdentity.Json
