import InstanceIdentity.Dictionary
import Mathlib.Data.List.Nodup

/-!
# Dictionaries by what they find

A dictionary is told by what is found under each key, and that is the entry with the key.  The
dictionary of a list of entries finds the last one of a key.

Main results:

- Theorem `Dictionary.get?_eq_some_iff`: what is found is an entry.
- Theorem `Dictionary.ext_get?`: dictionaries that find the same are equal.
- Theorem `Dictionary.get?_ofList_eq_some_iff`: entries with keys of their own are all found.
-/

namespace InstanceIdentity.Dictionary

variable {α β : Type} {d e : Dictionary α} {key : String} {value : α}

/-- No two entries have one key. -/
theorem nodup_keys (d : Dictionary α) : d.keys.Nodup := by
  refine List.pairwise_map.2 (d.sorted.imp fun {a b} hbelow hsame => ?_)
  rw [hsame] at hbelow
  exact String.lt_irrefl _ hbelow

/-- In a list of entries with different keys, an entry is found under its key. -/
theorem lookup_eq_some_iff {entries : List (String × α)} (hunique : (entries.map Prod.fst).Nodup) :
    entries.lookup key = some value ↔ (key, value) ∈ entries := by
  induction entries with
  | nil => simp
  | cons entry rest ih =>
    obtain ⟨other, stored⟩ := entry
    obtain ⟨hfresh, hunique⟩ := List.nodup_cons.1 hunique
    by_cases hown : key = other
    · subst hown
      have habsent : (key, value) ∉ rest := fun hmem => hfresh (List.mem_map.2 ⟨_, hmem, rfl⟩)
      simp [habsent, eq_comm]
    · simp [List.lookup_cons, beq_eq_false_iff_ne.2 hown, hown, ih hunique]

/-- What is found under a key is the entry with this key. -/
theorem get?_eq_some_iff : d.get? key = some value ↔ (key, value) ∈ d.entries :=
  lookup_eq_some_iff d.nodup_keys

/-- The values are what is found under some key. -/
theorem mem_values_iff : value ∈ d.values ↔ ∃ key, d.get? key = some value := by
  simp [values, get?_eq_some_iff]

/-- The keys are those under which something is found. -/
theorem mem_keys_iff : key ∈ d.keys ↔ ∃ value, d.get? key = some value := by
  simp [keys, get?_eq_some_iff]

/-- Dictionaries that find the same under every key are equal. -/
theorem ext_get? (hsame : ∀ key, d.get? key = e.get? key) : d = e := by
  have hperm : d.entries.Perm e.entries := by
    refine (List.perm_ext_iff_of_nodup d.nodup_keys.of_map e.nodup_keys.of_map).2 fun entry => ?_
    rw [← get?_eq_some_iff, ← get?_eq_some_iff, hsame]
  refine ext (hperm.eq_of_pairwise (fun a b _ _ hbelow habove => ?_) d.sorted e.sorted)
  exact absurd habove (String.lt_asymm hbelow)

theorem get?_map (f : α → β) : (d.map f).get? key = (d.get? key).map f := by
  change (d.entries.map fun entry => (entry.1, f entry.2)).lookup key = (d.entries.lookup key).map f
  induction d.entries with
  | nil => rfl
  | cons entry rest ih =>
    rw [List.map_cons, List.lookup_cons, List.lookup_cons, ih]
    split <;> rfl

/-! ## Dictionaries of entries -/

/-- The last entry of a key is found, and without one what was there before. -/
theorem get?_insertAll {entries : List (String × α)} :
    (d.insertAll entries).get? key = (entries.reverse.lookup key).or (d.get? key) := by
  induction entries generalizing d with
  | nil => rfl
  | cons entry rest ih =>
    have hstep : d.insertAll (entry :: rest) = (d.insert entry.1 entry.2).insertAll rest := rfl
    rw [hstep, ih, get?_insert, List.reverse_cons, List.lookup_append, List.lookup_cons, List.lookup_nil,
      Option.or_assoc]
    by_cases hown : key = entry.1
    · simp [hown]
    · simp [hown, beq_eq_false_iff_ne.2 hown]

/-- Entries with keys of their own are all found. -/
theorem get?_ofList_eq_some_iff {entries : List (String × α)} (hunique : (entries.map Prod.fst).Nodup) :
    (ofList entries).get? key = some value ↔ (key, value) ∈ entries := by
  have hreversed : (entries.reverse.map Prod.fst).Nodup := by
    rw [List.map_reverse]
    exact List.nodup_reverse.2 hunique
  rw [ofList, get?_insertAll, get?_empty, Option.or_none, lookup_eq_some_iff hreversed, List.mem_reverse]

/-- Nothing but the entries is found. -/
theorem mem_of_mem_insertAll {entries : List (String × α)} {entry : String × α}
    (h : entry ∈ (d.insertAll entries).entries) : entry ∈ d.entries ∨ entry ∈ entries := by
  induction entries generalizing d with
  | nil => exact .inl h
  | cons other rest ih =>
    rcases ih (d := d.insert other.1 other.2) h with hbefore | hnew
    · rcases mem_insertEntry hbefore with rfl | hbefore
      · exact .inr List.mem_cons_self
      · exact .inl hbefore
    · exact .inr (List.mem_cons_of_mem _ hnew)

theorem mem_of_mem_ofList {entries : List (String × α)} {entry : String × α}
    (h : entry ∈ (ofList entries).entries) : entry ∈ entries :=
  (mem_of_mem_insertAll h).resolve_left List.not_mem_nil

/-- Values are replaced before or after they are inserted. -/
theorem map_insertAll (f : α → β) (entries : List (String × α)) :
    (d.insertAll entries).map f = (d.map f).insertAll (entries.map fun entry =>
      (entry.1, f entry.2)) := by
  induction entries generalizing d with
  | nil => rfl
  | cons entry rest ih =>
    have hstep : (d.insert entry.1 entry.2).map f = (d.map f).insert entry.1 (f entry.2) := by
      refine ext_get? fun key => ?_
      rw [get?_map, get?_insert, get?_insert, get?_map]
      split <;> rfl
    rw [List.map_cons]
    change ((d.insert entry.1 entry.2).insertAll rest).map f =
      ((d.map f).insert entry.1 (f entry.2)).insertAll _
    rw [ih, hstep]

theorem map_ofList (f : α → β) (entries : List (String × α)) :
    (ofList entries).map f = ofList (entries.map fun entry => (entry.1, f entry.2)) :=
  map_insertAll f entries

/-- It makes no difference that the entries are sorted first. -/
theorem ofList_map_entries (f : α → β) (entries : List (String × α)) :
    ofList ((ofList entries).entries.map fun entry => (entry.1, f entry.2)) =
      ofList (entries.map fun entry => (entry.1, f entry.2)) := by
  rw [← map_ofList, ← map_ofList, ofList_entries]

/-- They are the entries, sorted. -/
theorem entries_ofList_perm {entries : List (String × α)} (hunique : (entries.map Prod.fst).Nodup) :
    (ofList entries).entries.Perm entries := by
  refine (List.perm_ext_iff_of_nodup (nodup_keys _).of_map hunique.of_map).2 fun entry => ?_
  rw [← get?_eq_some_iff, get?_ofList_eq_some_iff hunique]

end InstanceIdentity.Dictionary
