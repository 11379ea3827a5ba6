/-!
# Dictionaries

A dictionary maps texts to values and lists its entries in the order of their keys, code point by
code point, which is also the order of their UTF-8 bytes.  The order belongs to the type, so two
dictionaries with the same entries are equal however they were built.
-/

namespace InstanceIdentity

/-- Two distinct texts are ordered one way or the other. -/
theorem text_lt_of_not_lt {a b : String} (h : ¬ a < b) (hne : a ≠ b) : b < a := by
  rw [String.lt_iff] at h ⊢
  rcases List.le_iff_lt_or_eq.1 (List.not_lt.1 h) with hlt | heq
  · exact hlt
  · exact absurd (String.toList_inj.1 heq).symm hne

/-- Entries with strictly increasing keys. -/
structure Dictionary (α : Type) where
  entries : List (String × α)
  sorted : entries.Pairwise fun a b => a.1 < b.1

namespace Dictionary

variable {α : Type}

@[ext]
theorem ext {d e : Dictionary α} (h : d.entries = e.entries) : d = e := by
  cases d; cases e; cases h; rfl

instance [DecidableEq α] : DecidableEq (Dictionary α) := fun d e =>
  decidable_of_iff (d.entries = e.entries) ⟨ext, fun h => h ▸ rfl⟩

/-- The dictionary without entries. -/
def empty : Dictionary α := ⟨[], .nil⟩

instance : Inhabited (Dictionary α) := ⟨empty⟩

/-- Puts an entry into its place in a sorted list, replacing one with the same key. -/
def insertEntry (key : String) (value : α) : List (String × α) → List (String × α)
  | [] => [(key, value)]
  | (k, v) :: rest =>
    if key < k then (key, value) :: (k, v) :: rest
    else if key = k then (key, value) :: rest
    else (k, v) :: insertEntry key value rest

/-- What an insertion holds was inserted or there before. -/
theorem mem_insertEntry {key : String} {value : α} {entry : String × α}
    {entries : List (String × α)} (h : entry ∈ insertEntry key value entries) :
    entry = (key, value) ∨ entry ∈ entries := by
  induction entries with
  | nil => simpa [insertEntry] using h
  | cons head rest ih =>
    obtain ⟨k, v⟩ := head
    rw [insertEntry] at h
    split at h
    · simpa using h
    · split at h
      · rcases List.mem_cons.1 h with h | h
        · exact .inl h
        · exact .inr (List.mem_cons_of_mem _ h)
      · rcases List.mem_cons.1 h with h | h
        · exact .inr (h ▸ List.mem_cons_self)
        · exact (ih h).imp id (List.mem_cons_of_mem _)

/-- Insertion keeps the keys strictly increasing. -/
theorem insertEntry_sorted (key : String) (value : α) {entries : List (String × α)}
    (h : entries.Pairwise fun a b => a.1 < b.1) :
    (insertEntry key value entries).Pairwise fun a b => a.1 < b.1 := by
  induction entries with
  | nil => simp [insertEntry]
  | cons head rest ih =>
    obtain ⟨k, v⟩ := head
    have hrest := List.pairwise_cons.1 h
    rw [insertEntry]
    split
    · rename_i hlt
      refine List.pairwise_cons.2 ⟨fun entry hmem => ?_, h⟩
      rcases List.mem_cons.1 hmem with rfl | hmem
      · exact hlt
      · exact String.lt_trans hlt (hrest.1 entry hmem)
    · split
      · rename_i heq
        subst heq
        exact List.pairwise_cons.2 ⟨fun entry hmem => hrest.1 entry hmem, hrest.2⟩
      · rename_i hlt hne
        refine List.pairwise_cons.2 ⟨fun entry hmem => ?_, ih hrest.2⟩
        rcases mem_insertEntry hmem with rfl | hmem
        · exact text_lt_of_not_lt hlt hne
        · exact hrest.1 entry hmem

/-- Adds an entry, or replaces the one with the same key. -/
def insert (d : Dictionary α) (key : String) (value : α) : Dictionary α :=
  ⟨insertEntry key value d.entries, insertEntry_sorted key value d.sorted⟩

/-- Inserts entries one after the other; the last one of a key stays. -/
def insertAll (d : Dictionary α) (entries : List (String × α)) : Dictionary α :=
  entries.foldl (fun acc entry => acc.insert entry.1 entry.2) d

/-- The dictionary of a list of entries; the last one of a key stays. -/
def ofList (entries : List (String × α)) : Dictionary α := empty.insertAll entries

/-- The value stored under a key. -/
def get? (d : Dictionary α) (key : String) : Option α := d.entries.lookup key

/-- The keys, in order. -/
def keys (d : Dictionary α) : List String := d.entries.map Prod.fst

/-- The values, in the order of their keys. -/
def values (d : Dictionary α) : List α := d.entries.map Prod.snd

/-- The number of entries. -/
def size (d : Dictionary α) : Nat := d.entries.length

/-- Applies a function to every value. -/
def map {β : Type} (f : α → β) (d : Dictionary α) : Dictionary β :=
  ⟨d.entries.map fun entry => (entry.1, f entry.2),
    List.pairwise_map.2 d.sorted⟩

@[simp]
theorem map_id (d : Dictionary α) : d.map id = d :=
  ext (List.map_id d.entries)

/-- Looking up in a list after an insertion. -/
theorem lookup_insertEntry (key other : String) (value : α) (entries : List (String × α)) :
    (insertEntry key value entries).lookup other =
      if other = key then some value else entries.lookup other := by
  induction entries with
  | nil =>
    by_cases h : other = key
    · simp [insertEntry, h]
    · simp [insertEntry, List.lookup_cons, beq_eq_false_iff_ne.2 h, h]
  | cons head rest ih =>
    obtain ⟨k, v⟩ := head
    rw [insertEntry]
    by_cases h : other = key
    · subst h
      split
      · simp
      · split
        · simp
        · rename_i hne
          simp [List.lookup_cons, beq_eq_false_iff_ne.2 hne, ih]
    · split
      · simp [List.lookup_cons, beq_eq_false_iff_ne.2 h]
      · split
        · rename_i heq
          subst heq
          simp [List.lookup_cons, beq_eq_false_iff_ne.2 h]
        · simp only [List.lookup_cons, ih, if_neg h]

/-- An insertion changes the value of its own key alone. -/
theorem get?_insert (d : Dictionary α) (key other : String) (value : α) :
    (d.insert key value).get? other = if other = key then some value else d.get? other :=
  lookup_insertEntry key other value d.entries

@[simp]
theorem get?_empty (key : String) : (empty : Dictionary α).get? key = none :=
  rfl

/-- An entry behind all others is put at the end. -/
theorem insertEntry_of_lt {entries : List (String × α)} {key : String} (value : α)
    (hlast : ∀ entry ∈ entries, entry.1 < key) :
    insertEntry key value entries = entries ++ [(key, value)] := by
  induction entries with
  | nil => rfl
  | cons head rest ih =>
    obtain ⟨k, v⟩ := head
    have hbefore : k < key := hlast (k, v) List.mem_cons_self
    have hapart : key ≠ k := fun hsame => String.lt_irrefl key (hsame ▸ hbefore)
    rw [insertEntry, if_neg (String.lt_asymm hbefore), if_neg hapart,
      ih fun entry hmem => hlast entry (List.mem_cons_of_mem _ hmem), List.cons_append]

/-- Entries in order are added at the end. -/
theorem entries_insertAll {d : Dictionary α} {entries : List (String × α)}
    (hordered : (d.entries ++ entries).Pairwise fun a b => a.1 < b.1) :
    (d.insertAll entries).entries = d.entries ++ entries := by
  induction entries generalizing d with
  | nil => exact (List.append_nil _).symm
  | cons entry entries ih =>
    have hbefore := (List.pairwise_append.1 hordered).2.2
    have hinserted : (d.insert entry.1 entry.2).entries = d.entries ++ [entry] :=
      insertEntry_of_lt entry.2 fun other hmem => hbefore other hmem entry List.mem_cons_self
    have hall : d.entries ++ entry :: entries = (d.insert entry.1 entry.2).entries ++ entries := by
      rw [hinserted, List.append_assoc, List.singleton_append]
    rw [hall] at hordered ⊢
    exact ih hordered

/-- A dictionary is the dictionary of its entries. -/
@[simp]
theorem ofList_entries (d : Dictionary α) : ofList d.entries = d :=
  ext (entries_insertAll (d := empty) d.sorted)

end Dictionary

end InstanceIdentity
