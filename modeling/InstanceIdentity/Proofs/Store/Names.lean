import InstanceIdentity.Store.FileStore
import Mathlib.Data.List.TakeWhile

/-!
# The names of a path

A path is followed name by name; its empty parts are skipped.  The names of the path that holds the
last name come first among the names of the whole path, and a sibling in which a process prepares a
content ends in a name that no other process and no cache file has.

Main results:

- Theorems `Path.parts_join` and `Path.join_parts`: parts and texts of paths determine each other.
- Theorem `Path.parent_holds`: what is above the last name of a path.
- Theorems `FileStore.temporary_names`, `FileStore.temporaryName_ne`, `FileStore.temporaryName_inj`: the
  temporary sibling.
-/

namespace InstanceIdentity

namespace Path

/-! ## Parts -/

/-- Parts joined by slashes give the path back. -/
theorem join_parts (path : String) : join (parts path) = path := by
  have h : (parts path).map String.toList = path.toList.splitOn '/' := by
    simp [parts, List.map_map, Function.comp_def]
  rw [join, ← String.toList_inj, String.toList_intercalate, h]
  exact List.intercalate_splitOn '/'

/-- What lies between separators has none. -/
theorem notMem_of_mem_splitOn {c : Char} {piece chars : List Char}
    (h : piece ∈ chars.splitOn c) : c ∉ piece := by
  induction chars generalizing piece with
  | nil => simp_all
  | cons head rest ih =>
    rw [List.splitOn_cons_eq_if_modifyHead] at h
    by_cases hseparator : head = c
    · rw [if_pos (by simpa using hseparator)] at h
      rcases List.mem_cons.1 h with rfl | h
      · simp
      · exact ih h
    · rw [if_neg (by simpa using hseparator)] at h
      obtain ⟨first, more, hsplit⟩ := List.exists_cons_of_ne_nil (List.splitOn_ne_nil c rest)
      rw [hsplit] at h ih
      rcases List.mem_cons.1 h with rfl | h
      · have : c ∉ first := ih List.mem_cons_self
        simp [Ne.symm hseparator, this]
      · exact ih (List.mem_cons_of_mem _ h)

/-- No part has a slash. -/
theorem slash_notMem_part {path part : String} (h : part ∈ parts path) : '/' ∉ part.toList := by
  obtain ⟨piece, hp, rfl⟩ := List.mem_map.1 h
  rw [String.toList_ofList]
  exact notMem_of_mem_splitOn hp

theorem toList_join (names : List String) :
    (join names).toList = ['/'].intercalate (names.map String.toList) :=
  String.toList_intercalate

/-- Parts without slashes are the parts of the path that they are joined to. -/
theorem parts_join {names : List String} (hslashless : ∀ name ∈ names, '/' ∉ name.toList)
    (h : names ≠ []) : parts (join names) = names := by
  have hsplit : (join names).toList.splitOn '/' = names.map String.toList := by
    rw [toList_join]
    apply List.splitOn_intercalate
    · intro chars hc
      obtain ⟨name, hname, rfl⟩ := List.mem_map.1 hc
      exact hslashless name hname
    · simpa using h
  rw [parts, hsplit, List.map_map]
  simp [Function.comp_def]

/-- The first parts of a path are the beginning of its text. -/
theorem join_isPrefix {front : List String} (h : front ≠ []) (rest : List String) :
    (join front).toList <+: (join (front ++ rest)).toList := by
  rw [toList_join, toList_join]
  induction front with
  | nil => exact absurd rfl h
  | cons first more ih =>
    cases more with
    | nil => cases rest <;> simp [List.intercalate_cons_cons]
    | cons second more =>
      have := ih (by simp)
      simpa [List.intercalate_cons_cons] using this

/-! ## Names -/

/-- A name below a path is its last part; an empty part at the end of the path gives way to it. -/
theorem parts_child (path : String) {name : String} (hslashless : '/' ∉ name.toList) :
    ∃ front, parts (child path name) = front ++ [name] ∧
      (parts path = front ∨ parts path = front ++ [""]) := by
  have hlone : name.toList.splitOn '/' = [name.toList] := List.splitOn_eq_singleton hslashless
  have happended (front : List Char) :
      parts (String.ofList (front ++ '/' :: name.toList)) = parts (String.ofList front) ++ [name] := by
    simp [parts, List.splitOn_append_cons_self, hlone]
  rw [child]
  split
  case isTrue hempty =>
    subst hempty
    exact ⟨[], by simp [parts, hlone], .inr (by decide)⟩
  case isFalse =>
    split
    case isTrue hslashed =>
      obtain ⟨front, hf⟩ : ∃ front, path.toList = front ++ ['/'] :=
        List.getLast?_eq_some_iff.1 hslashed
      have htext : path ++ name = String.ofList (front ++ '/' :: name.toList) := by
        rw [← String.toList_inj, String.toList_append, hf]
        simp
      refine ⟨parts (String.ofList front), by rw [htext, happended], .inr ?_⟩
      simp [parts, hf, List.splitOn_append_cons_self]
    case isFalse =>
      have htext : path ++ "/" ++ name = String.ofList (path.toList ++ '/' :: name.toList) := by
        rw [← String.toList_inj]
        simp
      refine ⟨parts path, ?_, .inl rfl⟩
      rw [htext]
      simpa using happended path.toList

/-- A name below a path is its last. -/
theorem names_child {path name : String} (hslashless : '/' ∉ name.toList) (h : name ≠ "") :
    names (child path name) = names path ++ [name] := by
  obtain ⟨front, hwhole, hbefore⟩ := parts_child path hslashless
  have hkept : names path = front.filter (· != "") := by
    rcases hbefore with hsplit | hsplit <;> simp [names, hsplit]
  rw [hkept, names, hwhole, List.filter_append]
  simp [h]

/-- The text of a name below a path ends as the name does. -/
theorem getLast?_child {path name : String} (h : name ≠ "") :
    (child path name).toList.getLast? = name.toList.getLast? := by
  have hnonempty : name.toList ≠ [] := by
    intro hempty
    exact h (String.toList_inj.1 (by simpa using hempty))
  rw [child]
  split
  · rfl
  · split
    · simp [List.getLast?_append, List.getLast?_eq_some_getLast hnonempty]
    · simp [List.getLast?_append, List.getLast?_cons, List.getLast?_eq_some_getLast hnonempty]

/-- A name below a path starts where the path does. -/
theorem isRooted_child {path name : String} (hslashless : '/' ∉ name.toList) :
    isRooted (child path name) = isRooted path := by
  rw [child]
  split
  case isTrue hempty =>
    subst hempty
    match hchars : name.toList with
    | [] => simp [isRooted, hchars]
    | c :: more =>
      have : c ≠ '/' := by
        rintro rfl
        simp [hchars] at hslashless
      simp [isRooted, hchars, this]
  case isFalse hnonempty =>
    match hchars : path.toList with
    | [] => exact absurd (String.toList_inj.1 (by simpa using hchars)) hnonempty
    | c :: more => split <;> simp [isRooted, hchars]

/-! ## Above the last name -/

theorem nonempty_of_isName {part : String} (h : isName part = true) : (part != "") = true := by
  simp only [isName, Bool.and_eq_true] at h
  exact h.1

/-- The parts of a path around its last name, the part that is no step within a directory. -/
structure LastName (path : String) (before : List String) (name : String) : Prop where
  split : ∃ after, parts path = before ++ name :: after ∧ ∀ part ∈ after, isName part = false
  isName : isName name = true

theorem isName_of_dropWhile {names rest : List String} {name : String}
    (h : names.dropWhile (fun part => !isName part) = name :: rest) : isName name = true := by
  have := List.head?_dropWhile_not (fun part => !isName part) names
  simpa [h] using this

theorem lastName_of_dropWhile {path name : String} {rest : List String}
    (h : (parts path).reverse.dropWhile (fun part => !isName part) = name :: rest) :
    LastName path rest.reverse name := by
  let skipped := (parts path).reverse.takeWhile fun part => !isName part
  have hwhole : skipped ++ name :: rest = (parts path).reverse := by
    rw [← h]
    exact List.takeWhile_append_dropWhile
  constructor
  · refine ⟨skipped.reverse, ?_, ?_⟩
    · have := congrArg List.reverse hwhole
      simpa using this.symm
    · intro part hpart
      simpa using List.mem_takeWhile_imp (List.mem_reverse.1 hpart)
  · exact isName_of_dropWhile h

/-- Without a last name, all parts of a path are steps within a directory. -/
theorem isName_eq_false_of_dropWhile {path : String}
    (h : (parts path).reverse.dropWhile (fun part => !isName part) = []) :
    ∀ part ∈ parts path, isName part = false := by
  intro part hpart
  have := List.dropWhile_eq_nil_iff.1 h part (List.mem_reverse.2 hpart)
  simpa using this

theorem fileName?_of_lastName {path name : String} {rest : List String}
    (h : (parts path).reverse.dropWhile (fun part => !isName part) = name :: rest)
    (hdown : name ≠ "..") : fileName? path = some name := by
  rw [fileName?, h]
  simpa [Option.filter] using hdown

theorem dropWhile_of_fileName? {path name : String} (h : fileName? path = some name) :
    ∃ more, (parts path).reverse.dropWhile (fun part => !isName part) = name :: more ∧
      name ≠ ".." := by
  match hfront : (parts path).reverse.dropWhile fun part => !isName part with
  | [] => simp [fileName?, hfront] at h
  | other :: more =>
    rw [fileName?, hfront] at h
    obtain ⟨hsame, hdown⟩ := Option.filter_eq_some_iff.1 h
    cases hsame
    exact ⟨more, rfl, by simpa using hdown⟩

theorem mem_parts_of_fileName? {path name : String} (h : fileName? path = some name) :
    name ∈ parts path := by
  obtain ⟨more, hfront, -⟩ := dropWhile_of_fileName? h
  obtain ⟨after, hsplit, -⟩ := (lastName_of_dropWhile hfront).split
  simp [hsplit]

/-- The name that a path ends in names something. -/
theorem isName_of_fileName? {path name : String} (h : fileName? path = some name) :
    isName name = true := by
  obtain ⟨more, hfront, -⟩ := dropWhile_of_fileName? h
  exact isName_of_dropWhile hfront

/-- The name that a path ends in is its last name. -/
theorem fileName?_of_getLast? {path name : String} (hlast : (names path).getLast? = some name)
    (hproper : isName name = true) (hdown : name ≠ "..") : fileName? path = some name := by
  have hlisted : name ∈ parts path := (List.mem_filter.1 (List.mem_of_getLast? hlast)).1
  match h : (parts path).reverse.dropWhile fun part => !isName part with
  | [] =>
    have := isName_eq_false_of_dropWhile h name hlisted
    simp [hproper] at this
  | other :: rest =>
    obtain ⟨after, hsplit, hskipped⟩ := (lastName_of_dropWhile h).split
    have hkept : isName other = true := (lastName_of_dropWhile h).isName
    have hends : (names path).getLast? = (other :: after.filter (· != "")).getLast? := by
      have := nonempty_of_isName hkept
      rw [names, hsplit, List.filter_append, List.filter_cons, if_pos this,
        List.getLast?_append]
      simp [List.getLast?_cons]
    have hsame : name = other := by
      rcases List.mem_cons.1 (List.mem_of_getLast? (hends ▸ hlast)) with hsame | hamong
      · exact hsame
      · have := hskipped name (List.mem_filter.1 hamong).1
        simp [hproper] at this
    subst hsame
    exact fileName?_of_lastName h hdown

/-- One path holds another: it is the beginning of its text, and more names follow its own. -/
structure Holds (above path : String) : Prop where
  nonempty : above ≠ ""
  front : above.toList <+: path.toList
  names : ∃ rest, names path = Path.names above ++ rest ∧ ∃ name ∈ rest, isName name = true

theorem Holds.trans {top above path : String} (h₁ : Holds top above) (h₂ : Holds above path) :
    Holds top path := by
  obtain ⟨rest₁, hnames₁, -⟩ := h₁.names
  obtain ⟨rest₂, hnames₂, name, hlisted, hproper⟩ := h₂.names
  constructor
  · exact h₁.nonempty
  · exact h₁.front.trans h₂.front
  · exact ⟨rest₁ ++ rest₂, by rw [hnames₂, hnames₁, List.append_assoc], name,
      List.mem_append_right _ hlisted, hproper⟩

theorem isRooted_eq_of_prefix {above path : String} (hfront : above.toList <+: path.toList)
    (hnonempty : above ≠ "") : isRooted above = isRooted path := by
  obtain ⟨rest, htext⟩ := hfront
  match hchars : above.toList with
  | [] => exact absurd (String.toList_inj.1 (by simpa using hchars)) hnonempty
  | c :: more => simp [isRooted, ← htext, hchars]

theorem Holds.isRooted_eq {above path : String} (h : Holds above path) :
    isRooted above = isRooted path := isRooted_eq_of_prefix h.front h.nonempty

/-- Names that follow the parts of another path. -/
theorem names_join {path : String} {front rest : List String} (hsplit : parts path = front ++ rest)
    (h : front ≠ []) : names path = names (join front) ++ rest.filter (· != "") := by
  have hslashless : ∀ part ∈ front, '/' ∉ part.toList := by
    intro part hpart
    have : part ∈ parts path := by
      rw [hsplit]
      exact List.mem_append_left rest hpart
    exact slash_notMem_part this
  rw [names, names, hsplit, List.filter_append, parts_join hslashless h]

/-- Names that follow the root, or the point in front of a path. -/
theorem names_lead (path : String) :
    ∃ rest, names path = names (lead path) ++ rest ∧
      ∀ part ∈ names (lead path), isName part = false := by
  by_cases hrooted : isRooted path = true
  · have hisLead : lead path = "/" := by simp [lead, hrooted]
    rw [hisLead]
    exact ⟨names path, rfl, by decide⟩
  · by_cases hpointed : (parts path).head? = some "."
    · have hisLead : lead path = join ["."] := by
        simp only [lead, hrooted, hpointed]
        decide
      obtain ⟨more, hsplit⟩ : ∃ more, parts path = ["."] ++ more := List.head?_eq_some_iff.1 hpointed
      rw [hisLead]
      exact ⟨more.filter (· != ""), names_join hsplit (by decide), by decide⟩
    · have hisLead : lead path = "" := by simp [lead, hrooted, hpointed]
      rw [hisLead]
      exact ⟨names path, rfl, by decide⟩

/-- Parts that are followed although they name nothing are points. -/
theorem eq_point {part : String} {parts : List String} (hlisted : part ∈ parts.filter (· != ""))
    (hskipped : isName part = false) : part = "." := by
  have hnonempty := (List.mem_filter.1 hlisted).2
  simp only [isName, Bool.and_eq_false_iff] at hskipped
  rcases hskipped with hempty | hpoint
  · exact absurd hempty (by simp [hnonempty])
  · simpa using hpoint

/-- The last name follows the names of the path above it, between steps within a directory. -/
theorem names_parent {path above name : String} {more : List String}
    (hfront : (parts path).reverse.dropWhile (fun part => !isName part) = name :: more)
    (h : parent? path = some above) :
    ∃ before after, names path = names above ++ (before ++ name :: after) ∧
      ∀ other ∈ before ++ after, other = "." := by
  obtain ⟨after, hsplit, hskipped⟩ := (lastName_of_dropWhile hfront).split
  have hproper : isName name = true := (lastName_of_dropWhile hfront).isName
  have hkept : (name :: after).filter (· != "") = name :: after.filter (· != "") := by
    rw [List.filter_cons, if_pos (nonempty_of_isName hproper)]
  have hlate : ∀ other ∈ after.filter (· != ""), other = "." := fun other hlisted =>
    eq_point hlisted (hskipped other (List.mem_filter.1 hlisted).1)
  match hbefore : more.dropWhile fun part => !isName part with
  | [] =>
    simp only [parent?, beforeLast?, hfront, hbefore, Option.some.injEq] at h
    subst h
    have hearly : ∀ other ∈ more.reverse.filter (· != ""), other = "." := by
      intro other hlisted
      have hpart := List.mem_reverse.1 (List.mem_filter.1 hlisted).1
      exact eq_point hlisted (by simpa using List.dropWhile_eq_nil_iff.1 hbefore other hpart)
    obtain ⟨rest, hwhole, hlead⟩ := names_lead path
    have hnames : names (lead path) ++ rest =
        more.reverse.filter (· != "") ++ name :: after.filter (· != "") := by
      rw [← hwhole, names, hsplit, List.filter_append, hkept]
    rw [hwhole]
    rcases List.append_eq_append_iff.1 hnames with ⟨before, hfirst, hrest⟩ | ⟨extra, hfirst, hrest⟩
    · refine ⟨before, _, by rw [hrest], fun other hlisted => ?_⟩
      rcases List.mem_append.1 hlisted with hlisted | hlisted
      · apply hearly
        rw [hfirst]
        exact List.mem_append_right _ hlisted
      · exact hlate other hlisted
    · cases extra with
      | nil =>
        rw [List.nil_append] at hrest
        exact ⟨[], after.filter (· != ""), by rw [← hrest, List.nil_append], hlate⟩
      | cons first extra =>
        obtain ⟨rfl, -⟩ := List.cons.inj hrest
        have hunnamed := hlead name (by rw [hfirst]; simp)
        rw [hproper] at hunnamed
        cases hunnamed
  | last :: others =>
    simp only [parent?, beforeLast?, hfront, hbefore, Option.some.injEq] at h
    subst h
    have hwhole : more.takeWhile (fun part => !isName part) ++ last :: others = more := by
      rw [← hbefore]
      exact List.takeWhile_append_dropWhile
    have hsplit' : parts path = (last :: others).reverse ++
        ((more.takeWhile fun part => !isName part).reverse ++ name :: after) := by
      rw [hsplit, ← List.append_assoc, ← List.reverse_append, hwhole]
    refine ⟨(more.takeWhile fun part => !isName part).reverse.filter (· != ""),
      after.filter (· != ""), ?_, ?_⟩
    · rw [names_join hsplit' (by simp), List.filter_append, hkept]
    · intro other hlisted
      rcases List.mem_append.1 hlisted with hearly | hlisted
      · have hpart := List.mem_reverse.1 (List.mem_filter.1 hearly).1
        exact eq_point hearly (by simpa using List.mem_takeWhile_imp hpart)
      · exact hlate other hlisted

/-- A text begins with what the first of its parts make. -/
theorem join_isPrefix_of_parts {path : String} {front : List String} (hearly : front <+: parts path) :
    (join front).toList <+: path.toList := by
  obtain ⟨rest, hsplit⟩ := hearly
  by_cases hnothing : front = []
  · subst hnothing
    exact List.nil_prefix
  · have htext : (join (front ++ rest)).toList = path.toList := by rw [hsplit, join_parts]
    rw [← htext]
    exact join_isPrefix hnothing rest

/-- A text begins with where its path starts. -/
theorem lead_isPrefix (path : String) : (lead path).toList <+: path.toList := by
  by_cases hrooted : isRooted path = true
  · have hisLead : lead path = "/" := by simp [lead, hrooted]
    rw [hisLead]
    match hchars : path.toList with
    | [] => simp [isRooted, hchars] at hrooted
    | c :: rest =>
      have : c = '/' := by simpa [isRooted, hchars] using hrooted
      rw [this]
      exact ⟨rest, rfl⟩
  · by_cases hpointed : (parts path).head? = some "."
    · obtain ⟨rest, hsplit⟩ := List.head?_eq_some_iff.1 hpointed
      have hisLead : lead path = join ["."] := by
        simp only [lead, hrooted, hpointed]
        decide
      rw [hisLead]
      exact join_isPrefix_of_parts ⟨rest, hsplit.symm⟩
    · have hisLead : lead path = "" := by simp [lead, hrooted, hpointed]
      rw [hisLead]
      exact List.nil_prefix

/-- The path above the last name is a beginning of the text. -/
theorem parent_isPrefix {path above : String} (h : parent? path = some above) :
    above.toList <+: path.toList := by
  unfold parent? at h
  split at h
  case h_1 =>
    cases h
    exact lead_isPrefix path
  case h_2 before _ hfound =>
    cases h
    apply join_isPrefix_of_parts
    unfold beforeLast? at hfound
    split at hfound
    case h_1 => cases hfound
    case h_2 name more hfront =>
      cases hfound
      have hfirst : (more.dropWhile fun part => !isName part).reverse <+: more.reverse :=
        List.reverse_prefix.2 (List.dropWhile_suffix _)
      obtain ⟨after, hsplit, -⟩ := (lastName_of_dropWhile hfront).split
      rw [hsplit]
      exact hfirst.trans (List.prefix_append _ _)
  case h_3 =>
    split at h
    · cases h
      exact List.nil_prefix
    · cases h

/-- The path above the last name holds the whole path. -/
theorem parent_holds {path above : String} (h : parent? path = some above) (hnonempty : above ≠ "") :
    Holds above path := by
  match hfront : (parts path).reverse.dropWhile fun part => !isName part with
  | [] =>
    simp only [parent?, beforeLast?, hfront] at h
    split at h
    · exact absurd (Option.some.inj h).symm hnonempty
    · cases h
  | name :: more =>
    obtain ⟨before, after, hwhole, -⟩ := names_parent hfront h
    exact ⟨hnonempty, parent_isPrefix h, _, hwhole, name, by simp,
      (lastName_of_dropWhile hfront).isName⟩

/-- A path and what is above its last name start from the same place. -/
theorem isRooted_parent {path above name : String} {more : List String}
    (hfront : (parts path).reverse.dropWhile (fun part => !isName part) = name :: more)
    (h : parent? path = some above) : isRooted above = isRooted path := by
  by_cases hnonempty : above = ""
  · subst hnonempty
    match hbefore : more.dropWhile fun part => !isName part with
    | [] =>
      simp only [parent?, beforeLast?, hfront, hbefore, Option.some.injEq] at h
      by_cases hrooted : isRooted path = true
      · simp [lead, hrooted] at h
      · have hunrooted : isRooted path = false := by simpa using hrooted
        rw [hunrooted]
        decide
    | last :: others =>
      simp only [parent?, beforeLast?, hfront, hbefore, Option.some.injEq] at h
      have hproper : isName last = true := isName_of_dropWhile hbefore
      have hslashless : ∀ part ∈ (last :: others).reverse, '/' ∉ part.toList := by
        intro part hlisted
        have hearly : part ∈ more := by
          apply List.dropWhile_subset fun part => !isName part
          rw [hbefore]
          exact List.mem_reverse.1 hlisted
        obtain ⟨after, hsplit, -⟩ := (lastName_of_dropWhile hfront).split
        have hamong : part ∈ parts path := by simp [hsplit, hearly]
        exact slash_notMem_part hamong
      have hsingle := parts_join hslashless (by simp)
      rw [h] at hsingle
      have hnone : parts "" = [""] := by decide
      rw [hnone] at hsingle
      have hempty : last = "" := by
        have : last ∈ [""] := by simp [hsingle]
        simpa using this
      rw [hempty] at hproper
      exact absurd hproper (by decide)
  · exact (parent_holds h hnonempty).isRooted_eq

end Path

/-! ## The temporary sibling -/

namespace FileStore

/-- The last name of the temporary sibling. -/
def temporaryName (store : FileStore) : String :=
  (Path.fileName? store.path).getD "" ++ "." ++ toString store.process ++ ".tmp"

theorem slash_notMem_temporaryName (store : FileStore) : '/' ∉ store.temporaryName.toList := by
  have hfile : '/' ∉ ((Path.fileName? store.path).getD "").toList := by
    match h : Path.fileName? store.path with
    | none => simp
    | some name => exact Path.slash_notMem_part (Path.mem_parts_of_fileName? h)
  have hprocess : '/' ∉ Nat.toDigits 10 store.process := by
    intro h
    have := Nat.isDigit_of_mem_toDigits (by decide) (by decide) h
    revert this
    decide
  simp [temporaryName, hfile, hprocess]

theorem getLast?_temporaryName (store : FileStore) :
    store.temporaryName.toList.getLast? = some 'p' := by
  simp [temporaryName, List.getLast?_append, List.getLast?_cons]

theorem temporaryName_ne_of_getLast? (store : FileStore) {name : String}
    (h : name.toList.getLast? ≠ some 'p') : store.temporaryName ≠ name := by
  intro hsame
  exact h (hsame ▸ store.getLast?_temporaryName)

theorem temporaryName_ne_empty (store : FileStore) : store.temporaryName ≠ "" :=
  store.temporaryName_ne_of_getLast? (by decide)

theorem isName_temporaryName (store : FileStore) : Path.isName store.temporaryName = true := by
  have hhere : store.temporaryName ≠ "." := store.temporaryName_ne_of_getLast? (by decide)
  simp [Path.isName, hhere, store.temporaryName_ne_empty]

theorem temporary_eq (store : FileStore) :
    store.temporary = Path.withFileName store.path store.temporaryName := rfl

theorem getLast?_temporary (store : FileStore) : store.temporary.toList.getLast? = some 'p' := by
  rw [temporary_eq, Path.withFileName]
  split
  all_goals rw [Path.getLast?_child store.temporaryName_ne_empty, getLast?_temporaryName]

/-- The temporary sibling has another name than the cache file. -/
theorem temporaryName_ne (store : FileStore) {name : String}
    (h : Path.fileName? store.path = some name) : store.temporaryName ≠ name := by
  intro hsame
  have hlengths : store.temporaryName.length = name.length := congrArg String.length hsame
  have hsuffix : ".tmp".length = 4 := rfl
  simp only [temporaryName, h, Option.getD_some, String.length_append, hsuffix] at hlengths
  omega

/-- The paths of the cache file and of its temporary sibling part at the last: the names before are
common to both, and then comes the name of either, that of the cache file between steps within the
directory. -/
theorem temporary_names (store : FileStore) :
    Path.isRooted store.temporary = Path.isRooted store.path ∧
      ∃ front before after, Path.names store.temporary = front ++ [store.temporaryName] ∧
        Path.names store.path =
          front ++ (before ++ (Path.fileName? store.path).toList ++ after) ∧
        ∀ name ∈ before ++ after, name = "." := by
  have hnames (path : String) :
      Path.names (Path.child path store.temporaryName) = Path.names path ++ [store.temporaryName] :=
    Path.names_child store.slash_notMem_temporaryName store.temporaryName_ne_empty
  have hrooted (path : String) :
      Path.isRooted (Path.child path store.temporaryName) = Path.isRooted path :=
    Path.isRooted_child store.slash_notMem_temporaryName
  rw [temporary_eq, Path.withFileName]
  split
  case h_1 name hfile =>
    obtain ⟨more, hfront, -⟩ := Path.dropWhile_of_fileName? hfile
    obtain ⟨above, hparent⟩ : ∃ above, Path.parent? store.path = some above := by
      match hbefore : more.dropWhile fun part => !Path.isName part with
      | [] => exact ⟨Path.lead store.path, by simp [Path.parent?, Path.beforeLast?, hfront, hbefore]⟩
      | last :: others =>
        exact ⟨Path.join (last :: others).reverse,
          by simp [Path.parent?, Path.beforeLast?, hfront, hbefore]⟩
    rw [hparent, Option.getD_some, hrooted, hnames]
    obtain ⟨before, after, hwhole, hbetween⟩ := Path.names_parent hfront hparent
    exact ⟨Path.isRooted_parent hfront hparent, _, before, after, rfl, by simpa [hfile] using hwhole,
      hbetween⟩
  case h_2 hfile =>
    rw [hrooted, hnames]
    exact ⟨rfl, _, [], [], rfl, by simp [hfile], by simp⟩

/-- No name of the path to the cache file is the temporary sibling's, after those that are common to
both. -/
theorem temporaryName_notMem (store : FileStore) {before after : List String}
    (hpoints : ∀ name ∈ before ++ after, name = ".") :
    store.temporaryName ∉ before ++ (Path.fileName? store.path).toList ++ after := by
  have hnotHere : store.temporaryName ≠ "." := store.temporaryName_ne_of_getLast? (by decide)
  simp only [List.mem_append, Option.mem_toList, not_or]
  refine ⟨⟨fun hlisted => ?_, fun hlisted => ?_⟩, fun hlisted => ?_⟩
  · exact hnotHere (hpoints _ (List.mem_append_left _ hlisted))
  · exact store.temporaryName_ne hlisted rfl
  · exact hnotHere (hpoints _ (List.mem_append_right _ hlisted))

/-- A text with a number at its end, after a point, determines both, whatever is in the text. -/
theorem numbered_inj {front other : List Char} {number last : Nat}
    (h : front ++ '.' :: Nat.toDigits 10 number = other ++ '.' :: Nat.toDigits 10 last) :
    front = other ∧ number = last := by
  -- the digits of the number are what is read from the end up to the first point
  have htrailing (text : List Char) (n : Nat) :
      (text ++ '.' :: Nat.toDigits 10 n).reverse.takeWhile Char.isDigit =
        (Nat.toDigits 10 n).reverse := by
    have hdigits : ∀ c ∈ (Nat.toDigits 10 n).reverse, c.isDigit = true := fun c hlisted =>
      Nat.isDigit_of_mem_toDigits (by decide) (by decide) (List.mem_reverse.1 hlisted)
    have hpoint : ¬ Char.isDigit '.' = true := by decide
    rw [List.reverse_append, List.reverse_cons, List.append_assoc, List.singleton_append,
      List.takeWhile_append_of_pos hdigits, List.takeWhile_cons_of_neg hpoint, List.append_nil]
  have hdigits : Nat.toDigits 10 number = Nat.toDigits 10 last := by
    rw [← List.reverse_inj, ← htrailing front number, h, htrailing]
  constructor
  · rw [hdigits] at h
    exact List.append_cancel_right h
  · calc number = Nat.ofDigitChars 10 (Nat.toDigits 10 number) 0 :=
        Nat.ofDigitChars_ten_toDigits.symm
      _ = Nat.ofDigitChars 10 (Nat.toDigits 10 last) 0 := by rw [hdigits]
      _ = last := Nat.ofDigitChars_ten_toDigits

/-- The name of a temporary sibling determines the name of the cache file and the process. -/
theorem temporaryName_inj {store other : FileStore}
    (h : store.temporaryName = other.temporaryName) :
    Path.fileName? store.path = Path.fileName? other.path ∧ store.process = other.process := by
  have htext (s : FileStore) : s.temporaryName.toList =
      (((Path.fileName? s.path).getD "").toList ++ '.' :: Nat.toDigits 10 s.process) ++
        ".tmp".toList := by
    simp [temporaryName]
  have hchars := congrArg String.toList h
  rw [htext, htext] at hchars
  obtain ⟨hfile, hprocess⟩ := numbered_inj (List.append_cancel_right hchars)
  have hfile : (Path.fileName? store.path).getD "" = (Path.fileName? other.path).getD "" :=
    String.toList_inj.1 hfile
  refine ⟨?_, hprocess⟩
  match hs : Path.fileName? store.path, ho : Path.fileName? other.path with
  | none, none => rfl
  | some name, some name' => simpa [hs, ho] using hfile
  | none, some name =>
    have hproper := Path.isName_of_fileName? ho
    simp [hs, ho] at hfile
    exact absurd hproper (by simp [← hfile, Path.isName])
  | some name, none =>
    have hproper := Path.isName_of_fileName? hs
    simp [hs, ho] at hfile
    exact absurd hproper (by simp [hfile, Path.isName])

end FileStore

end InstanceIdentity
