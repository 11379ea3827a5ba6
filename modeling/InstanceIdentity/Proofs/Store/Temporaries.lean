import InstanceIdentity.Proofs.Store.Siblings

/-!
# Whose temporary sibling it is

Texts that differ in doubled slashes, in points between names or in a slash at the end are one path:
what counts is where it starts and which names it has.  A temporary sibling, as a path and as a place
in a file system, determines the cache file that it belongs to and the process that writes it.

Main results:

- Theorems `Path.components_parent`, `Path.fileName?_eq`: the directory and the file name of a path are
  the same for all its texts.
- Theorem `FileStore.place_eq`: the cache file is in the directory of its temporary sibling.
- Theorem `FileStore.temporary_same_iff`: equal temporary siblings have equal cache files and processes.
- Theorem `FileStore.temporaries_private`: the sibling is in the directory of the cache file, is not the
  cache file, and is shared with no other cache file and no other process.
-/

namespace InstanceIdentity

namespace Path

/-- What all texts of a path have in common: where it starts, and its names. -/
def components (path : String) : String × List String := (lead path, (parts path).filter isName)

/-! ## Starts -/

theorem lead_cases (path : String) : lead path = "/" ∨ lead path = "." ∨ lead path = "" := by
  unfold lead
  split
  · exact .inl rfl
  · split
    · exact .inr (.inl rfl)
    · exact .inr (.inr rfl)

theorem lead_lead (path : String) : lead (lead path) = lead path := by
  rcases lead_cases path with hstart | hstart | hstart <;> rw [hstart] <;> decide

theorem isName_eq_false_of_mem_lead {path part : String} (h : part ∈ parts (lead path)) :
    isName part = false := by
  revert part
  rcases lead_cases path with hstart | hstart | hstart <;> rw [hstart] <;> decide

/-- Paths that agree on the slash in front and on their first part start alike. -/
theorem lead_congr {path other : String} (hrooted : isRooted path = isRooted other)
    (hfirst : (parts path).head? = some "." ↔ (parts other).head? = some ".") :
    lead path = lead other := by
  simp only [lead, hrooted, hfirst]

/-! ## Names below a path -/

section Child

variable {path name : String} (hslashless : '/' ∉ name.toList) (hproper : isName name = true)

include hslashless hproper

theorem lead_child : lead (child path name) = lead path := by
  obtain ⟨front, hwhole, hbefore⟩ := parts_child path hslashless
  apply lead_congr (isRooted_child hslashless)
  have hnamed : name ≠ "." := by
    rintro rfl
    exact absurd hproper (by decide)
  rw [hwhole]
  rcases hbefore with hsplit | hsplit
  · have hnonempty : front ≠ [] := by
      rw [← hsplit, parts]
      simp
    obtain ⟨first, more, hcons⟩ := List.exists_cons_of_ne_nil hnonempty
    simp [hsplit, hcons]
  · rw [hsplit]
    cases front with
    | nil => simp [hnamed]
    | cons first more => simp

/-- What is before a name below a path are the parts of the path. -/
theorem beforeLast?_child : beforeLast? (child path name) =
    some ((parts path).reverse.dropWhile fun part => !isName part) := by
  obtain ⟨front, hwhole, hbefore⟩ := parts_child path hslashless
  have hkept : (parts path).reverse.dropWhile (fun part => !isName part) =
      front.reverse.dropWhile fun part => !isName part := by
    rcases hbefore with hsplit | hsplit
    · rw [hsplit]
    · have hskipped : isName "" = false := by decide
      simp [hsplit, hskipped]
  rw [hkept, beforeLast?, hwhole, List.reverse_append]
  simp [hproper]

theorem components_child :
    components (child path name) = (lead path, (components path).2 ++ [name]) := by
  obtain ⟨front, hwhole, hbefore⟩ := parts_child path hslashless
  have hkept : (parts path).filter isName = front.filter isName := by
    have hskipped : isName "" = false := by decide
    rcases hbefore with hsplit | hsplit <;> simp [hsplit, hskipped]
  simp only [components, lead_child hslashless hproper, hwhole, hkept, List.filter_append]
  simp [hproper]

theorem fileName?_child (hdown : name ≠ "..") : fileName? (child path name) = some name := by
  obtain ⟨front, hwhole, -⟩ := parts_child path hslashless
  rw [fileName?, hwhole, List.reverse_append]
  simp [hproper, Option.filter, hdown]

end Child

/-! ## The path that holds the last name -/

theorem filter_dropWhile_not (p : String → Bool) (names : List String) :
    (names.dropWhile fun name => !p name).filter p = names.filter p := by
  induction names with
  | nil => rfl
  | cons name names ih =>
    cases h : p name with
    | true => simp [h]
    | false => simp [h, ih]

/-- The names of a path, last first, from its parts without those that count for nothing at the
end. -/
theorem components_eq {path : String} {front : List String}
    (h : (parts path).reverse.dropWhile (fun part => !isName part) = front) :
    components path = (lead path, (front.filter isName).reverse) := by
  rw [components, ← h, filter_dropWhile_not, List.filter_reverse, List.reverse_reverse]

/-- Above its last name a path starts alike, and its parts are those before the name. -/
theorem parent?_of_dropWhile {path name : String} {more : List String}
    (hfront : (parts path).reverse.dropWhile (fun part => !isName part) = name :: more) :
    ∃ above, parent? path = some above ∧ lead above = lead path ∧
      (parts above).reverse.dropWhile (fun part => !isName part) =
        more.dropWhile fun part => !isName part := by
  match hbefore : more.dropWhile fun part => !isName part with
  | [] =>
    refine ⟨lead path, by simp [parent?, beforeLast?, hfront, hbefore], lead_lead path, ?_⟩
    rw [List.dropWhile_eq_nil_iff]
    intro part hlisted
    simp [isName_eq_false_of_mem_lead (List.mem_reverse.1 hlisted)]
  | last :: others =>
    have hparent : parent? path = some (join (last :: others).reverse) := by
      simp [parent?, beforeLast?, hfront, hbefore]
    -- the parts of what is above are the first ones of the whole path
    obtain ⟨rest, hsplit⟩ : ∃ rest, parts path = (last :: others).reverse ++ rest := by
      obtain ⟨after, hsplit, -⟩ := (lastName_of_dropWhile hfront).split
      obtain ⟨skipped, hwhole⟩ := List.dropWhile_suffix (fun part => !isName part) (l := more)
      rw [hbefore] at hwhole
      exact ⟨skipped.reverse ++ name :: after, by rw [hsplit, ← hwhole]; simp⟩
    have hslashless : ∀ part ∈ (last :: others).reverse, '/' ∉ part.toList := fun part hlisted =>
      slash_notMem_part (hsplit ▸ List.mem_append_left rest hlisted)
    have hnonempty : (last :: others).reverse ≠ [] := by simp
    have hown := parts_join hslashless hnonempty
    refine ⟨_, hparent, ?_, ?_⟩
    · apply lead_congr (isRooted_parent hfront hparent)
      rw [hown, hsplit, List.head?_append, Option.or_of_isSome (by simp)]
    · rw [hown, List.reverse_reverse]
      simp [isName_of_dropWhile hbefore]

/-- A name in the directory of another is in the same directory. -/
theorem parent?_child_parent {path above name : String} (hslashless : '/' ∉ name.toList)
    (hproper : isName name = true) (hfile : fileName? path ≠ none) (h : parent? path = some above) :
    parent? (child above name) = some above := by
  obtain ⟨last, hnamed⟩ := Option.ne_none_iff_exists'.1 hfile
  obtain ⟨more, hfront, -⟩ := dropWhile_of_fileName? hnamed
  obtain ⟨above', hparent, hstart, hbefore⟩ := parent?_of_dropWhile hfront
  cases h.symm.trans hparent
  -- both are found from the same parts
  have hsame : beforeLast? (child above name) = beforeLast? path := by
    rw [beforeLast?_child hslashless hproper, hbefore, beforeLast?, hfront]
  rw [← h, parent?, parent?, hsame, lead_child hslashless hproper, hstart]

/-- The directory of a path is found from its components. -/
theorem components_parent (path : String) :
    (parent? path).map components =
      if (components path).2 = [] then
        if (components path).1 = "." then some ("", []) else none
      else some ((components path).1, (components path).2.dropLast) := by
  match hfront : (parts path).reverse.dropWhile fun part => !isName part with
  | [] =>
    have hnothing : components "" = ("", []) := by decide
    rw [components_eq hfront, parent?, beforeLast?, hfront]
    by_cases hpointed : lead path = "."
    · simp [hpointed, hnothing]
    · simp [hpointed]
  | name :: more =>
    obtain ⟨above, hparent, hstart, hbefore⟩ := parent?_of_dropWhile hfront
    have hproper : isName name = true := isName_of_dropWhile hfront
    rw [components_eq hfront, hparent, Option.map_some, components_eq hbefore, filter_dropWhile_not,
      hstart]
    simp [hproper]

/-- The file name of a path is the last of its names. -/
theorem fileName?_eq (path : String) :
    fileName? path = (components path).2.getLast?.filter (· != "..") := by
  rw [fileName?, ← List.find?_eq_head?_dropWhile_not, ← List.head?_filter, List.filter_reverse,
    List.head?_reverse, components]

end Path

/-! ## Temporary siblings -/

namespace FileStore

open FileSystem (Target)

variable {store other : FileStore} {fs : FileSystem} {target place : Target}

theorem temporaryName_ne_up (store : FileStore) : store.temporaryName ≠ ".." :=
  store.temporaryName_ne_of_getLast? (by decide)

/-- The temporary sibling of a named cache file is below the path that holds its name. -/
theorem temporary_eq_child {name : String} (hfile : Path.fileName? store.path = some name) :
    ∃ directory, Path.parent? store.path = some directory ∧
      store.temporary = Path.child directory store.temporaryName := by
  obtain ⟨more, hfront, -⟩ := Path.dropWhile_of_fileName? hfile
  obtain ⟨above, hparent, -⟩ := Path.parent?_of_dropWhile hfront
  refine ⟨above, hparent, ?_⟩
  rw [temporary_eq, Path.withFileName, hfile, hparent]
  rfl

/-- The temporary sibling has the names of the cache file with another at the end. -/
theorem components_temporary (store : FileStore) :
    ∃ front, (Path.components store.path).2 = front ++ (Path.fileName? store.path).toList ∧
      Path.components store.temporary = (Path.lead store.path, front ++ [store.temporaryName]) := by
  have hbelow (path : String) : Path.components (Path.child path store.temporaryName) =
      (Path.lead path, (Path.components path).2 ++ [store.temporaryName]) :=
    Path.components_child store.slash_notMem_temporaryName store.isName_temporaryName
  cases hfile : Path.fileName? store.path with
  | none =>
    refine ⟨(Path.components store.path).2, by simp, ?_⟩
    rw [temporary_eq, Path.withFileName, hfile]
    exact hbelow store.path
  | some name =>
    obtain ⟨above, hparent, hsibling⟩ := temporary_eq_child hfile
    have hnamed : (Path.components store.path).2.getLast?.filter (· != "..") = some name := by
      rw [← Path.fileName?_eq, hfile]
    obtain ⟨front, hwhole⟩ := List.getLast?_eq_some_iff.1 (Option.filter_eq_some_iff.1 hnamed).1
    have hdirectory : Path.components above = (Path.lead store.path, front) := by
      have hfound := Path.components_parent store.path
      rw [hparent, hwhole, if_neg (by simp), List.dropLast_concat] at hfound
      exact Option.some.inj hfound
    have hstart : Path.lead above = Path.lead store.path := congrArg Prod.fst hdirectory
    exact ⟨front, hwhole, by rw [hsibling, hbelow, hstart, hdirectory]⟩

/-- Names that end in temporary siblings tell whose siblings they are. -/
theorem sibling_inj {front front' : List String}
    (h : front ++ [store.temporaryName] = front' ++ [other.temporaryName]) :
    front = front' ∧ Path.fileName? store.path = Path.fileName? other.path ∧
      store.process = other.process := by
  obtain ⟨hfronts, hlast⟩ :=
    List.append_inj' h (List.length_singleton.trans List.length_singleton.symm)
  exact ⟨hfronts, temporaryName_inj (List.singleton_inj.1 hlast)⟩

/-- Temporary siblings are the same path exactly for one cache file and one process. -/
theorem temporary_same_iff :
    Path.components store.temporary = Path.components other.temporary ↔
      Path.components store.path = Path.components other.path ∧ store.process = other.process := by
  obtain ⟨front, hwhole, htemporary⟩ := store.components_temporary
  obtain ⟨front', hwhole', htemporary'⟩ := other.components_temporary
  rw [htemporary, htemporary', Prod.mk.injEq]
  constructor
  · rintro ⟨hstart, hnames⟩
    obtain ⟨hfronts, hfile, hprocess⟩ := sibling_inj hnames
    refine ⟨Prod.ext hstart ?_, hprocess⟩
    rw [hwhole, hwhole', hfronts, hfile]
  · rintro ⟨hpaths, hprocess⟩
    have hfile : Path.fileName? store.path = Path.fileName? other.path := by
      rw [Path.fileName?_eq, Path.fileName?_eq, hpaths]
    have hfronts : front = front' := by
      rw [hpaths, hwhole', hfile] at hwhole
      exact (List.append_cancel_right hwhole).symm
    refine ⟨congrArg Prod.fst hpaths, ?_⟩
    rw [hfronts, temporaryName, temporaryName, hfile, hprocess]

/-- Without symbolic links a name leads down. -/
theorem eq_of_leads_name {here there : Place} {name : String} {count : Nat} (hlinkless : fs.Linkless)
    (hproper : Path.isName name = true) (hdown : name ≠ "..") (h : fs.Leads here [name] count there) :
    there = here ++ [name] := by
  cases h with
  | stay => exact absurd hproper (by decide)
  | up => exact absurd rfl hdown
  | down _ _ hfurther =>
    cases hfurther
    rfl
  | link _ hentry => exact absurd hentry (hlinkless _ _)

/-- The places of the cache file and of its temporary sibling are in one directory, unless the path of
the cache file goes on from a symbolic link there. -/
theorem place_eq {directory : Place} (h : fs.resolve store.temporary = .ok target)
    (hplaced : target.place = directory ++ [store.temporaryName])
    (hpath : fs.resolve store.path = .ok place) (hends : place.named = true ∨ fs.Linkless) :
    place.place = directory ++ (Path.fileName? store.path).toList := by
  by_cases hnamed : place.named = true
  · obtain ⟨directory', name, hplaced', hfile, hbelow⟩ := beside_target h hpath hnamed
    rw [hplaced] at hplaced'
    rw [hbelow, hfile, List.append_cancel_right hplaced']
    rfl
  · have hlinkless := hends.resolve_left hnamed
    obtain ⟨front, before, after, count, directory', hnames, hpoints, hleads, rfl⟩ :=
      leads_of_temporary h
    obtain rfl : directory' = directory := List.append_cancel_right hplaced
    obtain ⟨count', hwhole⟩ := FileSystem.leads_of_unnamed hpath (by simpa using hnamed)
    -- the names in common lead to the directory, and points lead nowhere else
    rw [hnames] at hwhole
    obtain ⟨_, _, middle, -, hfront, hrest⟩ := hwhole.split
    obtain rfl := hleads.unique hfront
    obtain ⟨_, _, last, -, hlast, hafter⟩ := hrest.split
    obtain ⟨_, _, first, -, hbefore, hfile⟩ := hlast.split
    obtain rfl := hbefore.eq_of_points fun name hlisted => hpoints name (List.mem_append_left _ hlisted)
    rw [hafter.eq_of_points fun name hlisted => hpoints name (List.mem_append_right _ hlisted)]
    cases hname : Path.fileName? store.path with
    | none =>
      rw [hname] at hfile
      cases hfile
      simp
    | some name =>
      obtain ⟨-, -, hdown⟩ := Path.dropWhile_of_fileName? hname
      rw [hname] at hfile
      exact eq_of_leads_name hlinkless (Path.isName_of_fileName? hname) hdown hfile

/-- The temporary sibling of a cache file is in the same directory and is another path.  As a path, and
as a place in a file system, it is the sibling of no other cache file and of no other process.  (The
place of a path that goes on after the file's name, as with a point, is another if a symbolic link has
that name.) -/
theorem temporaries_private (store other : FileStore) :
    (∀ name, Path.fileName? store.path = some name →
      (∃ directory, Path.parent? store.path = some directory ∧
        Path.parent? store.temporary = some directory) ∧
      Path.fileName? store.temporary = some (name ++ "." ++ toString store.process ++ ".tmp") ∧
      Path.components store.temporary ≠ Path.components store.path) ∧
    (Path.components store.temporary = Path.components other.temporary →
      (Path.parent? store.path).map Path.components =
        (Path.parent? other.path).map Path.components ∧
      Path.fileName? store.path = Path.fileName? other.path ∧
      store.process = other.process) ∧
    ∀ (fs now : FileSystem) (target target' : Target),
      fs.resolve store.temporary = .ok target → now.resolve other.temporary = .ok target' →
      target.place = target'.place →
        Path.fileName? store.path = Path.fileName? other.path ∧
        store.process = other.process ∧
        ∀ cache cache', fs.resolve store.path = .ok cache → now.resolve other.path = .ok cache' →
          (cache.named = true ∨ fs.Linkless) → (cache'.named = true ∨ now.Linkless) →
            cache.place = cache'.place := by
  refine ⟨?beside, ?equal, ?met⟩
  case beside =>
    intro name hfile
    obtain ⟨directory, hparent, hbelow⟩ := temporary_eq_child hfile
    have hnamed : Path.fileName? store.temporary = some store.temporaryName := by
      rw [hbelow]
      exact Path.fileName?_child store.slash_notMem_temporaryName store.isName_temporaryName
        store.temporaryName_ne_up
    refine ⟨⟨directory, hparent, ?_⟩, ?_, ?_⟩
    · rw [hbelow]
      exact Path.parent?_child_parent store.slash_notMem_temporaryName store.isName_temporaryName
        (by simp [hfile]) hparent
    · rw [hnamed, temporaryName, hfile, Option.getD_some]
    · intro hsame
      apply store.temporaryName_ne hfile
      rw [← Option.some_inj, ← hnamed, ← hfile, Path.fileName?_eq, Path.fileName?_eq, hsame]
  case equal =>
    intro hsame
    obtain ⟨hpaths, hprocess⟩ := temporary_same_iff.1 hsame
    refine ⟨?_, ?_, hprocess⟩
    · rw [Path.components_parent, Path.components_parent, hpaths]
    · rw [Path.fileName?_eq, Path.fileName?_eq, hpaths]
  case met =>
    intro fs now target target' hresolved hresolved' hsame
    obtain ⟨directory, hplaced, -⟩ := temporary_target hresolved
    obtain ⟨directory', hplaced', -⟩ := temporary_target hresolved'
    rw [hplaced, hplaced'] at hsame
    obtain ⟨hdirectories, hfile, hprocess⟩ := sibling_inj hsame
    refine ⟨hfile, hprocess, ?_⟩
    intro cache cache' hfound hfound' hends hends'
    rw [place_eq hresolved hplaced hfound hends, place_eq hresolved' hplaced' hfound' hends',
      hdirectories, hfile]

/-- The cache file may itself look like a temporary sibling; doubled slashes, points and a slash at the
end make no difference. -/
theorem temporaries_private_spellings :
    let store : FileStore := ⟨"./cache//token.7.tmp/", 12⟩
    let other : FileStore := ⟨"./cache/./token.7.tmp", 12⟩
    let fs := FileSystem.start.link ["work", "cache"] (.directory 0o755)
    (Path.fileName? store.path = some "token.7.tmp" ∧
      Path.components store.temporary ≠ Path.components store.path) ∧
    (Path.components store.temporary = Path.components other.temporary ∧
      (Path.parent? store.path).map Path.components =
        (Path.parent? other.path).map Path.components) ∧
    ∃ target target' cache cache', fs.resolve store.temporary = .ok target ∧
      fs.resolve other.temporary = .ok target' ∧ target.place = target'.place ∧
      fs.resolve store.path = .ok cache ∧ fs.resolve other.path = .ok cache' ∧
      cache.place = cache'.place := by
  intro store other fs
  obtain ⟨hbeside, halone, hplaced⟩ := temporaries_private store other
  have hfile : Path.fileName? store.path = some "token.7.tmp" := by decide +kernel
  have hsame : Path.components store.temporary = Path.components other.temporary := by
    decide +kernel
  have hleads (path : String) (place : Place)
      (h : (fs.resolve path).toOption.map (fun target => (target.place, target.named)) =
        some (place, true)) :
      ∃ target, fs.resolve path = .ok target ∧ target.place = place ∧ target.named = true := by
    match hresolved : fs.resolve path with
    | .error errno => simp [hresolved, Except.toOption] at h
    | .ok target => exact ⟨target, rfl, by simpa [hresolved, Except.toOption] using h⟩
  obtain ⟨target, hsibling, hthere, -⟩ :=
    hleads store.temporary ["work", "cache", "token.7.tmp.12.tmp"] (by decide +kernel)
  obtain ⟨target', hsibling', hthere', -⟩ :=
    hleads other.temporary ["work", "cache", "token.7.tmp.12.tmp"] (by decide +kernel)
  obtain ⟨cache, hfound, -, hnamed⟩ :=
    hleads store.path ["work", "cache", "token.7.tmp"] (by decide +kernel)
  obtain ⟨cache', hfound', -, hnamed'⟩ :=
    hleads other.path ["work", "cache", "token.7.tmp"] (by decide +kernel)
  have hmeet : target.place = target'.place := hthere.trans hthere'.symm
  obtain ⟨-, -, hshared⟩ := hplaced fs fs target target' hsibling hsibling' hmeet
  exact ⟨⟨hfile, (hbeside _ hfile).2.2⟩, ⟨hsame, (halone hsame).1⟩, target, target', cache, cache',
    hsibling, hsibling', hmeet, hfound, hfound',
    hshared cache cache' hfound hfound' (.inl hnamed) (.inl hnamed')⟩

end FileStore

end InstanceIdentity
