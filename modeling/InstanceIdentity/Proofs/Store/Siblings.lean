import InstanceIdentity.Proofs.Store.Renaming
import InstanceIdentity.Proofs.Store.Saving

/-!
# A cache file and its temporary sibling

The two lie side by side and never in the same place, and the siblings of two processes do not either.
While only the sibling changes, the path of the cache file leads where it led, or fails as it failed,
if no symbolic link on the way stands for the sibling or leads through it.

Main results:

- Theorems `FileStore.temporary_target`, `FileStore.place_ne`, `FileStore.temporary_place_ne`: where the
  temporary sibling is, and where it is not.
- Theorems `FileStore.locate_path_eq`, `FileStore.read_path_eq`: changes at the sibling do not concern
  the cache file.
- Theorem `FileStore.Filling.openFile_of_restricts`: the file whose permission bits are set is the one that
  was filled, whatever symbolic links there are.
-/

namespace InstanceIdentity

namespace FileSystem

variable {fs made now later : FileSystem} {places : List Place}

/-- All that changes happens at certain places, at which there are no directories. -/
structure Confined (made now : FileSystem) (places : List Place) : Prop where
  onward : Onward made now
  vacant : ∀ place ∈ places, ¬ made.HasDirectory place
  files_only : ∀ place ∈ places, ¬ now.HasDirectory place
  entries : ∀ place, place ∉ places → now.entry? place = made.entry? place
  files : ∀ place number, place ∉ places → made.entry? place = some (.file number) →
    now.files[number]? = made.files[number]?

theorem Confined.directory_iff (h : Confined made now places) {place : Place} {mode : Nat} :
    now.entry? place = some (.directory mode) ↔ made.entry? place = some (.directory mode) := by
  by_cases hapart : place ∈ places
  · constructor
    · intro hentry
      exact absurd ⟨mode, hentry⟩ (h.files_only place hapart)
    · intro hentry
      exact absurd ⟨mode, hentry⟩ (h.vacant place hapart)
  · rw [h.entries place hapart]

variable {followed : Bool} {here middle : Place} {names front rest : List String} {count : Nat}

/-- Names that are followed from directory to directory are followed alike where these, and the
symbolic links between them, are the same. -/
theorem Leads.seek_congr (hleads : made.Leads here front count middle)
    (hdirectories : ∀ place, made.HasDirectory place → now.entry? place = made.entry? place)
    (hlinks : ∀ place body, made.entry? place = some (.symlink body) →
      now.entry? place = some (.symlink body))
    (hrest : ∀ links slashed, now.seek followed links slashed middle rest =
      made.seek followed links slashed middle rest) (links : Nat) (slashed : Bool) :
    now.seek followed links slashed here (front ++ rest) =
      made.seek followed links slashed here (front ++ rest) := by
  induction hleads generalizing links slashed with
  | here => exact hrest links slashed
  | stay _ ih =>
    rw [List.cons_append, seek_stay, seek_stay]
    exact ih hrest links slashed
  | up _ ih =>
    rw [List.cons_append, seek_up, seek_up]
    exact ih hrest links slashed
  | down hproper hdirectory _ ih =>
    have hsame := hdirectories _ hdirectory
    obtain ⟨mode, hentry⟩ := hdirectory
    rw [List.cons_append, seek_proper hproper, seek_proper hproper, hsame, hentry]
    simp only [ih hrest links slashed]
  | link hproper hentry _ ih =>
    rw [List.cons_append, seek_proper hproper, seek_proper hproper, hlinks _ _ hentry, hentry]
    cases links with
    | zero => rfl
    | succ links => simp only [jump, ← List.append_assoc, ih hrest links]

/-- Names are followed alike where all places differ at most at a name that is never followed. -/
theorem seek_congr_beside {name : String}
    (hentries : ∀ place, place.getLast? ≠ some name → now.entry? place = made.entry? place)
    (hlinks : ∀ place body, made.entry? place = some (.symlink body) → name ∉ Path.names body)
    (hnames : name ∉ names) (links : Nat) (slashed : Bool) :
    now.seek followed links slashed here names = made.seek followed links slashed here names := by
  have hseeks := made.seeks_seek followed links slashed here names
  generalize made.seek followed links slashed here names = outcome at hseeks
  rw [seek_eq_iff]
  have hbeside {first : String} {names : List String} (hother : name ∉ first :: names)
      (place : Place) : now.entry? (place ++ [first]) = made.entry? (place ++ [first]) :=
    hentries _ (by simpa using Ne.symm (List.ne_of_not_mem_cons hother))
  induction hseeks with
  | ended => exact .ended _ _ _
  | stay _ ih => exact .stay (ih (List.not_mem_of_not_mem_cons hnames))
  | up _ ih => exact .up (ih (List.not_mem_of_not_mem_cons hnames))
  | tooLong links slashed here names hlong => exact .tooLong links slashed here names hlong
  | last links slashed here hproper hstops =>
    refine .last links slashed here hproper ?_
    rwa [hbeside hnames _]
  | down hproper hdirectory hmore _ ih =>
    refine .down hproper ?_ hmore (ih (List.not_mem_of_not_mem_cons hnames))
    rwa [HasDirectory, hbeside hnames _]
  | missing links slashed here hproper hentry hmore =>
    exact .missing links slashed here hproper ((hbeside hnames _).trans hentry) hmore
  | blocked links slashed here hproper hentry hmore =>
    exact .blocked links slashed here hproper ((hbeside hnames _).trans hentry) hmore
  | tired slashed here hproper hentry hgoes =>
    exact .tired slashed here hproper ((hbeside hnames _).trans hentry) hgoes
  | link hproper hentry hgoes _ ih =>
    refine .link hproper ((hbeside hnames _).trans hentry) hgoes (ih ?_)
    rw [List.mem_append, not_or]
    exact ⟨hlinks _ _ hentry, List.not_mem_of_not_mem_cons hnames⟩

end FileSystem

namespace FileStore

open FileSystem (Target Confined IsTree)

variable {store other : FileStore} {fs made now later : FileSystem} {target place : Target}
  {number : Nat} {followed : Bool}

/-! ## Where they are -/

/-- No symbolic link misleads a save: none is at the temporary sibling, none leads through a name like
the sibling's, and one at the cache file leads to no directory. -/
structure Clear (store : FileStore) (fs : FileSystem) : Prop where
  temporary : fs.Direct store.temporary
  bodies : ∀ place body, fs.entry? place = some (.symlink body) →
    store.temporaryName ∉ Path.names body
  path : fs.Sealed store.path

/-- The two are followed from the same place. -/
theorem origin_temporary (store : FileStore) (fs : FileSystem) :
    fs.origin store.temporary = fs.origin store.path := by
  obtain ⟨hrooted, -⟩ := store.temporary_names
  rw [FileSystem.origin, FileSystem.origin, FileSystem.startOf, FileSystem.startOf, hrooted]

/-- The temporary sibling has a place of its own name, in the directory that the names lead to which
it shares with the cache file. -/
theorem leads_of_temporary (h : fs.resolve store.temporary = .ok target) :
    ∃ front before after count directory,
      Path.names store.path = front ++ (before ++ (Path.fileName? store.path).toList ++ after) ∧
      (∀ name ∈ before ++ after, name = ".") ∧
      fs.Leads (fs.origin store.path) front count directory ∧
      target = ⟨directory ++ [store.temporaryName], true, false⟩ := by
  obtain ⟨-, front, before, after, hnames, hnames', hpoints⟩ := store.temporary_names
  have hlast : (Path.names store.temporary).getLast? = some store.temporaryName := by
    simp [hnames]
  have hunslashed : Path.isSlashed store.temporary = false := by
    rw [Path.isSlashed, store.getLast?_temporary]
    decide
  obtain ⟨-, count, directory, -, hleads, harrives⟩ := FileSystem.resolve_eq_ok_iff.1 h
  rw [hnames, List.dropLast_concat, origin_temporary] at hleads
  refine ⟨front, before, after, count, directory, hnames', hpoints, hleads, ?_⟩
  cases harrives with
  | named name hends hproper =>
    rw [hlast] at hends
    cases hends
    rw [hunslashed]
  | same hends =>
    have := store.isName_temporaryName
    rw [hends _ hlast] at this
    exact absurd this (by decide)
  | above hends =>
    rw [hlast] at hends
    have := store.getLast?_temporaryName
    rw [Option.some.inj hends] at this
    exact absurd this (by decide)

theorem temporary_target (h : fs.resolve store.temporary = .ok target) :
    ∃ directory, target.place = directory ++ [store.temporaryName] ∧ target.named = true ∧
      target.slashed = false := by
  obtain ⟨-, -, -, -, directory, -, -, -, rfl⟩ := leads_of_temporary h
  exact ⟨directory, rfl, rfl, rfl⟩

/-- A name that is looked for at the end of a path is the file's name. -/
theorem fileName?_of_proper {path name : String} (hlast : (Path.names path).getLast? = some name)
    (hproper : FileSystem.Proper name) : Path.fileName? path = some name := by
  have hnonempty : name ≠ "" := by
    rintro rfl
    have hlisted := List.mem_of_getLast? hlast
    simp [Path.names] at hlisted
  have hfollowed : Path.isName name = true := by
    simp [Path.isName, hproper.notHere, hnonempty]
  exact Path.fileName?_of_getLast? hlast hfollowed hproper.notUp

/-- A cache file and its temporary sibling are in one directory, under different names. -/
theorem beside_target (h : fs.resolve store.temporary = .ok target)
    (hpath : fs.resolve store.path = .ok place) (hnamed : place.named = true) :
    ∃ directory name, target.place = directory ++ [store.temporaryName] ∧
      Path.fileName? store.path = some name ∧ place.place = directory ++ [name] := by
  obtain ⟨front, before, after, count, directory, hnames, hpoints, hleads, rfl⟩ :=
    leads_of_temporary h
  obtain ⟨-, count', directory', -, hleads', harrives⟩ := FileSystem.resolve_eq_ok_iff.1 hpath
  cases harrives with
  | same | above => cases hnamed
  | named name hlast hproper =>
    have hfile := fileName?_of_proper hlast hproper
    have hnothing : after = [] := by
      by_contra hsome
      have hends : (Path.names store.path).getLast? = after.getLast? := by
        rw [hnames, ← List.append_assoc, List.getLast?_append, Option.or_of_isSome (by simp [hsome])]
      rw [hends] at hlast
      exact hproper.notHere (hpoints name (List.mem_append_right _ (List.mem_of_getLast? hlast)))
    subst hnothing
    refine ⟨directory, name, rfl, hfile, ?_⟩
    rw [hnames, hfile, Option.toList_some, List.append_nil, ← List.append_assoc,
      List.dropLast_concat] at hleads'
    obtain ⟨first, more, middle, -, hfront, hbefore⟩ := hleads'.split
    obtain rfl := hleads.unique hfront
    rw [hbefore.eq_of_points fun other hlisted => hpoints other (List.mem_append_left _ hlisted)]

/-- Renaming the temporary sibling to the cache file moves it within its directory. -/
theorem beside (store : FileStore) (fs : FileSystem) (old new : Target)
    (h : fs.resolve store.temporary = .ok old) (hpath : fs.resolve store.path = .ok new)
    (hnamed : new.named = true) :
    old.named = true ∧ old.place ≠ new.place ∧ old.place.dropLast = new.place.dropLast := by
  obtain ⟨-, -, hnamedOld, -⟩ := temporary_target h
  obtain ⟨directory, name, hplaced, hfile, hplaced'⟩ := beside_target h hpath hnamed
  rw [hplaced, hplaced']
  refine ⟨hnamedOld, ?_, by simp⟩
  intro hsame
  exact store.temporaryName_ne hfile (by simpa using hsame)

/-- The cache file and its temporary sibling are in different places. -/
theorem place_ne (htree : fs.IsTree) (hclear : store.Clear fs)
    (htemporary : fs.resolve store.temporary = .ok target)
    (hvacant : ¬ fs.HasDirectory target.place) (h : fs.locate followed store.path = .ok place) :
    place.place ≠ target.place := by
  intro hsame
  by_cases hnamed : place.named = true
  · obtain ⟨directory, name, hplaced, hproper, hnames⟩ :=
      FileSystem.exists_name_of_seek (FileSystem.locate_eq_ok_iff.1 h).2 hnamed
    obtain ⟨directory', hplaced', -⟩ := temporary_target htemporary
    rw [hplaced, hplaced'] at hsame
    have hname : name = store.temporaryName := by
      have := congrArg List.getLast? hsame
      simpa using this
    rcases hnames with hlast | ⟨there, body, hentry, hlisted⟩
    · exact store.temporaryName_ne (fileName?_of_proper hlast hproper) hname.symm
    · rw [hname] at hlisted
      exact hclear.bodies _ _ hentry hlisted
  · apply hvacant
    rw [← hsame]
    exact htree.locate_unnamed h (by simpa using hnamed)

/-- The temporary siblings of different processes are in different places. -/
theorem temporary_place_ne (hprocess : store.process ≠ other.process)
    (h : fs.resolve store.temporary = .ok target) (h' : now.resolve other.temporary = .ok place) :
    target.place ≠ place.place := by
  intro hsame
  obtain ⟨directory, hplaced, -⟩ := temporary_target h
  obtain ⟨directory', hplaced', -⟩ := temporary_target h'
  rw [hplaced, hplaced'] at hsame
  have hnames : store.temporaryName = other.temporaryName := by
    have := congrArg List.getLast? hsame
    simpa using this
  exact hprocess (temporaryName_inj hnames).2

/-! ### Symbolic links that are out of the way -/

/-- Symbolic links stay apart from a cache file: none has its name, or that of a temporary sibling, and
none leads through a name like a sibling's. -/
structure Apart (path : String) (fs : FileSystem) : Prop where
  file : ∀ place body, fs.entry? place = some (.symlink body) → place.getLast? ≠ Path.fileName? path
  temporary : ∀ place body, fs.entry? place = some (.symlink body) →
    ∀ process, place.getLast? ≠ some (temporaryName ⟨path, process⟩)
  bodies : ∀ place body, fs.entry? place = some (.symlink body) →
    ∀ process, temporaryName ⟨path, process⟩ ∉ Path.names body

theorem apart_of_linkless {path : String} (h : fs.Linkless) : Apart path fs :=
  ⟨fun _ _ hentry => absurd hentry (h _ _), fun _ _ hentry => absurd hentry (h _ _),
    fun _ _ hentry => absurd hentry (h _ _)⟩

/-- Symbolic links that stay apart do so when no others are made. -/
theorem Apart.of_links {path : String} (h : Apart path fs)
    (hlinks : ∀ place body, later.entry? place = some (.symlink body) →
      fs.entry? place = some (.symlink body)) : Apart path later :=
  ⟨fun _ _ hentry => h.file _ _ (hlinks _ _ hentry),
    fun _ _ hentry => h.temporary _ _ (hlinks _ _ hentry),
    fun _ _ hentry => h.bodies _ _ (hlinks _ _ hentry)⟩

/-- The place of a cache file from which symbolic links stay apart is none. -/
theorem Apart.direct {path : String} (htree : fs.IsTree) (h : Apart path fs) : fs.Direct path := by
  intro place body hresolved hentry
  by_cases hnamed : place.named = true
  · obtain ⟨directory, name, hplaced, -, hlast, hproper⟩ := htree.resolve_named hresolved hnamed
    have hfile := fileName?_of_proper hlast hproper
    exact h.file _ body hentry (by simp [hplaced, hfile])
  · obtain ⟨mode, hdirectory⟩ := htree.locate_unnamed hresolved (by simpa using hnamed)
    cases hdirectory.symm.trans hentry

/-- Symbolic links that stay apart do not mislead a save. -/
theorem Apart.clear (htree : fs.IsTree) (h : Apart store.path fs) : store.Clear fs := by
  refine ⟨fun target body hresolved hentry => ?_, fun place body hentry => ?_,
    (h.direct htree).sealed⟩
  · obtain ⟨directory, hplaced, -⟩ := temporary_target hresolved
    exact h.temporary _ body hentry store.process (by simp [hplaced])
  · exact h.bodies place body hentry store.process

/-! ## What concerns the cache file -/

/-- While only the temporary sibling changes, the path of the cache file leads where it led. -/
theorem locate_path_eq (hclear : store.Clear made)
    (htemporary : made.resolve store.temporary = .ok target)
    (hconfined : Confined made now [target.place]) :
    now.locate followed store.path = made.locate followed store.path := by
  rcases FileSystem.locate_eq store.path with ⟨-, hfollowed⟩ | ⟨-, errno, hrefused⟩
  · obtain ⟨front, before, after, count, directory, hnames, hpoints, hleads, hplaced⟩ :=
      leads_of_temporary htemporary
    have hentries {there : Place} (hapart : there ≠ target.place) :
        now.entry? there = made.entry? there := hconfined.entries there (by simpa using hapart)
    rw [hfollowed made, hfollowed now, hconfined.onward.origin_eq, hnames]
    apply hleads.seek_congr
    · intro there hdirectory
      apply hentries
      rintro rfl
      exact hconfined.vacant target.place (by simp) hdirectory
    · intro there body hentry
      rw [hentries, hentry]
      rintro rfl
      exact hclear.temporary target body htemporary hentry
    · refine FileSystem.seek_congr_beside ?_ hclear.bodies (store.temporaryName_notMem hpoints)
      intro there hother
      apply hentries
      rintro rfl
      exact hother (by simp [hplaced])
  · rw [hrefused made, hrefused now]

theorem openFile_path_eq (htree : made.IsTree) (hclear : store.Clear made)
    (htemporary : made.resolve store.temporary = .ok target)
    (hconfined : Confined made now [target.place]) :
    now.openFile store.path = made.openFile store.path := by
  have hsame : now.reach store.path = made.reach store.path :=
    locate_path_eq hclear htemporary hconfined
  match hreached : made.reach store.path with
  | .error errno =>
    rw [FileSystem.openFile_eq_error hreached, FileSystem.openFile_eq_error (hsame.trans hreached)]
  | .ok place =>
    have hapart : place.place ∉ [target.place] := by
      simpa using place_ne htree hclear htemporary (hconfined.vacant _ (by simp)) hreached
    rw [FileSystem.openFile_eq hreached, FileSystem.openFile_eq (hsame.trans hreached),
      hconfined.entries _ hapart]

/-- The file whose permission bits are set is the one that was filled. -/
theorem Filling.openFile_of_restricts {filled placed : FileSystem} {content : List UInt8} {mode : Nat}
    (hfilling : store.Filling made filled target number content)
    (hrenames : filled.Renames store.temporary store.path placed)
    (hrestricts : placed.Restricts store.path mode now) : placed.openFile store.path = .ok number := by
  have hfound {own : Target} {entry : Entry} (hreached : placed.reach store.path = .ok own)
      (hentry : placed.entry? own.place = some entry) : entry = .file number :=
    hrenames.entry_of_reach hfilling.reached_now hfilling.named hfilling.entry (store.beside filled)
      hreached hentry
  cases hrestricts with
  | file own other hreached hunslashed hentry =>
    cases hfound hreached hentry
    exact FileSystem.openFile_eq_ok_iff.2 ⟨own, hreached, hunslashed, hentry⟩
  | directory own hreached hdirectory =>
    obtain ⟨old, hentry⟩ := hdirectory
    cases hfound hreached hentry

end FileStore

end InstanceIdentity
