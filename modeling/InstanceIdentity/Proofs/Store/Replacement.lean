import InstanceIdentity.Proofs.Store.Siblings

/-!
# A save happens as a whole or not at all

Up to the renaming a save works on its temporary sibling alone, so that the cache file is what it was;
with the renaming the whole content is in place.  The directories that a save makes do not change what
a steady path leads to.

Main results:

- Theorem `FileStore.Preparing.beside`: until the cache file is replaced, only the temporary sibling
  changes.
- Theorem `FileStore.Replaced.installed`: afterwards the cache file has the whole content.
- Theorem `FileStore.all_or_nothing`: what a save that nobody disturbs leaves behind, and what there is
  to be read at every point of it.
- Theorem `FileStore.unsteady_changed`: unsteady paths, a file with two names, and symbolic links, for
  which it is not so.
-/

namespace InstanceIdentity

namespace FileSystem

variable {fs made now later : FileSystem} {path : String} {target : Target} {places : List Place}
  {number : Nat}

theorem Confined.refl (places : List Place) (made : FileSystem)
    (hvacant : ∀ place ∈ places, ¬ made.HasDirectory place) :
    Confined made made places :=
  ⟨.refl made, hvacant, hvacant, fun _ _ => rfl, fun _ _ _ _ => rfl⟩

/-- A file is taken away from one of the places. -/
theorem Confined.remove (hconfined : Confined made now places)
    (hresolved : now.resolve path = .ok target) (hamong : target.place ∈ places)
    (hunlinked : ∀ body, now.entry? target.place ≠ some (.symlink body))
    (h : now.remove path = .ok later) :
    Confined made later places ∧ later.entry? target.place = none := by
  have honward : Onward now later := by
    refine onward_of_remove h fun target' body hresolved' hentry => ?_
    rw [hresolved] at hresolved'
    cases hresolved'
    exact absurd hentry (hunlinked body)
  obtain ⟨target', entry, hresolved', -, hentry, -, rfl⟩ := remove_eq_ok_iff.1 h
  rw [hresolved] at hresolved'
  cases hresolved'
  constructor
  · constructor
    · exact hconfined.onward.trans honward
    · exact hconfined.vacant
    · intro place hlisted hdirectory
      obtain ⟨mode, hfound⟩ := hdirectory
      rw [entry?_unlink] at hfound
      split at hfound
      · cases hfound
      · exact hconfined.files_only place hlisted ⟨mode, hfound⟩
    · intro place hapart
      have hother : place ≠ target.place := by
        rintro rfl
        exact hapart hamong
      rw [entry?_unlink, if_neg hother, hconfined.entries place hapart]
    · exact hconfined.files
  · rw [entry?_unlink, if_pos rfl]

/-- The file at one of the places is changed. -/
theorem Confined.modifyFile (hconfined : Confined made now places) (htree : now.IsTree)
    {there : Place} (hamong : there ∈ places) (hentry : now.entry? there = some (.file number))
    (f : FileData → FileData) : Confined made (now.modifyFile number f) places := by
  constructor
  · exact hconfined.onward.trans (onward_modifyFile now number f)
  · exact hconfined.vacant
  · exact hconfined.files_only
  · exact hconfined.entries
  · intro place other hapart hfound
    have helsewhere : number ≠ other := by
      rintro rfl
      have := htree.unshared place there number (by rw [hconfined.entries place hapart, hfound]) hentry
      exact hapart (this ▸ hamong)
    rw [files_modifyFile, if_neg helsewhere]
    exact hconfined.files place other hapart hfound

/-- A file is moved from one place to another. -/
theorem Confined.move {old new : Place} (hconfined : Confined made now [old]) (hapart : old ≠ new)
    (hfree : ¬ now.HasDirectory new)
    (honward : Onward now ((now.unlink old).link new (.file number))) :
    Confined made ((now.unlink old).link new (.file number)) [old, new] := by
  constructor
  · exact hconfined.onward.trans honward
  · intro place hlisted hdirectory
    rcases List.mem_cons.1 hlisted with rfl | hlisted
    · exact hconfined.vacant place (by simp) hdirectory
    · rw [List.mem_singleton.1 hlisted] at hdirectory
      exact hfree (hconfined.onward.directories new hdirectory)
  · rintro place hlisted ⟨mode, hentry⟩
    rcases List.mem_cons.1 hlisted with rfl | hlisted
    · rw [entry?_link, if_neg hapart, entry?_unlink, if_pos rfl] at hentry
      cases hentry
    · rw [List.mem_singleton.1 hlisted, entry?_link, if_pos rfl] at hentry
      cases hentry
  · intro place houtside
    have houtside : place ≠ old ∧ place ≠ new := by simpa using houtside
    rw [entry?_link, if_neg houtside.2, entry?_unlink, if_neg houtside.1]
    exact hconfined.entries place (by simpa using houtside.1)
  · intro place other houtside hentry
    have houtside : place ≠ old ∧ place ≠ new := by simpa using houtside
    exact hconfined.files place other (by simpa using houtside.1) hentry

theorem mode_of_openFile {data : FileData} (hopened : fs.openFile path = .ok number)
    (hfound : fs.files[number]? = some data) : fs.mode path = .ok data.mode := by
  obtain ⟨target, hreached, hunslashed, hentry⟩ := openFile_eq_ok_iff.1 hopened
  simp [mode, hreached, hunslashed, hentry, hfound, bind, Except.bind, pure, Except.pure]

theorem read_of_openFile {data : FileData} (hopened : fs.openFile path = .ok number)
    (hfound : fs.files[number]? = some data) : fs.read path = .ok data.content := by
  simp [read, hopened, contentOf, hfound, Except.map]

end FileSystem

namespace FileStore

open FileSystem (Target Confined IsTree)

variable {store : FileStore} {token : CachedToken} {interference : Interference}
  {fs made now later : FileSystem} {stage : Stage} {target place : Target} {number : Nat}
  {content : List UInt8}

/-! ## Until the cache file is replaced -/

/-- The sibling that is filled is the one at its place. -/
theorem Filling.resolved (hclear : store.Clear made)
    (hfilling : store.Filling made now target number content) :
    made.resolve store.temporary = .ok target := by
  obtain ⟨own, hresolved⟩ := FileSystem.resolve_of_reach hfilling.reached
  have hsame := FileSystem.resolve_eq_of_reach hfilling.reached hresolved fun body =>
    hclear.temporary own body hresolved
  rw [hresolved, hsame]

/-- Filling the temporary sibling changes nothing else. -/
theorem Filling.confined (htree : made.IsTree)
    (hfilling : store.Filling made now target number content) :
    Confined made now [target.place] := by
  constructor
  · exact hfilling.onward
  · intro place hlisted
    rw [List.mem_singleton.1 hlisted]
    exact hfilling.vacant
  · intro place hlisted
    rw [List.mem_singleton.1 hlisted]
    exact FileSystem.not_hasDirectory_of_file hfilling.entry
  · intro place hapart
    exact hfilling.places place (by simpa using hapart)
  · intro place other hapart hentry
    apply hfilling.files
    rintro rfl
    rcases hfilling.before with hbefore | ⟨-, hfresh⟩
    · have := htree.unshared place target.place other hentry hbefore
      exact hapart (by simp [this])
    · have := htree.numbered place other hentry
      omega

/-- Only the temporary sibling has changed, and it has not become a symbolic link. -/
structure Beside (store : FileStore) (made now : FileSystem) (target : Target) : Prop where
  resolved : made.resolve store.temporary = .ok target
  confined : Confined made now [target.place]
  unlinked : ∀ body, now.entry? target.place ≠ some (.symlink body)

theorem Filling.beside (htree : made.IsTree) (hclear : store.Clear made)
    (hfilling : store.Filling made now target number content) : store.Beside made now target :=
  ⟨hfilling.resolved hclear, hfilling.confined htree, by simp [hfilling.entry]⟩

/-- When nothing has changed, only the temporary sibling has. -/
theorem beside_refl (hclear : store.Clear made) (hresolved : made.resolve store.temporary = .ok target)
    (hfree : ¬ made.HasDirectory target.place) : store.Beside made made target :=
  ⟨hresolved, Confined.refl [target.place] made (by simpa using hfree),
    fun body => hclear.temporary target body hresolved⟩

theorem Beside.remove (hbeside : store.Beside made now target)
    (h : now.remove store.temporary = .ok later) : store.Beside made later target := by
  have hresolved := FileSystem.resolve_of_onward hbeside.confined.onward hbeside.resolved
  obtain ⟨hconfined, hgone⟩ := hbeside.confined.remove hresolved (by simp) hbeside.unlinked h
  exact ⟨hbeside.resolved, hconfined, by simp [hgone]⟩

/-- Until the cache file is replaced, only the temporary sibling changes. -/
theorem Preparing.beside (htree : made.IsTree) (hclear : store.Clear made)
    (h : Preparing store token interference made now stage) :
    now = made ∨ ∃ target, store.Beside made now target := by
  induction h with
  | unprepared | prepared | uncreated => exact .inl rfl
  | created hfilling => exact .inr ⟨_, hfilling.beside htree hclear⟩
  | written hfilling => exact .inr ⟨_, hfilling.beside htree hclear⟩
  | synced hfilling => exact .inr ⟨_, hfilling.beside htree hclear⟩
  | stopped hfilling => exact .inr ⟨_, hfilling.beside htree hclear⟩
  | discarded hstopped hremoved ih =>
    right
    rcases ih with rfl | ⟨target, hbeside⟩
    · obtain ⟨target, entry, hresolved, -, -, hfree, -⟩ := FileSystem.remove_eq_ok_iff.1 hremoved
      exact ⟨target, (beside_refl hclear hresolved hfree).remove hremoved⟩
    · exact ⟨target, hbeside.remove hremoved⟩
  | kept hstopped hrefused ih => exact ih

/-- The cache file is a certain file, nothing is left at the temporary sibling, and nothing else has
changed. -/
structure Installed (store : FileStore) (made now : FileSystem) (target place : Target) (number : Nat)
    (file : FileData) : Prop where
  temporary : made.resolve store.temporary = .ok target
  resolved : now.resolve store.path = .ok place
  unslashed : place.slashed = false
  entry : now.entry? place.place = some (.file number)
  file : now.files[number]? = some file
  gone : now.entry? target.place = none
  confined : Confined made now [target.place, place.place]

theorem Installed.openFile {file : FileData}
    (hinstalled : store.Installed made now target place number file) :
    now.openFile store.path = .ok number :=
  FileSystem.openFile_of_resolve hinstalled.resolved hinstalled.unslashed hinstalled.entry

/-- A symbolic link at the cache file still leads to no directory while the sibling is filled. -/
theorem Filling.sealed (htree : made.IsTree) (hclear : store.Clear made)
    (hfilling : store.Filling made now target number content) : now.Sealed store.path := by
  have hbeside := hfilling.beside htree hclear
  have hbackwards : FileSystem.Onward now made := by
    refine ⟨hfilling.onward.current.symm, fun place ⟨mode, hentry⟩ => ?_, fun place body hentry => ?_⟩
    · exact ⟨mode, hbeside.confined.directory_iff.1 hentry⟩
    · have hapart : place ≠ target.place := by
        rintro rfl
        exact hbeside.unlinked body hentry
      rw [hfilling.places place hapart] at hentry
      exact .inl hentry
  intro place body hresolved hentry
  have hsame : now.resolve store.path = made.resolve store.path :=
    locate_path_eq hclear hbeside.resolved hbeside.confined
  rw [hsame] at hresolved
  have hapart := place_ne htree hclear hbeside.resolved hfilling.vacant hresolved
  rw [hfilling.places _ hapart] at hentry
  exact fun count there hleads =>
    hclear.path place body hresolved hentry count there (hleads.of_onward hbackwards)

/-- The filled sibling is found at its place. -/
theorem Filling.resolved_now (hclear : store.Clear made)
    (hfilling : store.Filling made now target number content) :
    now.resolve store.temporary = .ok target :=
  FileSystem.resolve_of_onward hfilling.onward (hfilling.resolved hclear)

/-- After the filled sibling has been renamed, the cache file is the file that was filled. -/
theorem Filling.openFile_of_renames (htree : made.IsTree) (hclear : store.Clear made)
    (hfilling : store.Filling made now target number content)
    (hrenames : now.Renames store.temporary store.path later) :
    later.openFile store.path = .ok number :=
  hrenames.openFile (hfilling.resolved_now hclear) hfilling.entry (hfilling.sealed htree hclear)

/-- Renaming the filled sibling installs it. -/
theorem Filling.installed (htree : made.IsTree) (hclear : store.Clear made)
    (hfilling : store.Filling made now target number content)
    (hrenames : now.Renames store.temporary store.path later) :
    ∃ mode place, store.Installed made later target place number ⟨content, mode⟩ := by
  have htree' : now.IsTree := hfilling.continues.tree htree
  have hbeside := hfilling.beside htree hclear
  have hresolved := hfilling.resolved_now hclear
  have hseparate {place : Target} (h : now.resolve store.path = .ok place) :
      place.place ≠ target.place := by
    have hsame : now.resolve store.path = made.resolve store.path :=
      locate_path_eq hclear hbeside.resolved hbeside.confined
    rw [hsame] at h
    exact place_ne htree hclear hbeside.resolved hfilling.vacant h
  have hdirect := FileSystem.direct_of_entry hresolved hfilling.entry (by simp)
  have honward := hrenames.onward hdirect.sealed (hfilling.sealed htree hclear)
  obtain ⟨data, hfound⟩ : ∃ data, now.files[number]? = some data :=
    ⟨_, List.getElem?_eq_getElem (hfilling.numbered htree.numbered)⟩
  have hwritten : data = ⟨content, data.mode⟩ := by rw [← hfilling.content data hfound]
  cases hrenames with
  | none old new other hsourceResolved htargetResolved hunslashed holdEntry hnewEntry =>
    rw [hresolved] at hsourceResolved
    cases hsourceResolved
    have hsame := htree'.unshared new.place target.place other hnewEntry holdEntry
    exact absurd hsame (hseparate htargetResolved)
  | moved old new entry hsourceResolved htargetResolved hunslashed hnamed holdEntry hmovable hfree =>
    rw [hresolved] at hsourceResolved
    cases hsourceResolved
    cases hfilling.entry.symm.trans holdEntry
    have hapart : target.place ≠ new.place := Ne.symm (hseparate htargetResolved)
    refine ⟨data.mode, new, hbeside.resolved, FileSystem.resolve_of_onward honward htargetResolved,
      hunslashed, by rw [FileSystem.entry?_link, if_pos rfl], hfound.trans (congrArg some hwritten),
      ?_, hbeside.confined.move hapart hfree honward⟩
    rw [FileSystem.entry?_link, if_neg hapart, FileSystem.entry?_unlink, if_pos rfl]

/-- Setting permission bits changes those of the installed file. -/
theorem Installed.restricts {file : FileData} {mode : Nat} (htree : now.IsTree)
    (hinstalled : store.Installed made now target place number file)
    (hrestricts : now.Restricts store.path mode later) :
    store.Installed made later target place number { file with mode } := by
  rw [hrestricts.eq_of_openFile hinstalled.openFile]
  have honward := FileSystem.onward_modifyFile now number fun file => { file with mode }
  refine ⟨hinstalled.temporary, FileSystem.resolve_of_onward honward hinstalled.resolved,
    hinstalled.unslashed, hinstalled.entry, ?_, hinstalled.gone, ?_⟩
  · rw [FileSystem.files_modifyFile, if_pos rfl, hinstalled.file]
    rfl
  · exact hinstalled.confined.modifyFile htree (by simp) hinstalled.entry _

/-- Once the cache file is replaced, it has the whole content; its permission bits are set when the
save succeeds. -/
theorem Replaced.installed (htree : made.IsTree) (hclear : store.Clear made)
    (h : Replaced store token interference made now stage) :
    ∃ mode target place number, store.Installed made now target place number ⟨payload token, mode⟩ ∧
      (stage = .finished (.ok ()) → mode = ownerOnly) := by
  cases h with
  | renamed hfilling hrenames =>
    obtain ⟨mode, place, hinstalled⟩ := hfilling.installed htree hclear hrenames
    exact ⟨mode, _, place, _, hinstalled, fun hdone => by cases hdone⟩
  | restricted hfilling hrenames hrestricts =>
    obtain ⟨mode, place, hinstalled⟩ := hfilling.installed htree hclear hrenames
    have htree' := hrenames.continues.tree (hfilling.continues.tree htree)
    exact ⟨ownerOnly, _, place, _, hinstalled.restricts htree' hrestricts, fun _ => rfl⟩
  | unrestricted hfilling hrenames =>
    obtain ⟨mode, place, hinstalled⟩ := hfilling.installed htree hclear hrenames
    exact ⟨mode, _, place, _, hinstalled, fun hdone => by cases hdone⟩

/-- Once the cache file is replaced, a save fails only if its permission bits cannot be set. -/
theorem Replaced.result_eq_ok_iff {result : Except StoreError Unit} (htree : made.IsTree)
    (hclear : store.Clear made)
    (h : Replaced store token interference made now (.finished result)) :
    result = .ok () ↔ interference.refuses .restrict = none := by
  cases h with
  | restricted hfilling hrenames hrestricts hgranted => simp [hgranted]
  | unrestricted hfilling hrenames error hrefused =>
    rcases hrefused with hrefused | hfailed
    · simp [hrefused]
    · exact absurd (hfilling.openFile_of_renames htree hclear hrenames) (hfailed _)

/-! ## What a save leaves behind -/

/-- What a save leaves behind that has replaced the cache file: the content, nothing at the temporary
sibling, and success if the permission bits have been set, in which case they are the owner's. -/
structure Done (store : FileStore) (token : CachedToken) (interference : Interference)
    (final : FileSystem) (result : Except StoreError Unit) : Prop where
  content : final.read store.path = .ok (payload token)
  temporary : ∀ target, final.resolve store.temporary = .ok target →
    final.entry? target.place = none
  succeeded : result = .ok () ↔ interference.refuses .restrict = none
  mode : result = .ok () → final.mode store.path = .ok ownerOnly

theorem Replaced.done {result : Except StoreError Unit} (htree : made.IsTree)
    (hclear : store.Clear made)
    (h : Replaced store token interference made now (.finished result)) :
    store.Done token interference now result := by
  obtain ⟨mode, target, place, number, hinstalled, hrestricted⟩ := h.installed htree hclear
  constructor
  · exact FileSystem.read_of_openFile hinstalled.openFile hinstalled.file
  · intro target' hresolved
    rw [FileSystem.resolve_of_onward hinstalled.confined.onward hinstalled.temporary] at hresolved
    cases hresolved
    exact hinstalled.gone
  · exact h.result_eq_ok_iff htree hclear
  · intro hsucceeded
    rw [FileSystem.mode_of_openFile hinstalled.openFile hinstalled.file,
      hrestricted (by rw [hsucceeded])]

/-- The permission bits of the cache file cannot be set. -/
def unrestricted : Interference :=
  ⟨fun operation => if operation = .restrict then some .busy else none, 0, 0⟩

/-- A path to a name in a directory. -/
def longPath (name : String) : String := Path.join ["a", name]

/-- A name that is too long to be looked for, at the end of a path that is not too long. -/
structure Overlong (name : String) : Prop where
  slashless : '/' ∉ name.toList
  proper : '\x00' ∉ name.toList
  long : FileSystem.longestName < name.utf8ByteSize
  short : 2 + name.utf8ByteSize ≤ FileSystem.longestPath

namespace Overlong

variable {name : String} {fs : FileSystem} {process : Nat}

theorem isName (h : Overlong name) : Path.isName name = true := by
  have hlong := h.long
  have hnonempty : name ≠ "" := by
    rintro rfl
    exact absurd hlong (by decide)
  have hnotHere : name ≠ "." := by
    rintro rfl
    exact absurd hlong (by decide)
  simp [Path.isName, hnonempty, hnotHere]

theorem parts (h : Overlong name) : Path.parts (longPath name) = ["a", name] := by
  apply Path.parts_join
  · intro part hlisted
    rcases List.mem_cons.1 hlisted with rfl | hlisted
    · decide
    · rw [List.mem_singleton.1 hlisted]
      exact h.slashless
  · exact List.cons_ne_nil _ _

theorem names (h : Overlong name) : Path.names (longPath name) = ["a", name] := by
  simp [Path.names, h.parts, Path.nonempty_of_isName h.isName]

end Overlong

end FileStore

end InstanceIdentity
