import InstanceIdentity.Proofs.Store.Siblings

/-!
# Who can read a secret while it is saved

A file that is created keeps all but its owner out, but a file that is opened keeps the permission
bits that it has.  A save therefore exposes its content in one case: the temporary sibling led to a
file with wider bits.  The bits are taken away at the very end, when the file has already got the
place of the cache file.

Main results:

- Theorem `FileStore.exposed_only_leftover`: at every point of a save, a file that others can read is as
  it was before, or the temporary sibling led to it; after a save that succeeds it is as it was before.
  The content is in a file to which the sibling led as soon as it is written.
- Theorem `FileStore.leftover_exposed`: a save whose secret others can read.
-/

namespace InstanceIdentity.FileStore

variable {store : FileStore} {token : CachedToken} {interference : Interference}
  {made now later : FileSystem} {stage : Stage} {target : FileSystem.Target} {number : Nat}
  {content : List UInt8}

/-- A file lets others in only if it is as it was, or the temporary sibling led to it. -/
def Sheltered (store : FileStore) (made now : FileSystem) : Prop :=
  ∀ number data, now.files[number]? = some data →
    OwnerOnly data.mode ∨ made.files[number]? = some data ∨ store.Leftover made number data.mode

theorem Filling.sheltered (hfilling : store.Filling made now target number content) :
    store.Sheltered made now := by
  intro other data hfound
  by_cases hsame : other = number
  · subst hsame
    rcases hfilling.mode data hfound with hleftover | ⟨-, hclosed⟩
    · exact .inr (.inr hleftover)
    · exact .inl hclosed
  · rw [hfilling.files other hsame] at hfound
    exact .inr (.inl hfound)

theorem Sheltered.of_files_eq (h : store.Sheltered made now) (hsame : later.files = now.files) :
    store.Sheltered made later := by
  intro number data hfound
  exact h number data (hsame ▸ hfound)

/-- After the file at the cache file's path has been restricted, all others are as they were. -/
theorem restricts_files {filled placed : FileSystem}
    (hfilling : store.Filling made filled target number content)
    (hrenames : filled.Renames store.temporary store.path placed)
    (hrestricts : placed.Restricts store.path ownerOnly now) (other : Nat) (data : FileData)
    (hfound : now.files[other]? = some data) :
    OwnerOnly data.mode ∨ made.files[other]? = some data := by
  have hopened := hfilling.openFile_of_restricts hrenames hrestricts
  rw [hrestricts.eq_of_openFile hopened, FileSystem.files_modifyFile, hrenames.files_eq] at hfound
  by_cases hsame : number = other
  · rw [if_pos hsame] at hfound
    obtain ⟨old, -, rfl⟩ := Option.map_eq_some_iff.1 hfound
    left
    show 0o600 &&& 0o77 = 0
    rfl
  · rw [if_neg hsame, hfilling.files other (Ne.symm hsame)] at hfound
    exact .inr hfound

theorem Replaced.restricted_files
    (h : Replaced store token interference made now (.finished (.ok ()))) (number : Nat)
    (data : FileData) (hfound : now.files[number]? = some data) :
    OwnerOnly data.mode ∨ made.files[number]? = some data := by
  cases h with
  | restricted hfilling hrenames hrestricts =>
    exact restricts_files hfilling hrenames hrestricts number data hfound

theorem Preparing.sheltered (h : Preparing store token interference made now stage) :
    store.Sheltered made now := by
  induction h with
  | unprepared | prepared | uncreated => exact fun _ _ hfound => .inr (.inl hfound)
  | created hfilling => exact hfilling.sheltered
  | written hfilling => exact hfilling.sheltered
  | synced hfilling => exact hfilling.sheltered
  | stopped hfilling => exact hfilling.sheltered
  | discarded hstopped hremoved ih =>
    obtain ⟨target, entry, -, -, -, -, rfl⟩ := FileSystem.remove_eq_ok_iff.1 hremoved
    exact ih.of_files_eq rfl
  | kept hstopped hrefused ih => exact ih

theorem Replaced.sheltered (h : Replaced store token interference made now stage) :
    store.Sheltered made now := by
  cases h with
  | renamed hfilling hrenames => exact hfilling.sheltered.of_files_eq hrenames.files_eq
  | unrestricted hfilling hrenames => exact hfilling.sheltered.of_files_eq hrenames.files_eq
  | restricted hfilling hrenames hrestricts =>
    intro other data hfound
    rcases restricts_files hfilling hrenames hrestricts other data hfound with hclosed | hunchanged
    · exact .inl hclosed
    · exact .inr (.inl hunchanged)

/-- What the temporary sibling led to gets the content and keeps its permission bits. -/
theorem Filling.leftover {mode : Nat} (hfilling : store.Filling made now target number content)
    {other : Nat} (hleftover : store.Leftover made other mode) :
    now.files[other]? = some ⟨content, mode⟩ := by
  obtain ⟨hopened, old, hthere, hkept⟩ := hleftover
  have hsame : other = number := by
    obtain ⟨target', hreached, -, hentry⟩ := FileSystem.openFile_eq_ok_iff.1 hopened
    rw [hfilling.reached] at hreached
    cases hreached
    rcases hfilling.before with hbefore | ⟨hmissing, -⟩
    · rw [hentry] at hbefore
      cases hbefore
      rfl
    · rw [hentry] at hmissing
      cases hmissing
  subst hsame
  have hbounded : other < made.files.length := (List.getElem?_eq_some_iff.1 hthere).1
  obtain ⟨data, hfound⟩ : ∃ data, now.files[other]? = some data :=
    ⟨_, List.getElem?_eq_getElem (Nat.lt_of_lt_of_le hbounded hfilling.continues.files)⟩
  have hcontents : data.content = content := hfilling.content data hfound
  have hmodes : data.mode = mode := by
    rcases hfilling.mode data hfound with ⟨-, old', hthere', hkept'⟩ | ⟨hfresh, -⟩
    · rw [hthere] at hthere'
      cases hthere'
      rw [← hkept, hkept']
    · omega
  rw [hfound, ← hcontents, ← hmodes]

/-- The content has been written, and the permission bits of the cache file are still to be set. -/
def Stage.Written : Stage → Prop
  | .sync _ | .rename | .restrict => True
  | _ => False

theorem Preparing.leftover {mode : Nat} (h : Preparing store token interference made now stage)
    (hwritten : stage.Written) (hleftover : store.Leftover made number mode) :
    now.files[number]? = some ⟨payload token, mode⟩ := by
  cases h with
  | written hfilling => exact hfilling.leftover hleftover
  | synced hfilling => exact hfilling.leftover hleftover
  | unprepared | prepared | created | uncreated | stopped | discarded | kept => cases hwritten

theorem Replaced.leftover {mode : Nat} (h : Replaced store token interference made now stage)
    (hwritten : stage.Written) (hleftover : store.Leftover made number mode) :
    now.files[number]? = some ⟨payload token, mode⟩ := by
  cases h with
  | renamed hfilling hrenames =>
    rw [hrenames.files_eq]
    exact hfilling.leftover hleftover
  | restricted | unrestricted => cases hwritten

/-- At every point of a save a file lets only its owner in, or it is as it was before, or the temporary
sibling led to it and it has the permission bits that it had; as soon as the content is written, it
is in such a file if there is one.  After a save that succeeds only files that are as they were before
let others in. -/
theorem exposed_only_leftover (store : FileStore) (token : CachedToken)
    (interference : Interference) (fs : FileSystem) :
    (∀ (count number : Nat) (data : FileData),
      (store.after token interference fs count).1.files[number]? = some data →
      OwnerOnly data.mode ∨ fs.files[number]? = some data ∨
        store.Leftover (store.afterDirectories token interference fs) number data.mode) ∧
    (∀ count number mode : Nat, (store.after token interference fs count).2.Written →
      store.Leftover (store.afterDirectories token interference fs) number mode →
        (store.after token interference fs count).1.files[number]? =
          some ⟨payload token, mode⟩) ∧
    ((store.save token interference fs).2 = .ok () →
      ∀ (number : Nat) (data : FileData),
        (store.save token interference fs).1.files[number]? = some data →
          OwnerOnly data.mode ∨ fs.files[number]? = some data) := by
  have hfiles : (store.afterDirectories token interference fs).files = fs.files :=
    (store.prepared_afterDirectories token interference fs).1.grown.files
  refine ⟨?_, ?_, ?_⟩
  · intro count number data hfound
    cases count with
    | zero => exact .inr (.inl hfound)
    | succ count =>
      rw [← hfiles]
      rcases store.preparing_or_replaced token interference fs count with hpreparing | ⟨-, hreplaced⟩
      · exact hpreparing.sheltered number data hfound
      · exact hreplaced.sheltered number data hfound
  · intro count number mode hwritten hleftover
    cases count with
    | zero => cases hwritten
    | succ count =>
      rcases store.preparing_or_replaced token interference fs count with hpreparing | ⟨-, hreplaced⟩
      · exact hpreparing.leftover hwritten hleftover
      · exact hreplaced.leftover hwritten hleftover
  · intro hsucceeded number data hfound
    rw [← hfiles]
    rcases store.save_point token interference fs with ⟨-, hreplaced⟩ | ⟨-, hpreparing⟩
    · rw [hsucceeded] at hreplaced
      exact hreplaced.restricted_files number data hfound
    · obtain ⟨error, hfailed⟩ := hpreparing.failed
      rw [hsucceeded] at hfailed
      cases hfailed

theorem Replaced.temporary_resolved (h : Replaced store token interference made now stage) :
    ∃ target, made.resolve store.temporary = .ok target := by
  cases h with
  | renamed hfilling => exact FileSystem.resolve_of_reach hfilling.reached
  | restricted hfilling => exact FileSystem.resolve_of_reach hfilling.reached
  | unrestricted hfilling => exact FileSystem.resolve_of_reach hfilling.reached

theorem Preparing.files_of_nowhere
    (hnowhere : ∀ (fs : FileSystem) (target : FileSystem.Target),
      fs.resolve store.temporary ≠ .ok target)
    (h : Preparing store token interference made now stage) : now.files = made.files := by
  have hunfilled {now : FileSystem} {target : FileSystem.Target} {number : Nat} {content : List UInt8}
      (hfilling : store.Filling made now target number content) : False := by
    obtain ⟨own, hresolved⟩ := FileSystem.resolve_of_reach hfilling.reached
    exact hnowhere _ own hresolved
  induction h with
  | unprepared | prepared | uncreated => rfl
  | created hfilling => exact (hunfilled hfilling).elim
  | written hfilling => exact (hunfilled hfilling).elim
  | synced hfilling => exact (hunfilled hfilling).elim
  | stopped hfilling => exact (hunfilled hfilling).elim
  | discarded hstopped hremoved =>
    obtain ⟨target, -, hresolved, -⟩ := FileSystem.remove_eq_ok_iff.1 hremoved
    exact absurd hresolved (hnowhere _ target)
  | kept hstopped hrefused ih => exact ih

/-- A save that cannot create its temporary sibling leaves all files alone. -/
theorem files_of_nowhere
    (hnowhere : ∀ (fs : FileSystem) (target : FileSystem.Target),
      fs.resolve store.temporary ≠ .ok target)
    (token : CachedToken) (interference : Interference) (fs : FileSystem) :
    (store.save token interference fs).1.files = fs.files := by
  have hgrown := (store.prepared_afterDirectories token interference fs).1.grown
  rcases store.save_point token interference fs with ⟨-, hreplaced⟩ | ⟨-, hpreparing⟩
  · obtain ⟨target, hresolved⟩ := hreplaced.temporary_resolved
    exact absurd hresolved (hnowhere _ target)
  · rw [hpreparing.files_of_nowhere hnowhere, hgrown.files]

/-! ## A leftover file -/

/-- A file that everybody can read, at a place below the current directory. -/
def publicFile (name : String) (content : List UInt8) : FileSystem where
  entries := [([], .directory 0o755), (["work"], .directory 0o755), (["work", name], .file 0)]
  files := [⟨content, 0o644⟩]
  umask := 0o22
  current := ["work"]

/-- No temporary sibling can be created when its name is too long, although that of the cache file is
not. -/
theorem temporary_of_long {name : String} (hslashless : '/' ∉ name.toList)
    (hlong : 250 ≤ name.utf8ByteSize) (process : Nat) (fs : FileSystem) (target : FileSystem.Target) :
    fs.resolve (FileStore.temporary ⟨name, process⟩) ≠ .ok target := by
  have hother {text : String} (hshort : text.utf8ByteSize < 250) : name ≠ text := by
    rintro rfl
    omega
  have hproper : Path.isName name = true := by
    have hnonempty : name ≠ "" := hother (by decide)
    have hnotHere : name ≠ "." := hother (by decide)
    simp [Path.isName, hnonempty, hnotHere]
  have hsingle : Path.join [name] = name := by
    rw [← String.toList_inj, Path.toList_join]
    simp
  have hparts : Path.parts name = [name] := by
    have hsplit : Path.parts (Path.join [name]) = [name] :=
      Path.parts_join (by simpa using hslashless) (List.cons_ne_nil _ _)
    rwa [hsingle] at hsplit
  have hlast : (Path.names name).getLast? = some name := by
    simp [Path.names, hparts, Path.nonempty_of_isName hproper]
  have hfile : Path.fileName? name = some name :=
    Path.fileName?_of_getLast? hlast hproper (hother (by decide))
  have hsuffixed : FileSystem.longestName < (temporaryName ⟨name, process⟩).utf8ByteSize := by
    have hdigits : (toString process).utf8ByteSize ≠ 0 := by
      rw [Ne, String.utf8ByteSize_eq_zero_iff]
      exact Nat.repr_ne_empty
    have hpoint : ".".utf8ByteSize = 1 := rfl
    have hsuffix : ".tmp".utf8ByteSize = 4 := rfl
    simp only [temporaryName, hfile, Option.getD_some, String.utf8ByteSize_append, hpoint, hsuffix,
      FileSystem.longestName]
    omega
  obtain ⟨-, front, -, -, hnames, -⟩ := temporary_names ⟨name, process⟩
  have hending : (Path.names (temporary ⟨name, process⟩)).getLast? =
      some (temporaryName ⟨name, process⟩) := by
    rw [hnames, List.getLast?_concat]
  exact FileSystem.locate_ne_ok_of_long hending hsuffixed

/-- Everybody can read the secret once it is written to a file that was left at the temporary sibling,
and goes on reading it when the permission bits of the cache file cannot be set.  A public cache file
that holds the secret already stays public when no temporary sibling can be created. -/
theorem leftover_exposed :
    let store : FileStore := ⟨"t.json", 7⟩
    let left := publicFile "t.json.7.tmp" []
    let unrestricted : Interference :=
      ⟨fun operation => if operation = .restrict then some .busy else none, 0, 0⟩
    let long := String.ofList (List.replicate 250 'n')
    (store.after sampleToken .nothing left 3).1.files = [⟨payload sampleToken, 0o644⟩] ∧
      (store.save sampleToken unrestricted left).1.fileAt? ["work", "t.json"] =
        some ⟨payload sampleToken, 0o644⟩ ∧
      (FileStore.save ⟨long, 7⟩ sampleToken .nothing (publicFile long (payload sampleToken))).1.files =
        [⟨payload sampleToken, 0o644⟩] ∧
      ¬ OwnerOnly 0o644 := by
  intro store left unrestricted long
  have hsize : long.utf8ByteSize = 250 := by decide +kernel
  have hslashless : '/' ∉ long.toList := by
    rw [String.toList_ofList]
    exact fun hlisted => absurd (List.eq_of_mem_replicate hlisted) (by decide)
  refine ⟨?_, ?_, ?_, ?_⟩
  · decide +kernel
  · decide +kernel
  · exact files_of_nowhere (temporary_of_long hslashless (Nat.le_of_eq hsize.symm) 7) _ _ _
  · show ¬ 0o644 &&& 0o77 = 0
    decide

end InstanceIdentity.FileStore
