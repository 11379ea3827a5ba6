import InstanceIdentity.Proofs.Store.Directories

/-!
# The course of a save

What each operation of a save does on any file system, and how far a save that nobody disturbs has
come after a number of operations.

Main results:

- Theorem `FileStore.step_moves`: every way in which an operation of a save can end.
- Theorem `FileStore.after_seven`: a save has come to its end after seven operations.
- Theorems `FileStore.preparing_or_replaced`, `FileStore.save_point`: every point that an undisturbed
  save can reach, with the directories that it has made and the file that it has written.
-/

namespace InstanceIdentity

/-- Only the owner has permissions. -/
def OwnerOnly (mode : Nat) : Prop := mode &&& 0o77 = 0

namespace FileSystem

theorem ownerOnly_granted (fs : FileSystem) : OwnerOnly (fs.granted FileStore.ownerOnly) := by
  show (0o600 ^^^ (0o600 &&& fs.umask)) &&& 0o77 = 0
  have hwithheld : (0o600 &&& fs.umask) &&& 0o77 = 0 := by
    rw [Nat.and_comm 0o600, Nat.and_assoc]
    show fs.umask &&& 0 = 0
    exact Nat.and_zero _
  rw [Nat.and_xor_distrib_right, hwithheld]
  rfl

theorem files_modifyFile (fs : FileSystem) (number other : Nat) (f : FileData → FileData) :
    (fs.modifyFile number f).files[other]? =
      if number = other then fs.files[other]?.map f else fs.files[other]? := by
  rw [modifyFile, List.getElem?_modify]
  split <;> simp

end FileSystem

namespace FileStore

variable {store : FileStore} {token : CachedToken} {interference : Interference}
  {fs made now later : FileSystem} {stage : Stage}

/-! ## One operation -/

/-- The ways in which an operation of a save can end. -/
inductive Moves (store : FileStore) (token : CachedToken) (interference : Interference)
    (fs : FileSystem) : Stage → FileSystem → Stage → Prop
  /-- The directories above the cache file are there. -/
  | prepared (later : FileSystem) (prepared : fs.Prepared store.path later) :
      Moves store token interference fs .prepare later .create
  /-- Some of them are there, and that is the end. -/
  | unprepared (later : FileSystem) (error : StoreError) (prepared : fs.Prepared store.path later) :
      Moves store token interference fs .prepare later (.finished (.error error))
  /-- The temporary sibling is there and empty. -/
  | created (number : Nat) (later : FileSystem)
      (creates : fs.Creates store.temporary ownerOnly number later) :
      Moves store token interference fs .create later (.write number)
  | uncreated (error : StoreError) :
      Moves store token interference fs .create fs (.discard error)
  /-- The whole content is written. -/
  | written (number : Nat) :
      Moves store token interference fs (.write number) (fs.write number (payload token))
        (.sync number)
  /-- Some of the content is written. -/
  | unwritten (number : Nat) (bytes : List UInt8) (error : StoreError) :
      Moves store token interference fs (.write number) (fs.write number bytes) (.discard error)
  | synced (number : Nat) : Moves store token interference fs (.sync number) fs .rename
  | unsynced (number : Nat) (error : StoreError) :
      Moves store token interference fs (.sync number) fs (.discard error)
  /-- The temporary sibling has taken the place of the cache file. -/
  | renamed (later : FileSystem) (renames : fs.Renames store.temporary store.path later) :
      Moves store token interference fs .rename later .restrict
  | unrenamed (error : StoreError) :
      Moves store token interference fs .rename fs (.discard error)
  | restricted (later : FileSystem) (restricts : fs.Restricts store.path ownerOnly later)
      (granted : interference.refuses .restrict = none) :
      Moves store token interference fs .restrict later (.finished (.ok ()))
  | unrestricted (error : StoreError) (refused : interference.refuses .restrict ≠ none ∨
      ∀ number, fs.openFile store.path ≠ .ok number) :
      Moves store token interference fs .restrict fs (.finished (.error error))
  | discarded (later : FileSystem) (error : StoreError)
      (removed : fs.remove store.temporary = .ok later) :
      Moves store token interference fs (.discard error) later (.finished (.error error))
  | kept (error : StoreError) (refused : interference.refuses .discard ≠ none ∨
      ∀ later, fs.remove store.temporary ≠ .ok later) :
      Moves store token interference fs (.discard error) fs (.finished (.error error))
  | ended (result : Except StoreError Unit) :
      Moves store token interference fs (.finished result) fs (.finished result)

theorem allow_eq_ok {α : Type} {operation : Operation} {outcome : Except Errno α} {value : α}
    (h : interference.allow operation outcome = .ok value) :
    interference.refuses operation = none ∧ outcome = .ok value := by
  unfold Interference.allow at h
  split at h
  case h_1 => cases h
  case h_2 hgranted => exact ⟨hgranted, h⟩

theorem allow_eq_error {α : Type} {operation : Operation} {outcome : Except Errno α} {errno : Errno}
    (h : interference.allow operation outcome = .error errno) :
    interference.refuses operation ≠ none ∨ ∀ value, outcome ≠ .ok value := by
  unfold Interference.allow at h
  split at h
  case h_1 errno hrefused =>
    left
    simp [hrefused]
  case h_2 =>
    right
    rintro value rfl
    cases h

theorem holds_of_directory? {directory : String} (h : store.directory? = some directory) :
    Path.Holds directory store.path := by
  obtain ⟨hparent, hnonempty⟩ := Option.filter_eq_some_iff.1 h
  exact Path.parent_holds hparent (by simpa using hnonempty)

theorem step_moves (store : FileStore) (token : CachedToken) (interference : Interference)
    (fs : FileSystem) (stage : Stage) :
    Moves store token interference fs stage (store.step token interference fs stage).1
      (store.step token interference fs stage).2 := by
  cases stage with
  | prepare =>
    simp only [step]
    split
    case h_1 => exact .prepared fs (.refl _ _)
    case h_2 directory habove =>
      have hholds := holds_of_directory? habove
      have hwhole : fs.Prepared store.path (fs.makeDirectories directory).1 :=
        FileSystem.prepared_makeDirectories hholds
      split
      case h_1 =>
        split
        case h_1 later hdone =>
          rw [hdone] at hwhole
          exact .prepared later hwhole
        case h_2 later errno hdone =>
          rw [hdone] at hwhole
          exact .unprepared later _ hwhole
      case h_2 herrno =>
        exact .unprepared _ _ (FileSystem.prepared_makeAbove hholds (interference.unmade + 1))
  | create =>
    simp only [step]
    split
    case h_1 number later hdone =>
      exact .created number later (FileSystem.creates_of_create (allow_eq_ok hdone).2)
    case h_2 => exact .uncreated _
  | write number =>
    simp only [step]
    split
    case h_1 => exact .written number
    case h_2 => exact .unwritten number _ _
  | sync number =>
    simp only [step]
    split
    case h_1 => exact .synced number
    case h_2 => exact .unsynced number _
  | rename =>
    simp only [step]
    split
    case h_1 later hdone =>
      exact .renamed later (FileSystem.renames_of_rename (allow_eq_ok hdone).2)
    case h_2 => exact .unrenamed _
  | restrict =>
    simp only [step]
    split
    case h_1 later hdone =>
      obtain ⟨hgranted, hdone⟩ := allow_eq_ok hdone
      exact .restricted later (FileSystem.restricts_of_setMode hdone) hgranted
    case h_2 errno hdone =>
      apply Moves.unrestricted
      rcases allow_eq_error hdone with hrefused | hfailed
      · exact .inl hrefused
      · right
        intro number hopened
        exact hfailed _ (FileSystem.setMode_of_openFile hopened)
  | discard error =>
    simp only [step]
    split
    case h_1 later hdone => exact .discarded later error (allow_eq_ok hdone).2
    case h_2 errno hdone => exact .kept error (allow_eq_error hdone)
  | finished result => exact .ended result

/-- Trees stay trees, and no file is forgotten. -/
theorem Moves.continues {next : Stage} (h : Moves store token interference fs stage later next) :
    FileSystem.Continues fs later := by
  cases h with
  | prepared _ hprepared => exact hprepared.continues
  | unprepared _ _ hprepared => exact hprepared.continues
  | created number _ hcreates => exact hcreates.continues
  | written number => exact FileSystem.continues_write fs number _
  | unwritten number bytes => exact FileSystem.continues_write fs number bytes
  | renamed _ hrenames => exact hrenames.continues
  | restricted _ hrestricts => exact hrestricts.continues
  | discarded _ _ hremoved => exact FileSystem.continues_of_remove hremoved
  | uncreated | synced | unsynced | unrenamed | unrestricted | kept | ended => exact .refl fs

/-! ## Undisturbed saves -/

/-- A save after a number of operations between which nobody else acts. -/
def after (store : FileStore) (token : CachedToken) (interference : Interference)
    (fs : FileSystem) : Nat → FileSystem × Stage
  | 0 => (fs, .prepare)
  | count + 1 =>
    store.step token interference (store.after token interference fs count).1
      (store.after token interference fs count).2

theorem finish_step (store : FileStore) (token : CachedToken) (interference : Interference)
    (fs : FileSystem) (stage : Stage) :
    store.finish token interference (store.step token interference fs stage).1
      (store.step token interference fs stage).2 = store.finish token interference fs stage := by
  match h : stage.result? with
  | some result =>
    cases stage with
    | finished => rfl
    | _ => cases h
  | none =>
    rw [finish.eq_def store token interference fs stage]
    split
    case h_1 result hfound => simp [h] at hfound
    case h_2 => rfl

theorem Stage.eq_finished (h : stage.left = 0) : ∃ result, stage = .finished result := by
  cases stage with
  | finished result => exact ⟨result, rfl⟩
  | prepare | create | write | sync | rename | restrict | discard => cases h

theorem left_after_le (store : FileStore) (token : CachedToken) (interference : Interference)
    (fs : FileSystem) (count : Nat) :
    (store.after token interference fs count).2.left ≤ 7 - count := by
  induction count with
  | zero => exact Nat.le_refl 7
  | succ count ih =>
    rw [after]
    by_cases hnone : (store.after token interference fs count).2.left = 0
    · obtain ⟨result, hfinished⟩ := Stage.eq_finished hnone
      rw [hfinished]
      exact Nat.zero_le _
    · have := step_left_lt store token interference (store.after token interference fs count).1 _
        (Nat.pos_of_ne_zero hnone)
      omega

/-- A save has come to its end after seven operations. -/
theorem after_seven (store : FileStore) (token : CachedToken) (interference : Interference)
    (fs : FileSystem) : store.after token interference fs 7 =
      ((store.save token interference fs).1, .finished (store.save token interference fs).2) := by
  have hcarried (count : Nat) :
      store.finish token interference (store.after token interference fs count).1
        (store.after token interference fs count).2 = store.save token interference fs := by
    induction count with
    | zero => rfl
    | succ count ih =>
      rw [after, finish_step]
      exact ih
  have hleft := store.left_after_le token interference fs 7
  obtain ⟨result, hfinished⟩ := Stage.eq_finished (Nat.le_zero.1 hleft)
  have hended := hcarried 7
  rw [hfinished, finish] at hended
  simp only [Stage.result?] at hended
  rw [← hended, ← hfinished]

/-! ### The temporary sibling -/

/-- The temporary sibling leads to a file with certain permission bits, from before. -/
def Leftover (store : FileStore) (made : FileSystem) (number mode : Nat) : Prop :=
  made.openFile store.temporary = .ok number ∧
    ∃ old, made.files[number]? = some old ∧ old.mode = mode

/-- The temporary sibling leads to a file with a certain content; nothing else has changed since the
directories were made. -/
structure Filling (store : FileStore) (made now : FileSystem) (target : FileSystem.Target)
    (number : Nat) (content : List UInt8) : Prop where
  continues : FileSystem.Continues made now
  onward : FileSystem.Onward made now
  reached : made.reach store.temporary = .ok target
  unslashed : target.slashed = false
  named : target.named = true
  entry : now.entry? target.place = some (.file number)
  /-- The file was there before, or it is new. -/
  before : made.entry? target.place = some (.file number) ∨
    made.entry? target.place = none ∧ number = made.files.length
  places : ∀ place, place ≠ target.place → now.entry? place = made.entry? place
  files : ∀ other, other ≠ number → now.files[other]? = made.files[other]?
  content : ∀ data, now.files[number]? = some data → data.content = content
  mode : ∀ data, now.files[number]? = some data → store.Leftover made number data.mode ∨
    number = made.files.length ∧ OwnerOnly data.mode
  numbered : made.Numbered → number < now.files.length

theorem filling_of_creates {number : Nat}
    (h : made.Creates store.temporary ownerOnly number now) :
    ∃ target, store.Filling made now target number [] := by
  have hcontinues := h.continues
  have honward := h.onward
  cases h with
  | reopened target number hreached hunslashed hnamed hentry =>
    refine ⟨target, hcontinues, honward, hreached, hunslashed, hnamed, hentry, .inl hentry,
      fun _ _ => rfl, ?_, ?_, ?_, ?_⟩
    · intro other hapart
      rw [FileSystem.files_modifyFile, if_neg (Ne.symm hapart)]
    · intro data hfound
      rw [FileSystem.files_modifyFile, if_pos rfl] at hfound
      obtain ⟨old, hthere, rfl⟩ := Option.map_eq_some_iff.1 hfound
      rfl
    · intro data hfound
      rw [FileSystem.files_modifyFile, if_pos rfl] at hfound
      obtain ⟨old, hthere, rfl⟩ := Option.map_eq_some_iff.1 hfound
      left
      exact ⟨FileSystem.openFile_eq_ok_iff.2 ⟨target, hreached, hunslashed, hentry⟩, old, hthere, rfl⟩
    · intro hnumbered
      exact Nat.lt_of_lt_of_le (hnumbered _ _ hentry) hcontinues.files
  | anew target hreached hunslashed hnamed hentry =>
    have hfiles (other : Nat) : (made.withFile target.place ownerOnly).files[other]? =
        (made.files ++ [({ content := [], mode := made.granted ownerOnly } : FileData)])[other]? := rfl
    have hfresh : (made.withFile target.place ownerOnly).files[made.files.length]? =
        some { content := [], mode := made.granted ownerOnly } := by
      rw [hfiles]
      simp
    refine ⟨target, hcontinues, honward, hreached, hunslashed, hnamed, ?_, .inr ⟨hentry, rfl⟩, ?_, ?_,
      ?_, ?_, ?_⟩
    · rw [FileSystem.withFile, FileSystem.entry?_link, if_pos rfl]
    · intro place hapart
      rw [FileSystem.withFile, FileSystem.entry?_link, if_neg hapart]
      rfl
    · intro other hapart
      rw [hfiles]
      rcases Nat.lt_or_gt_of_ne hapart with hbelow | habove
      · exact List.getElem?_append_left hbelow
      · rw [List.getElem?_eq_none (by simp; omega), List.getElem?_eq_none (by omega)]
    · intro data hfound
      rw [hfresh] at hfound
      cases hfound
      rfl
    · intro data hfound
      rw [hfresh] at hfound
      cases hfound
      exact .inr ⟨rfl, FileSystem.ownerOnly_granted made⟩
    · intro hnumbered
      simp [FileSystem.withFile]

/-- Bytes that are written to the empty sibling are its content. -/
theorem Filling.write {target : FileSystem.Target} {number : Nat}
    (h : store.Filling made now target number []) (bytes : List UInt8) :
    store.Filling made (now.write number bytes) target number bytes := by
  constructor
  · exact h.continues.trans (FileSystem.continues_write now number bytes)
  · exact h.onward.trans (FileSystem.onward_modifyFile now number _)
  · exact h.reached
  · exact h.unslashed
  · exact h.named
  · exact h.entry
  · exact h.before
  · exact h.places
  · intro other hapart
    rw [FileSystem.write, FileSystem.files_modifyFile, if_neg (Ne.symm hapart)]
    exact h.files other hapart
  · intro data hfound
    rw [FileSystem.write, FileSystem.files_modifyFile, if_pos rfl] at hfound
    obtain ⟨old, hthere, rfl⟩ := Option.map_eq_some_iff.1 hfound
    have hempty : old.content = [] := h.content old hthere
    simp [hempty]
  · intro data hfound
    rw [FileSystem.write, FileSystem.files_modifyFile, if_pos rfl] at hfound
    obtain ⟨old, hthere, rfl⟩ := Option.map_eq_some_iff.1 hfound
    exact h.mode old hthere
  · intro hnumbered
    exact Nat.lt_of_lt_of_le (h.numbered hnumbered) (FileSystem.continues_write now number bytes).files

section Filled

variable {target : FileSystem.Target} {number : Nat} {content : List UInt8}
  (h : store.Filling made now target number content)

include h

/-- The sibling was no directory and no symbolic link. -/
theorem Filling.entry_cases :
    made.entry? target.place = some (.file number) ∨ made.entry? target.place = none :=
  h.before.imp_right And.left

theorem Filling.vacant : ¬ made.HasDirectory target.place := by
  rcases h.entry_cases with hentry | hmissing
  · exact FileSystem.not_hasDirectory_of_file hentry
  · exact FileSystem.not_hasDirectory_of_none hmissing

theorem Filling.unlinked (body : String) : made.entry? target.place ≠ some (.symlink body) := by
  rcases h.entry_cases with hentry | hmissing
  · simp [hentry]
  · simp [hmissing]

/-- While the sibling is filled, its path leads to it. -/
theorem Filling.reached_now : now.reach store.temporary = .ok target := by
  obtain ⟨hadmitted, hseek⟩ := FileSystem.locate_eq_ok_iff.1 h.reached
  apply FileSystem.locate_eq_ok_iff.2
  refine ⟨hadmitted, ?_⟩
  rw [h.onward.origin_eq]
  refine FileSystem.seek_of_kept h.onward.directories ?_ (fun _ => by simp [h.entry]) hseek
  intro place body hlinked
  have hapart : place ≠ target.place := by
    rintro rfl
    exact h.unlinked body hlinked
  rw [h.places place hapart, hlinked]

theorem Filling.openFile : now.openFile store.temporary = .ok number :=
  FileSystem.openFile_eq_ok_iff.2 ⟨target, h.reached_now, h.unslashed, h.entry⟩

end Filled

/-! ### All points of a save -/

/-- The points of a save after it has made directories, and before the cache file is replaced. -/
inductive Preparing (store : FileStore) (token : CachedToken) (interference : Interference)
    (made : FileSystem) : FileSystem → Stage → Prop
  | unprepared (error : StoreError) :
      Preparing store token interference made made (.finished (.error error))
  | prepared : Preparing store token interference made made .create
  | created {now : FileSystem} {target : FileSystem.Target} {number : Nat}
      (filling : store.Filling made now target number []) :
      Preparing store token interference made now (.write number)
  | written {now : FileSystem} {target : FileSystem.Target} {number : Nat}
      (filling : store.Filling made now target number (payload token)) :
      Preparing store token interference made now (.sync number)
  | synced {now : FileSystem} {target : FileSystem.Target} {number : Nat}
      (filling : store.Filling made now target number (payload token)) :
      Preparing store token interference made now .rename
  | uncreated (error : StoreError) :
      Preparing store token interference made made (.discard error)
  /-- The temporary sibling has been created, and then an operation was refused. -/
  | stopped {now : FileSystem} {target : FileSystem.Target} {number : Nat} {content : List UInt8}
      (filling : store.Filling made now target number content) (error : StoreError) :
      Preparing store token interference made now (.discard error)
  | discarded {spoilt now : FileSystem} {error : StoreError}
      (stopped : Preparing store token interference made spoilt (.discard error))
      (removed : spoilt.remove store.temporary = .ok now) :
      Preparing store token interference made now (.finished (.error error))
  | kept {now : FileSystem} {error : StoreError}
      (stopped : Preparing store token interference made now (.discard error))
      (refused : interference.refuses .discard ≠ none ∨
        ∀ later, now.remove store.temporary ≠ .ok later) :
      Preparing store token interference made now (.finished (.error error))

/-- The points of a save after the cache file has been replaced. -/
inductive Replaced (store : FileStore) (token : CachedToken) (interference : Interference)
    (made : FileSystem) : FileSystem → Stage → Prop
  | renamed {filled now : FileSystem} {target : FileSystem.Target} {number : Nat}
      (filling : store.Filling made filled target number (payload token))
      (renames : filled.Renames store.temporary store.path now) :
      Replaced store token interference made now .restrict
  | restricted {filled placed now : FileSystem} {target : FileSystem.Target} {number : Nat}
      (filling : store.Filling made filled target number (payload token))
      (renames : filled.Renames store.temporary store.path placed)
      (restricts : placed.Restricts store.path ownerOnly now)
      (granted : interference.refuses .restrict = none) :
      Replaced store token interference made now (.finished (.ok ()))
  | unrestricted {filled now : FileSystem} {target : FileSystem.Target} {number : Nat}
      (filling : store.Filling made filled target number (payload token))
      (renames : filled.Renames store.temporary store.path now) (error : StoreError)
      (refused : interference.refuses .restrict ≠ none ∨
        ∀ number, now.openFile store.path ≠ .ok number) :
      Replaced store token interference made now (.finished (.error error))

theorem not_preparing_restrict : ¬ Preparing store token interference made now .restrict := by
  intro h
  cases h

/-- A save that ends without having replaced the cache file fails. -/
theorem Preparing.failed {result : Except StoreError Unit}
    (h : Preparing store token interference made now (.finished result)) :
    ∃ error, result = .error error := by
  cases h with
  | unprepared error => exact ⟨error, rfl⟩
  | discarded => exact ⟨_, rfl⟩
  | kept => exact ⟨_, rfl⟩

/-- Only renaming leads from the points before the replacement to those after it. -/
theorem Preparing.moves {next : Stage} (h : Preparing store token interference made now stage)
    (hmove : Moves store token interference now stage later next) :
    Preparing store token interference made later next ∨
      next = .restrict ∧ Replaced store token interference made later next := by
  cases h with
  | unprepared error =>
    cases hmove
    exact .inl (.unprepared error)
  | prepared =>
    cases hmove with
    | created number _ hcreates =>
      obtain ⟨target, hfilling⟩ := filling_of_creates hcreates
      exact .inl (.created hfilling)
    | uncreated error => exact .inl (.uncreated error)
  | created hfilling =>
    cases hmove with
    | written => exact .inl (.written (hfilling.write _))
    | unwritten _ bytes error => exact .inl (.stopped (hfilling.write bytes) error)
  | written hfilling =>
    cases hmove with
    | synced => exact .inl (.synced hfilling)
    | unsynced _ error => exact .inl (.stopped hfilling error)
  | synced hfilling =>
    cases hmove with
    | renamed _ hrenames => exact .inr ⟨rfl, .renamed hfilling hrenames⟩
    | unrenamed error => exact .inl (.stopped hfilling error)
  | uncreated error =>
    cases hmove with
    | discarded _ _ hremoved => exact .inl (.discarded (.uncreated error) hremoved)
    | kept _ hrefused => exact .inl (.kept (.uncreated error) hrefused)
  | stopped hfilling error =>
    cases hmove with
    | discarded _ _ hremoved => exact .inl (.discarded (.stopped hfilling error) hremoved)
    | kept _ hrefused => exact .inl (.kept (.stopped hfilling error) hrefused)
  | discarded hstopped hremoved =>
    cases hmove
    exact .inl (.discarded hstopped hremoved)
  | kept hstopped hrefused =>
    cases hmove
    exact .inl (.kept hstopped hrefused)

theorem Replaced.moves {next : Stage} (h : Replaced store token interference made now stage)
    (hmove : Moves store token interference now stage later next) :
    Replaced store token interference made later next := by
  cases h with
  | renamed hfilling hrenames =>
    cases hmove with
    | restricted _ hrestricts hgranted => exact .restricted hfilling hrenames hrestricts hgranted
    | unrestricted error hrefused => exact .unrestricted hfilling hrenames error hrefused
  | restricted hfilling hrenames hrestricts hgranted =>
    cases hmove
    exact .restricted hfilling hrenames hrestricts hgranted
  | unrestricted hfilling hrenames error hrefused =>
    cases hmove
    exact .unrestricted hfilling hrenames error hrefused

section Runs

variable (store : FileStore) (token : CachedToken) (interference : Interference) (fs : FileSystem)

/-- The file system of a save when its directories have been made. -/
def afterDirectories : FileSystem := (store.after token interference fs 1).1

/-- A save comes to the point where the cache file has been replaced. -/
def Renamed : Prop := ∃ count, (store.after token interference fs count).2 = .restrict

/-- Directories are made first. -/
theorem prepared_afterDirectories :
    fs.Prepared store.path (store.afterDirectories token interference fs) ∧
      Preparing store token interference (store.afterDirectories token interference fs)
        (store.after token interference fs 1).1 (store.after token interference fs 1).2 := by
  have hfirst : Moves store token interference fs .prepare (store.after token interference fs 1).1
      (store.after token interference fs 1).2 := store.step_moves token interference fs .prepare
  unfold afterDirectories
  generalize store.after token interference fs 1 = now at hfirst ⊢
  obtain ⟨made, stage⟩ := now
  cases hfirst with
  | prepared _ hprepared => exact ⟨hprepared, .prepared⟩
  | unprepared _ error hprepared => exact ⟨hprepared, .unprepared error⟩

/-- Every point that a save reaches. -/
theorem preparing_or_replaced (count : Nat) :
    Preparing store token interference (store.afterDirectories token interference fs)
        (store.after token interference fs (count + 1)).1
        (store.after token interference fs (count + 1)).2 ∨
      store.Renamed token interference fs ∧
        Replaced store token interference (store.afterDirectories token interference fs)
          (store.after token interference fs (count + 1)).1
          (store.after token interference fs (count + 1)).2 := by
  induction count with
  | zero => exact .inl (store.prepared_afterDirectories token interference fs).2
  | succ count ih =>
    have hmove := store.step_moves token interference
      (store.after token interference fs (count + 1)).1
      (store.after token interference fs (count + 1)).2
    rcases ih with hpreparing | ⟨hrenamed, hreplaced⟩
    · rcases hpreparing.moves hmove with hpreparing | ⟨hrestrict, hreplaced⟩
      · exact .inl hpreparing
      · exact .inr ⟨⟨count + 2, hrestrict⟩, hreplaced⟩
    · exact .inr ⟨hrenamed, hreplaced.moves hmove⟩

/-- What has been replaced stays replaced. -/
theorem replaced_of_restrict {count : Nat}
    (h : (store.after token interference fs count).2 = .restrict) (more : Nat) :
    Replaced store token interference (store.afterDirectories token interference fs)
      (store.after token interference fs (count + more)).1
      (store.after token interference fs (count + more)).2 := by
  induction more with
  | zero =>
    cases count with
    | zero => cases h
    | succ count =>
      rcases store.preparing_or_replaced token interference fs count with hpreparing | ⟨-, hreplaced⟩
      · rw [h] at hpreparing
        exact absurd hpreparing not_preparing_restrict
      · exact hreplaced
  | succ more ih => exact ih.moves (store.step_moves token interference _ _)

/-- The end of a save whose content has got the place of the cache file, and of one whose content has
not. -/
theorem save_point :
    (store.Renamed token interference fs ∧
      Replaced store token interference (store.afterDirectories token interference fs)
        (store.save token interference fs).1 (.finished (store.save token interference fs).2)) ∨
    (¬ store.Renamed token interference fs ∧
      Preparing store token interference (store.afterDirectories token interference fs)
        (store.save token interference fs).1 (.finished (store.save token interference fs).2)) := by
  by_cases hrenamed : store.Renamed token interference fs
  · left
    refine ⟨hrenamed, ?_⟩
    obtain ⟨count, hrestrict⟩ := hrenamed
    have hearly : count ≤ 7 := by
      have hleft := store.left_after_le token interference fs count
      rw [hrestrict] at hleft
      simp only [Stage.left] at hleft
      omega
    have hreplaced := store.replaced_of_restrict token interference fs hrestrict (7 - count)
    rw [Nat.add_sub_cancel' hearly, after_seven] at hreplaced
    exact hreplaced
  · right
    refine ⟨hrenamed, ?_⟩
    have hpoint := store.preparing_or_replaced token interference fs 6
    rw [after_seven] at hpoint
    exact hpoint.resolve_right fun h => hrenamed h.1

end Runs

/-- A secret to be saved. -/
def sampleToken : CachedToken := ⟨⟨"secret"⟩, ⟨0, by decide⟩⟩

end FileStore

end InstanceIdentity
