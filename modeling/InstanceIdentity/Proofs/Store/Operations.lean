import InstanceIdentity.Proofs.Store.Places

/-!
# What the operations on files do

Each operation that succeeds is described by the places and files that it changes.  None of them
removes a directory, so that paths go on leading where they led unless a symbolic link on their way is
moved or replaced, and each of them makes a tree of a tree.

Main results:

- Definitions `FileSystem.Creates` and `FileSystem.Renames`: all that a successful creation and a
  successful renaming do.
- Structures `FileSystem.Continues` and `FileSystem.Onward`: what every operation keeps, and what it
  keeps when it takes no way to a directory; one theorem for each operation.
-/

namespace InstanceIdentity.FileSystem

variable {fs later : FileSystem} {path source : String} {target : Target} {mode number : Nat}

/-! ## Opening -/

theorem openFile_eq (h : fs.reach path = .ok target) : fs.openFile path =
    match fs.entry? target.place with
    | none => .error .notFound
    | some (.directory _) => .error .isDirectory
    | some (.symlink _) => .error .tooManyLinks
    | some (.file number) => if target.slashed then .error .notDirectory else .ok number := by
  simp only [openFile, h]
  rfl

theorem openFile_eq_error {errno : Errno} (h : fs.reach path = .error errno) :
    fs.openFile path = .error errno := by
  simp [openFile, h, bind, Except.bind]

theorem openFile_eq_ok_iff : fs.openFile path = .ok number ↔ ∃ target,
    fs.reach path = .ok target ∧ target.slashed = false ∧
      fs.entry? target.place = some (.file number) := by
  cases hreached : fs.reach path with
  | error errno => simp [openFile_eq_error hreached]
  | ok target =>
    rw [openFile_eq hreached]
    constructor
    · intro h
      split at h
      case h_1 => cases h
      case h_2 => cases h
      case h_3 => cases h
      case h_4 hentry =>
        split at h
        case isTrue => cases h
        case isFalse hunslashed =>
          cases h
          exact ⟨target, rfl, by simpa using hunslashed, hentry⟩
    · rintro ⟨_, hsame, hunslashed, hentry⟩
      cases hsame
      simp [hentry, hunslashed]

/-! ## Creating -/

/-- The bytes of a file are gone; its permission bits stay. -/
def emptied (file : FileData) : FileData := { file with content := [] }

/-- A new file at a place. -/
def withFile (fs : FileSystem) (place : Place) (mode : Nat) : FileSystem :=
  { fs with files := fs.files ++ [({ content := [], mode := fs.granted mode } : FileData)] }.link place
    (.file fs.files.length)

/-- What it takes to create a file: the number of the file and the file system with it. -/
inductive Creates (fs : FileSystem) (path : String) (mode : Nat) : Nat → FileSystem → Prop
  /-- The file was there and is emptied. -/
  | reopened (target : Target) (number : Nat) (reached : fs.reach path = .ok target)
      (unslashed : target.slashed = false) (named : target.named = true)
      (entry : fs.entry? target.place = some (.file number)) :
      Creates fs path mode number (fs.modifyFile number emptied)
  /-- A new file has the permission bits that are granted. -/
  | anew (target : Target) (reached : fs.reach path = .ok target)
      (unslashed : target.slashed = false) (named : target.named = true)
      (entry : fs.entry? target.place = none) :
      Creates fs path mode fs.files.length (fs.withFile target.place mode)

theorem creates_of_create (h : fs.create path mode = .ok (number, later)) :
    Creates fs path mode number later := by
  unfold create at h
  obtain ⟨target, hreached, h⟩ := bind_eq_ok_iff.1 h
  obtain ⟨hproper, h⟩ := guard_eq_ok_iff.1 h
  have hproper : target.slashed = false ∧ target.named = true := by simpa using hproper
  match hentry : fs.entry? target.place with
  | none =>
    simp [hentry] at h
    obtain ⟨rfl, rfl⟩ := h
    exact .anew target hreached hproper.1 hproper.2 hentry
  | some (.directory _) => simp [hentry] at h
  | some (.symlink _) => simp [hentry] at h
  | some (.file old) =>
    simp [hentry] at h
    obtain ⟨rfl, rfl⟩ := h
    exact .reopened target old hreached hproper.1 hproper.2 hentry

/-! ## Renaming -/

/-- What it takes to rename a file or a symbolic link. -/
inductive Renames (fs : FileSystem) (source path : String) : FileSystem → Prop
  /-- Both paths led to one file. -/
  | none (old new : Target) (number : Nat) (sourceResolved : fs.resolve source = .ok old)
      (resolved : fs.resolve path = .ok new) (unslashed : new.slashed = false)
      (oldEntry : fs.entry? old.place = some (.file number))
      (newEntry : fs.entry? new.place = some (.file number)) :
      Renames fs source path fs
  /-- The entry gets the new place, and nothing is left at the old one. -/
  | moved (old new : Target) (entry : Entry) (sourceResolved : fs.resolve source = .ok old)
      (resolved : fs.resolve path = .ok new) (unslashed : new.slashed = false)
      (named : new.named = true)
      (oldEntry : fs.entry? old.place = some entry) (movable : ¬ fs.HasDirectory old.place)
      (free : ¬ fs.HasDirectory new.place) :
      Renames fs source path ((fs.unlink old.place).link new.place entry)

theorem not_hasDirectory_of_entry {place : Place} {entry : Entry} (h : fs.entry? place = some entry)
    (hother : ∀ mode, entry ≠ .directory mode) : ¬ fs.HasDirectory place := by
  rintro ⟨mode, hdirectory⟩
  rw [h] at hdirectory
  exact hother mode (Option.some.inj hdirectory)

theorem not_hasDirectory_of_file {place : Place} (h : fs.entry? place = some (.file number)) :
    ¬ fs.HasDirectory place := not_hasDirectory_of_entry h (by simp)

theorem not_hasDirectory_of_none {place : Place} (h : fs.entry? place = none) :
    ¬ fs.HasDirectory place := by
  rintro ⟨mode, hdirectory⟩
  simp [h] at hdirectory

theorem renames_of_rename (h : fs.rename source path = .ok later) : Renames fs source path later := by
  unfold rename at h
  obtain ⟨old, hsourceResolved, h⟩ := bind_eq_ok_iff.1 h
  obtain ⟨new, hresolved, h⟩ := bind_eq_ok_iff.1 h
  obtain ⟨hproper, h⟩ := guard_eq_ok_iff.1 h
  have hproper : old.named = true ∧ new.named = true := by simpa using hproper
  split at h
  case h_1 => simp at h
  case h_2 => simp at h
  case h_3 entry holdEntry hother =>
    have hmovable : ¬ fs.HasDirectory old.place := by
      apply not_hasDirectory_of_entry hother
      rintro mode rfl
      exact holdEntry mode rfl
    obtain ⟨hunslashed, h⟩ := guard_eq_ok_iff.1 h
    have hunslashed : old.slashed = false ∧ new.slashed = false := by simpa using hunslashed
    split at h
    case h_1 => simp at h
    case h_2 other hnewEntry =>
      have hfree := not_hasDirectory_of_file hnewEntry
      by_cases hsame : entry = .file other
      · simp [hsame] at h
        subst h hsame
        exact .none old new other hsourceResolved hresolved hunslashed.2 hother hnewEntry
      · simp [hsame] at h
        subst h
        exact .moved old new entry hsourceResolved hresolved hunslashed.2 hproper.2 hother hmovable
          hfree
    case h_3 hnoDirectory _ =>
      simp at h
      subst h
      refine .moved old new entry hsourceResolved hresolved hunslashed.2 hproper.2 hother hmovable ?_
      rintro ⟨mode, hdirectory⟩
      exact hnoDirectory mode hdirectory

theorem Renames.files_eq (h : Renames fs source path later) : later.files = fs.files := by
  cases h <;> rfl

theorem Renames.resolves (h : Renames fs source path later) : ∃ new, fs.resolve path = .ok new := by
  cases h with
  | none old new number hsourceResolved hresolved => exact ⟨new, hresolved⟩
  | moved old new entry hsourceResolved hresolved => exact ⟨new, hresolved⟩

/-- Whatever a place leads to after a renaming, it led to before, or the old path did. -/
theorem Renames.entry_cases (h : Renames fs source path later) {place : Place} {entry : Entry}
    (hentry : later.entry? place = some entry) :
    fs.entry? place = some entry ∨
      ∃ old, fs.resolve source = .ok old ∧ fs.entry? old.place = some entry := by
  cases h with
  | none => exact .inl hentry
  | moved old new other hsourceResolved hresolved hunslashed hnamed holdEntry =>
    rw [entry?_link] at hentry
    split at hentry
    case isTrue =>
      cases hentry
      exact .inr ⟨old, hsourceResolved, holdEntry⟩
    case isFalse =>
      rw [entry?_unlink] at hentry
      split at hentry
      · cases hentry
      · exact .inl hentry

/-! ## Permissions, removal, directories -/

/-- What it takes to set permission bits. -/
inductive Restricts (fs : FileSystem) (path : String) (mode : Nat) : FileSystem → Prop
  | file (target : Target) (number : Nat) (reached : fs.reach path = .ok target)
      (unslashed : target.slashed = false) (entry : fs.entry? target.place = some (.file number)) :
      Restricts fs path mode (fs.modifyFile number fun file => { file with mode })
  | directory (target : Target) (reached : fs.reach path = .ok target)
      (entry : fs.HasDirectory target.place) :
      Restricts fs path mode (fs.link target.place (.directory mode))

theorem restricts_of_setMode (h : fs.setMode path mode = .ok later) :
    Restricts fs path mode later := by
  unfold setMode at h
  obtain ⟨target, hreached, h⟩ := bind_eq_ok_iff.1 h
  match hentry : fs.entry? target.place with
  | none => simp [hentry] at h
  | some (.directory old) =>
    simp [hentry] at h
    subst h
    exact .directory target hreached ⟨old, hentry⟩
  | some (.symlink _) => simp [hentry] at h
  | some (.file number) =>
    simp only [hentry] at h
    obtain ⟨hunslashed, h⟩ := guard_eq_ok_iff.1 h
    cases h
    exact .file target number hreached (by simpa using hunslashed) hentry

theorem setMode_of_openFile (h : fs.openFile path = .ok number) :
    fs.setMode path mode = .ok (fs.modifyFile number fun file => { file with mode }) := by
  obtain ⟨target, hreached, hunslashed, hentry⟩ := openFile_eq_ok_iff.1 h
  simp [setMode, hreached, hentry, hunslashed, bind, Except.bind, pure, Except.pure]

theorem remove_eq_ok_iff : fs.remove path = .ok later ↔ ∃ target entry,
    fs.resolve path = .ok target ∧ target.slashed = false ∧
      fs.entry? target.place = some entry ∧ ¬ fs.HasDirectory target.place ∧
      later = fs.unlink target.place := by
  constructor
  · intro h
    unfold remove at h
    obtain ⟨target, hresolved, h⟩ := bind_eq_ok_iff.1 h
    split at h
    case h_1 => simp at h
    case h_2 => simp at h
    case h_3 entry hother hentry =>
      by_cases hslashed : target.slashed = true
      · simp [hslashed] at h
      · simp [hslashed] at h
        refine ⟨target, entry, hresolved, by simpa using hslashed, hentry, ?_, h.symm⟩
        apply not_hasDirectory_of_entry hentry
        rintro mode rfl
        exact hother mode rfl
  · rintro ⟨target, entry, hresolved, hunslashed, hentry, hfree, rfl⟩
    cases entry with
    | directory mode => exact absurd ⟨mode, hentry⟩ hfree
    | file | symlink =>
      simp [remove, hresolved, hunslashed, hentry, bind, Except.bind, pure, Except.pure]

theorem makeDirectory_eq_ok_iff : fs.makeDirectory path = .ok later ↔ ∃ target,
    fs.resolve path = .ok target ∧ fs.entry? target.place = none ∧
      later = fs.link target.place (.directory (fs.granted 0o777)) := by
  constructor
  · intro h
    unfold makeDirectory at h
    obtain ⟨target, hresolved, h⟩ := bind_eq_ok_iff.1 h
    match hentry : fs.entry? target.place with
    | some _ => simp [hentry] at h
    | none =>
      simp [hentry] at h
      exact ⟨target, hresolved, hentry, h.symm⟩
  · rintro ⟨target, hresolved, hentry, rfl⟩
    simp [makeDirectory, hresolved, hentry, bind, Except.bind, pure, Except.pure]

/-! ## Directories and symbolic links that stay -/

/-- A symbolic link at the place of a path leads to no directory. -/
def Sealed (fs : FileSystem) (path : String) : Prop :=
  ∀ target body, fs.resolve path = .ok target → fs.entry? target.place = some (.symlink body) →
    fs.Barren target.place body

/-- No symbolic link is at the place of a path. -/
def Direct (fs : FileSystem) (path : String) : Prop :=
  ∀ target body, fs.resolve path = .ok target → fs.entry? target.place ≠ some (.symlink body)

theorem Direct.sealed (h : fs.Direct path) : fs.Sealed path :=
  fun target body hresolved hentry => absurd hentry (h target body hresolved)

theorem direct_of_entry {entry : Entry} (hresolved : fs.resolve path = .ok target)
    (hentry : fs.entry? target.place = some entry) (hother : ∀ body, entry ≠ .symlink body) :
    fs.Direct path := by
  intro target' body hresolved' hlinked
  rw [hresolved] at hresolved'
  cases hresolved'
  exact hother body (Option.some.inj (hentry.symm.trans hlinked))

theorem hasDirectory_link_directory (place : Place) {other : Place}
    (h : fs.HasDirectory other ∨ other = place) :
    (fs.link place (.directory mode)).HasDirectory other := by
  rw [HasDirectory, entry?_link]
  split
  · exact ⟨mode, rfl⟩
  · rcases h with h | hsame
    · exact h
    · contradiction

theorem hasDirectory_link {place other : Place} {entry : Entry} (hfree : ¬ fs.HasDirectory place)
    (h : fs.HasDirectory other) : (fs.link place entry).HasDirectory other := by
  have hapart : other ≠ place := by
    rintro rfl
    exact hfree h
  rw [HasDirectory, entry?_link, if_neg hapart]
  exact h

theorem hasDirectory_unlink {place other : Place} (hfree : ¬ fs.HasDirectory place)
    (h : fs.HasDirectory other) : (fs.unlink place).HasDirectory other := by
  have hapart : other ≠ place := by
    rintro rfl
    exact hfree h
  rw [HasDirectory, entry?_unlink, if_neg hapart]
  exact h

/-- Paths lead on when a place that led nowhere, or to a directory, becomes a directory. -/
theorem onward_link_directory {place : Place}
    (h : fs.entry? place = none ∨ fs.HasDirectory place) (mode : Nat) :
    Onward fs (fs.link place (.directory mode)) := by
  refine ⟨rfl, fun _ h => hasDirectory_link_directory place (.inl h), fun other body hentry => ?_⟩
  have hapart : other ≠ place := by
    rintro rfl
    rcases h with hmissing | ⟨mode, hdirectory⟩
    · cases hmissing.symm.trans hentry
    · cases hdirectory.symm.trans hentry
  rw [entry?_link, if_neg hapart]
  exact .inl hentry

/-- Paths lead on when a file is put where nothing was. -/
theorem onward_withFile {place : Place} (hmissing : fs.entry? place = none) (mode : Nat) :
    Onward fs (fs.withFile place mode) := by
  have hentry {other : Place} (hoccupied : fs.entry? other ≠ none) :
      FileSystem.entry? (fs.withFile place mode) other = fs.entry? other := by
    have hapart : other ≠ place := by
      rintro rfl
      exact hoccupied hmissing
    rw [withFile, entry?_link, if_neg hapart]
    rfl
  refine ⟨rfl, fun other h => ?_, fun other body h => .inl ?_⟩
  · obtain ⟨old, h⟩ := h
    exact ⟨old, (hentry (by simp [h])).trans h⟩
  · exact (hentry (by simp [h])).trans h

theorem onward_modifyFile (fs : FileSystem) (number : Nat) (f : FileData → FileData) :
    Onward fs (fs.modifyFile number f) := ⟨rfl, fun _ h => h, fun _ _ h => .inl h⟩

theorem Creates.onward (h : Creates fs path mode number later) : Onward fs later := by
  cases h with
  | reopened target number => exact onward_modifyFile fs number emptied
  | anew target hreached hunslashed hnamed hentry => exact onward_withFile hentry mode

/-- Paths lead on when neither of two renamed paths takes a way to a directory with it. -/
theorem Renames.onward (h : Renames fs source path later) (hsource : fs.Sealed source)
    (htarget : fs.Sealed path) : Onward fs later := by
  cases h with
  | none => exact .refl fs
  | moved old new entry hsourceResolved hresolved hunslashed hnamed holdEntry hmovable hfree =>
    have hfree' : ¬ (fs.unlink old.place).HasDirectory new.place := by
      rintro ⟨mode, hentry⟩
      rw [entry?_unlink] at hentry
      split at hentry
      · cases hentry
      · exact hfree ⟨mode, hentry⟩
    refine ⟨rfl, fun _ h => hasDirectory_link hfree' (hasDirectory_unlink hmovable h), ?_⟩
    intro place body hentry
    by_cases hatOld : place = old.place
    · subst hatOld
      exact .inr (hsource old body hsourceResolved hentry)
    · by_cases hatNew : place = new.place
      · subst hatNew
        exact .inr (htarget new body hresolved hentry)
      · left
        rw [entry?_link, if_neg hatNew, entry?_unlink, if_neg hatOld, hentry]

theorem Restricts.onward (h : Restricts fs path mode later) : Onward fs later := by
  cases h with
  | file target number => exact onward_modifyFile fs number _
  | directory target hreached hentry => exact onward_link_directory (.inr hentry) mode

theorem onward_of_remove (h : fs.remove path = .ok later) (hsealed : fs.Sealed path) :
    Onward fs later := by
  obtain ⟨target, entry, hresolved, -, hentry, hfree, rfl⟩ := remove_eq_ok_iff.1 h
  refine ⟨rfl, fun _ h => hasDirectory_unlink hfree h, fun place body hlinked => ?_⟩
  by_cases hsame : place = target.place
  · subst hsame
    exact .inr (hsealed target body hresolved hlinked)
  · left
    rw [entry?_unlink, if_neg hsame, hlinked]

theorem onward_of_makeDirectory (h : fs.makeDirectory path = .ok later) : Onward fs later := by
  obtain ⟨target, hresolved, hentry, rfl⟩ := makeDirectory_eq_ok_iff.1 h
  exact onward_link_directory (.inl hentry) _

/-! ## Trees and files that stay -/

/-- A tree stays one when something other than a directory is put into a directory, in the place of
no directory. -/
theorem IsTree.link_entry (htree : IsTree fs) {directory : Place} {name : String} {entry : Entry}
    (hinside : fs.HasDirectory directory) (hfree : ¬ fs.HasDirectory (directory ++ [name]))
    (hbounded : ∀ number, entry = .file number → number < fs.files.length)
    (hlone : ∀ place number, entry = .file number → fs.entry? place = some (.file number) →
      place = directory ++ [name]) :
    (fs.link (directory ++ [name]) entry).IsTree := by
  constructor
  · exact hasDirectory_link hfree htree.root
  · exact hasDirectory_link hfree htree.current
  · intro place other hoccupied
    apply hasDirectory_link hfree
    rw [entry?_link] at hoccupied
    split at hoccupied
    case isTrue hsame =>
      obtain ⟨rfl, -⟩ := List.append_inj' hsame rfl
      exact hinside
    case isFalse => exact htree.closed place other hoccupied
  · intro place found hentry
    rw [entry?_link] at hentry
    split at hentry
    case isTrue => exact hbounded found (Option.some.inj hentry)
    case isFalse => exact htree.numbered place found hentry
  · intro place other found hentry hentry'
    rw [entry?_link] at hentry hentry'
    split at hentry
    case isTrue hsame =>
      split at hentry'
      case isTrue hsame' => rw [hsame, hsame']
      case isFalse => rw [hsame, hlone other found (Option.some.inj hentry) hentry']
    case isFalse =>
      split at hentry'
      case isTrue hsame' => rw [hsame', hlone place found (Option.some.inj hentry') hentry]
      case isFalse => exact htree.unshared place other found hentry hentry'

/-- A tree stays one when a directory is made in a directory, or takes the place of another. -/
theorem IsTree.link_directory (htree : IsTree fs) {place : Place}
    (hinside : fs.HasDirectory place ∨ ∃ directory name, place = directory ++ [name] ∧
      fs.HasDirectory directory) :
    (fs.link place (.directory mode)).IsTree := by
  constructor
  · exact hasDirectory_link_directory place (.inl htree.root)
  · exact hasDirectory_link_directory place (.inl htree.current)
  · intro other name hoccupied
    apply hasDirectory_link_directory place
    rw [entry?_link] at hoccupied
    split at hoccupied
    case isTrue hsame =>
      left
      rcases hinside with hold | ⟨directory, last, rfl, hold⟩
      · obtain ⟨mode, hentry⟩ := hold
        apply htree.closed other name
        rw [hsame, hentry]
        simp
      · obtain ⟨rfl, -⟩ := List.append_inj' hsame rfl
        exact hold
    case isFalse => exact .inl (htree.closed other name hoccupied)
  · intro other number hentry
    rw [entry?_link] at hentry
    split at hentry
    case isTrue => cases hentry
    case isFalse => exact htree.numbered other number hentry
  · intro first second number hentry hentry'
    rw [entry?_link] at hentry hentry'
    split at hentry
    case isTrue => cases hentry
    case isFalse =>
      split at hentry'
      case isTrue => cases hentry'
      case isFalse => exact htree.unshared first second number hentry hentry'

/-- A tree stays one when what is no directory is taken away. -/
theorem IsTree.unlink (htree : IsTree fs) {place : Place} (hfree : ¬ fs.HasDirectory place) :
    (fs.unlink place).IsTree := by
  have hkept {other : Place} {entry : Entry} (h : entry? (fs.unlink place) other = some entry) :
      fs.entry? other = some entry := by
    rw [entry?_unlink] at h
    split at h
    · cases h
    · exact h
  constructor
  · exact hasDirectory_unlink hfree htree.root
  · exact hasDirectory_unlink hfree htree.current
  · intro other name hoccupied
    apply hasDirectory_unlink hfree
    obtain ⟨entry, hfound⟩ := Option.ne_none_iff_exists'.1 hoccupied
    exact htree.closed other name (by simp [hkept hfound])
  · intro other number hentry
    exact htree.numbered other number (hkept hentry)
  · intro first second number hentry hentry'
    exact htree.unshared first second number (hkept hentry) (hkept hentry')

theorem IsTree.modifyFile (htree : IsTree fs) (number : Nat) (f : FileData → FileData) :
    (fs.modifyFile number f).IsTree := by
  constructor
  · exact htree.root
  · exact htree.current
  · exact htree.closed
  · intro place found hentry
    have := htree.numbered place found hentry
    simpa [FileSystem.modifyFile] using this
  · exact htree.unshared

/-- Trees stay trees, and no file is forgotten. -/
structure Continues (fs later : FileSystem) : Prop where
  tree : fs.IsTree → later.IsTree
  files : fs.files.length ≤ later.files.length

theorem Continues.refl (fs : FileSystem) : Continues fs fs := ⟨id, Nat.le_refl _⟩

theorem Continues.trans {middle : FileSystem} (h₁ : Continues fs middle)
    (h₂ : Continues middle later) : Continues fs later :=
  ⟨h₂.tree ∘ h₁.tree, Nat.le_trans h₁.files h₂.files⟩

theorem continues_modifyFile (fs : FileSystem) (number : Nat) (f : FileData → FileData) :
    Continues fs (fs.modifyFile number f) :=
  ⟨fun htree => htree.modifyFile number f, by simp [modifyFile]⟩

theorem continues_write (fs : FileSystem) (number : Nat) (bytes : List UInt8) :
    Continues fs (fs.write number bytes) := continues_modifyFile fs number _

theorem Creates.continues (h : Creates fs path mode number later) : Continues fs later := by
  cases h with
  | reopened target number hreached hunslashed hnamed hentry =>
    exact continues_modifyFile fs number emptied
  | anew target hreached hunslashed hnamed hentry =>
    let added : FileSystem :=
      { fs with files := fs.files ++ [({ content := [], mode := fs.granted mode } : FileData)] }
    have hfree : ¬ added.HasDirectory target.place := not_hasDirectory_of_none hentry
    constructor
    · intro htree
      obtain ⟨directory, name, hplaced, hinside⟩ := htree.locate_named hreached hnamed
      have hgrown : added.IsTree := by
        refine ⟨htree.root, htree.current, htree.closed, ?_, htree.unshared⟩
        intro place number hentry
        have := htree.numbered place number hentry
        simp only [added, List.length_append, List.length_singleton]
        omega
      rw [hplaced] at hfree
      rw [withFile, hplaced]
      refine hgrown.link_entry hinside hfree ?_ ?_
      · rintro number ⟨rfl⟩
        simp [added]
      · rintro place number ⟨rfl⟩ hentry
        exact absurd (htree.numbered place _ hentry) (Nat.lt_irrefl _)
    · simp [withFile]

theorem Renames.continues (h : Renames fs source path later) : Continues fs later := by
  cases h with
  | none => exact .refl fs
  | moved old new entry hsourceResolved hresolved hunslashed hnamed holdEntry hmovable hfree =>
    have hfree' : ¬ (fs.unlink old.place).HasDirectory new.place := by
      rintro ⟨mode, hentry⟩
      rw [entry?_unlink] at hentry
      split at hentry
      · cases hentry
      · exact hfree ⟨mode, hentry⟩
    constructor
    · intro htree
      obtain ⟨directory, name, hplaced, hinside, -⟩ := htree.resolve_named hresolved hnamed
      have hgone := htree.unlink hmovable
      rw [hplaced] at hfree' ⊢
      refine hgone.link_entry (hasDirectory_unlink hmovable hinside) hfree' ?_ ?_
      · rintro number rfl
        exact htree.numbered old.place number holdEntry
      · rintro place number rfl hentry
        rw [entry?_unlink] at hentry
        split at hentry
        case isTrue => cases hentry
        case isFalse hapart =>
          exact absurd (htree.unshared place old.place number hentry holdEntry) hapart
    · exact Nat.le_refl _

theorem Restricts.continues (h : Restricts fs path mode later) : Continues fs later := by
  cases h with
  | file target number => exact continues_modifyFile fs number _
  | directory target hreached hentry =>
    exact ⟨fun htree => htree.link_directory (.inl hentry), Nat.le_refl _⟩

theorem continues_of_remove (h : fs.remove path = .ok later) : Continues fs later := by
  obtain ⟨target, entry, -, -, -, hfree, rfl⟩ := remove_eq_ok_iff.1 h
  exact ⟨fun htree => htree.unlink hfree, Nat.le_refl _⟩

/-- In a tree a path that leads to no entry ends in a name. -/
theorem IsTree.named_of_missing (htree : fs.IsTree) {followed : Bool}
    (h : fs.locate followed path = .ok target) (hmissing : fs.entry? target.place = none) :
    target.named = true := by
  by_contra hunnamed
  have := htree.locate_unnamed h (by simpa using hunnamed)
  exact absurd this (not_hasDirectory_of_none hmissing)

theorem continues_of_makeDirectory (h : fs.makeDirectory path = .ok later) : Continues fs later := by
  obtain ⟨target, hresolved, hentry, rfl⟩ := makeDirectory_eq_ok_iff.1 h
  constructor
  · intro htree
    have hnamed := htree.named_of_missing hresolved hentry
    obtain ⟨directory, name, hplaced, hinside, -⟩ := htree.resolve_named hresolved hnamed
    exact htree.link_directory (.inr ⟨directory, name, hplaced, hinside⟩)
  · exact Nat.le_refl _

/-! ## What is found afterwards -/

/-- A path whose place leads to a file leads to that file. -/
theorem openFile_of_resolve (h : fs.resolve path = .ok target) (hunslashed : target.slashed = false)
    (hentry : fs.entry? target.place = some (.file number)) : fs.openFile path = .ok number :=
  openFile_eq_ok_iff.2 ⟨target, reach_of_resolve h (by simp [hentry]), hunslashed, hentry⟩

/-- The place of a path that is no symbolic link leads to the file that the path leads to. -/
theorem Direct.resolve_of_openFile (hdirect : fs.Direct path) (h : fs.openFile path = .ok number) :
    ∃ target, fs.resolve path = .ok target ∧ target.slashed = false ∧
      fs.entry? target.place = some (.file number) := by
  obtain ⟨target, hreached, hunslashed, hentry⟩ := openFile_eq_ok_iff.1 h
  obtain ⟨own, hresolved⟩ := resolve_of_reach hreached
  have hsame := resolve_eq_of_reach hreached hresolved fun body => hdirect own body hresolved
  exact ⟨target, hsame ▸ hresolved, hunslashed, hentry⟩

/-- What a path leads to does not depend on what files are like. -/
theorem reach_modifyFile (other : Nat) (f : FileData → FileData) (h : fs.reach path = .ok target)
    (hentry : ∀ body, fs.entry? target.place ≠ some (.symlink body)) :
    (fs.modifyFile other f).reach path = .ok target := by
  obtain ⟨hadmitted, hseek⟩ := locate_eq_ok_iff.1 h
  have honward := onward_modifyFile fs other f
  refine locate_eq_ok_iff.2 ⟨hadmitted, ?_⟩
  rw [honward.origin_eq]
  exact seek_of_kept honward.directories (fun _ _ h => h) (fun _ => hentry) hseek

theorem openFile_modifyFile (other : Nat) (f : FileData → FileData)
    (hopened : fs.openFile path = .ok number) : (fs.modifyFile other f).openFile path = .ok number := by
  obtain ⟨target, hreached, hunslashed, hentry⟩ := openFile_eq_ok_iff.1 hopened
  have hreached' := reach_modifyFile other f hreached (by simp [hentry])
  exact openFile_eq_ok_iff.2 ⟨target, hreached', hunslashed, hentry⟩

/-- After a renaming the file that was at the old path is at the new one. -/
theorem Renames.openFile (h : Renames fs source path later) {old : Target}
    (hsource : fs.resolve source = .ok old) (hentry : fs.entry? old.place = some (.file number))
    (hsealed : fs.Sealed path) : later.openFile path = .ok number := by
  have honward := h.onward (direct_of_entry hsource hentry (by simp)).sealed hsealed
  cases h with
  | none old' new other hsourceResolved hresolved hunslashed holdEntry hnewEntry =>
    rw [hsource] at hsourceResolved
    cases hsourceResolved
    cases hentry.symm.trans holdEntry
    exact openFile_of_resolve hresolved hunslashed hnewEntry
  | moved old' new entry hsourceResolved hresolved hunslashed hnamed holdEntry =>
    rw [hsource] at hsourceResolved
    cases hsourceResolved
    cases hentry.symm.trans holdEntry
    apply openFile_of_resolve (resolve_of_onward honward hresolved) hunslashed
    rw [entry?_link, if_pos rfl]

/-- Permission bits are set on the file that the path leads to. -/
theorem Restricts.eq_of_openFile (h : Restricts fs path mode later)
    (hopened : fs.openFile path = .ok number) :
    later = fs.modifyFile number fun file => { file with mode } := by
  obtain ⟨target, hfound, -, hentry⟩ := openFile_eq_ok_iff.1 hopened
  cases h with
  | file target' number' hreached hunslashed hentry' =>
    rw [hreached] at hfound
    cases hfound
    rw [hentry'] at hentry
    cases hentry
    rfl
  | directory target' hreached hdirectory =>
    rw [hreached] at hfound
    cases hfound
    exact absurd hdirectory (not_hasDirectory_of_file hentry)

/-- Permission bits are set on what is there. -/
theorem Restricts.openFile_ne_notFound (h : Restricts fs path mode later) :
    fs.openFile path ≠ .error .notFound := by
  cases h with
  | file target number hreached hunslashed hentry =>
    simp [openFile_eq hreached, hentry, hunslashed]
  | directory target hreached hdirectory =>
    obtain ⟨mode, hentry⟩ := hdirectory
    simp [openFile_eq hreached, hentry]

end InstanceIdentity.FileSystem
