import InstanceIdentity.Proofs.Store.Operations

/-!
# Making the directories above a path

The directories that are missing above a path are made one by one, and what was made before a refusal
stays.  A path that led somewhere leads to the same entry afterwards, since none of them is missing, and
a path without steps upwards and without overlong names that led nowhere still leads to no entry.

Main results:

- Structure `FileSystem.Grown`: nothing but directories above a path has been added.
- Theorem `FileSystem.openFile_of_makeDirectory`: a directory above a steady path does not change what
  the path leads to.
- Theorems `FileSystem.prepared_makeDirectories`, `FileSystem.prepared_makeAbove`: making directories is
  growth.
-/

namespace InstanceIdentity.FileSystem

variable {fs later : FileSystem} {path above : String} {target : Target}

/-- Nothing but directories above a path has been added. -/
structure Grown (path : String) (fs later : FileSystem) : Prop where
  files : later.files = fs.files
  current : later.current = fs.current
  entries : ∀ place, later.entry? place = fs.entry? place ∨
    fs.entry? place = none ∧ later.HasDirectory place ∧
      ∃ above target, Path.Holds above path ∧ later.resolve above = .ok target ∧
        target.place = place

theorem Grown.refl (path : String) (fs : FileSystem) : Grown path fs fs :=
  ⟨rfl, rfl, fun _ => .inl rfl⟩

theorem Grown.onward (hgrown : Grown path fs later) : Onward fs later := by
  have hkept {place : Place} {entry : Entry} (hentry : fs.entry? place = some entry) :
      later.entry? place = some entry := by
    rcases hgrown.entries place with hsame | ⟨hmissing, -⟩
    · exact hsame.trans hentry
    · cases hmissing.symm.trans hentry
  exact ⟨hgrown.current, fun place ⟨mode, hentry⟩ => ⟨mode, hkept hentry⟩,
    fun place body hentry => .inl (hkept hentry)⟩

theorem Grown.trans {middle : FileSystem} (h₁ : Grown path fs middle)
    (h₂ : Grown path middle later) : Grown path fs later := by
  refine ⟨h₂.files.trans h₁.files, h₂.current.trans h₁.current, fun place => ?_⟩
  rcases h₂.entries place with hsame | ⟨hmissing, hmade, hreached⟩
  · rcases h₁.entries place with hsame' | ⟨hmissing, hmade, above, target, hholds, hresolved, hplaced⟩
    · exact .inl (hsame.trans hsame')
    · right
      refine ⟨hmissing, h₂.onward.directories place hmade, above, target, hholds, ?_, hplaced⟩
      exact resolve_of_onward h₂.onward hresolved
  · rcases h₁.entries place with hsame | ⟨hmissing', -⟩
    · exact .inr ⟨hsame ▸ hmissing, hmade, hreached⟩
    · exact .inr ⟨hmissing', hmade, hreached⟩

/-! ## Paths that hold another -/

theorem Admitted.of_holds (hholds : Path.Holds above path) (h : Admitted path) : Admitted above := by
  obtain ⟨rest, htext⟩ := hholds.front
  refine ⟨?_, hholds.nonempty, ?_⟩
  · intro hzero
    apply h.1
    rw [← htext]
    exact List.mem_append_left rest hzero
  · have hwhole : path = above ++ String.ofList rest := by
      rw [← String.toList_inj, String.toList_append, String.toList_ofList, htext]
    have hsize : path.utf8ByteSize = above.utf8ByteSize + (String.ofList rest).utf8ByteSize := by
      rw [hwhole, String.utf8ByteSize_append]
    have := h.2.2
    omega

/-- What holds a path that leads somewhere is there. -/
theorem IsTree.resolve_of_holds (htree : fs.IsTree) (hholds : Path.Holds above path)
    (h : fs.resolve path = .ok target) :
    ∃ target, fs.resolve above = .ok target ∧ fs.entry? target.place ≠ none := by
  obtain ⟨hadmitted, count, directory, hfew, hleads, -⟩ := resolve_eq_ok_iff.1 h
  obtain ⟨rest, hnames, name, hlisted, -⟩ := hholds.names
  have hoccupied {place : Place} (hdirectory : fs.HasDirectory place) : fs.entry? place ≠ none := by
    obtain ⟨mode, hentry⟩ := hdirectory
    simp [hentry]
  have horigin : fs.origin path = fs.origin above := by
    rw [FileSystem.origin, FileSystem.origin, FileSystem.startOf, FileSystem.startOf,
      hholds.isRooted_eq]
  rw [hnames, List.dropLast_append_of_ne_nil (List.ne_nil_of_mem hlisted), horigin] at hleads
  obtain ⟨first, more, middle, hcount, hleads, -⟩ := hleads.split
  rw [← names_eq (Path.names above)] at hleads
  obtain ⟨first', more', directory, hcount', hleads, hended⟩ := hleads.split
  have hinside := htree.hasDirectory_of_leads (htree.origin above) hleads
  have hresolved {target : Target} (harrives : Arrives above directory target) :
      fs.resolve above = .ok target :=
    resolve_eq_ok_iff.2 ⟨hadmitted.of_holds hholds, first', directory, by omega, hleads, harrives⟩
  cases hlast : (Path.names above).getLast? with
  | none =>
    refine ⟨_, hresolved (.same fun name hlast' => ?_), hoccupied hinside⟩
    simp [hlast] at hlast'
  | some name =>
    rw [hlast, Option.toList_some] at hended
    cases hended with
    | stay =>
      refine ⟨_, hresolved (.same fun name hlast' => ?_), hoccupied hinside⟩
      rw [hlast] at hlast'
      exact (Option.some.inj hlast').symm
    | up => exact ⟨_, hresolved (.above hlast), hoccupied (htree.hasDirectory_dropLast hinside)⟩
    | down hproper hdirectory => exact ⟨_, hresolved (.named name hlast hproper), hoccupied hdirectory⟩
    | link hproper hentry => exact ⟨_, hresolved (.named name hlast hproper), by simp [hentry]⟩

/-! ## Paths that go down only -/

/-- No name of a path leads upwards or is too long. -/
def Plain (path : String) : Prop :=
  ∀ name ∈ Path.names path, name ≠ ".." ∧ name.utf8ByteSize ≤ longestName

/-- A path that leads somewhere, or goes down only. -/
def Steady (fs : FileSystem) (path : String) : Prop :=
  (∃ target, fs.resolve path = .ok target) ∨ Plain path

theorem Steady.of_onward (hsteady : fs.Steady path) (honward : Onward fs later) :
    later.Steady path := by
  rcases hsteady with ⟨target, hresolved⟩ | hplain
  · exact .inl ⟨target, resolve_of_onward honward hresolved⟩
  · exact .inr hplain

/-- Below a place that leads nowhere, nothing leads anywhere. -/
theorem IsTree.entry?_append (htree : fs.IsTree) {place : Place} (hmissing : fs.entry? place = none)
    (names : List String) : fs.entry? (place ++ names) = none := by
  induction names generalizing place with
  | nil => simpa using hmissing
  | cons name names ih =>
    have hnext : fs.entry? (place ++ [name]) = none := by
      by_cases hoccupied : fs.entry? (place ++ [name]) = none
      · exact hoccupied
      · obtain ⟨mode, hentry⟩ := htree.closed place name hoccupied
        rw [hmissing] at hentry
        cases hentry
    simpa using ih hnext

/-- In a directory in which there is nothing, names that go down lead to no entry. -/
theorem seek_of_void {here : Place} (hvoid : ∀ names, names ≠ [] → fs.entry? (here ++ names) = none)
    {names : List String} (hplain : ∀ name ∈ names, name ≠ ".." ∧ name.utf8ByteSize ≤ longestName)
    (hsome : ∃ name ∈ names, Path.isName name = true) (links : Nat) (slashed : Bool) :
    fs.seek true links slashed here names = .error .notFound ∨
      ∃ target, fs.seek true links slashed here names = .ok target ∧
        fs.entry? target.place = none := by
  induction names with
  | nil => simp at hsome
  | cons name names ih =>
    by_cases hhere : name = "."
    · subst hhere
      rw [seek_stay]
      refine ih (fun other hlisted => hplain other (List.mem_cons_of_mem _ hlisted)) ?_
      obtain ⟨other, hlisted, hproper⟩ := hsome
      rcases List.mem_cons.1 hlisted with rfl | hlisted
      · exact absurd hproper (by decide)
      · exact ⟨other, hlisted, hproper⟩
    · have hproper : Proper name :=
        ⟨hhere, (hplain name List.mem_cons_self).1, (hplain name List.mem_cons_self).2⟩
      have hmissing : fs.entry? (here ++ [name]) = none := hvoid [name] (List.cons_ne_nil _ _)
      by_cases hmore : names = []
      · subst hmore
        right
        exact ⟨_, (Seeks.last links slashed here hproper (by simp [hmissing])).seek_eq, hmissing⟩
      · left
        exact (Seeks.missing links slashed here hproper hmissing hmore).seek_eq

/-- A path that would lead through a missing directory leads nowhere. -/
theorem openFile_through (hadmitted : Admitted path) {count : Nat} {directory : Place} {name : String}
    {before rest : List String} (hfew : count ≤ mostLinks)
    (hnames : Path.names path = before ++ name :: rest)
    (hleads : fs.Leads (fs.origin path) before count directory) (hproper : Proper name)
    (hmore : rest ≠ []) :
    (fs.entry? (directory ++ [name]) = none → fs.openFile path = .error .notFound) ∧
    (fs.HasDirectory (directory ++ [name]) →
      (∀ names, names ≠ [] → fs.entry? (directory ++ [name] ++ names) = none) →
      (∀ name ∈ rest, name ≠ ".." ∧ name.utf8ByteSize ≤ longestName) →
      (∃ name ∈ rest, Path.isName name = true) → fs.openFile path = .error .notFound) := by
  obtain ⟨left, hlinks⟩ := Nat.exists_eq_add_of_le hfew
  have hreach : fs.reach path =
      fs.seek true left (Path.isSlashed path) directory (name :: rest) := by
    rcases locate_eq path with ⟨-, hfollowed⟩ | ⟨hrefused, -⟩
    · rw [reach, hfollowed, hnames, hlinks, hleads.seek_eq (List.cons_ne_nil _ _)]
    · exact absurd hadmitted hrefused
  constructor
  · intro hmissing
    rw [(Seeks.missing left _ directory hproper hmissing hmore).seek_eq] at hreach
    exact openFile_eq_error hreach
  · intro hdirectory hvoid hplain hsome
    rw [(Seeks.down hproper hdirectory hmore (fs.seeks_seek true left _ _ rest)).seek_eq] at hreach
    rcases seek_of_void hvoid hplain hsome left (Path.isSlashed path) with herror | ⟨target, hok, hmissing⟩
    · exact openFile_eq_error (hreach.trans herror)
    · rw [openFile_eq (hreach.trans hok), hmissing]

/-- A directory that is made above a steady path does not change what the path leads to. -/
theorem openFile_of_makeDirectory (htree : fs.IsTree) (hsteady : fs.Steady path)
    (hholds : Path.Holds above path) (h : fs.makeDirectory above = .ok later) :
    later.openFile path = fs.openFile path := by
  have honward := onward_of_makeDirectory h
  obtain ⟨target, hresolved, hmissing, rfl⟩ := makeDirectory_eq_ok_iff.1 h
  rcases hsteady with ⟨target', hresolved'⟩ | hplain
  · -- all that is above the path is there already
    obtain ⟨there, hfound, hoccupied⟩ := htree.resolve_of_holds hholds hresolved'
    rw [hresolved] at hfound
    cases hfound
    exact absurd hmissing hoccupied
  · rcases locate_eq path with ⟨hadmitted, -⟩ | ⟨-, errno, hrefused⟩
    · have hnamed := htree.named_of_missing hresolved hmissing
      obtain ⟨-, count, directory, hfew, hleads, harrives⟩ := resolve_eq_ok_iff.1 hresolved
      obtain ⟨rest, hnames, hsome⟩ := hholds.names
      have hmore : rest ≠ [] := by
        obtain ⟨name, hlisted, -⟩ := hsome
        exact List.ne_nil_of_mem hlisted
      have horigin : fs.origin above = fs.origin path := by
        rw [FileSystem.origin, FileSystem.origin, startOf, startOf, hholds.isRooted_eq]
      cases harrives with
      | same | above => cases hnamed
      | named name hlast hproper =>
        rw [← names_eq (Path.names above), hlast, Option.toList_some, List.append_assoc] at hnames
        rw [horigin] at hleads
        have hbefore := openFile_through hadmitted hfew hnames hleads hproper hmore
        have hleads' := hleads.of_onward honward
        rw [← honward.origin_eq path] at hleads'
        have hafter := openFile_through hadmitted hfew hnames hleads' hproper hmore
        rw [hbefore.1 hmissing]
        refine hafter.2 (hasDirectory_link_directory _ (.inr rfl)) ?_ ?_ hsome
        · intro names hnonempty
          rw [entry?_link, if_neg (by simpa using hnonempty)]
          exact htree.entry?_append hmissing names
        · intro other hlisted
          apply hplain other
          rw [hnames]
          exact List.mem_append_right _ (List.mem_cons_of_mem _ hlisted)
    · rw [openFile_eq_error (hrefused _ true), openFile_eq_error (hrefused _ true)]

/-! ## Making directories -/

/-- A directory that is there in the end was made, or nothing was. -/
theorem ensureDirectory_eq_ok (h : fs.ensureDirectory path = .ok later) :
    fs.makeDirectory path = .ok later ∨ later = fs := by
  unfold ensureDirectory at h
  split at h
  case h_1 made hdone =>
    cases h
    exact .inl hdone
  case h_2 =>
    split at h
    · cases h
      exact .inr rfl
    · cases h

/-- What was so before directories are made, and stays so when one of them is, is so afterwards. -/
theorem makeDirectoriesWithin_induction {motive : FileSystem → Prop}
    (hmade : ∀ fs later above, (above = path ∨ Path.Holds above path) → motive fs →
      fs.makeDirectory above = .ok later → motive later)
    (steps : Nat) (h : motive fs) : motive (fs.makeDirectoriesWithin steps path).1 := by
  have hensured {fs later : FileSystem} {above : String} (hamong : above = path ∨ Path.Holds above path)
      (h : motive fs) (hdone : fs.ensureDirectory above = .ok later) : motive later := by
    rcases ensureDirectory_eq_ok hdone with hok | rfl
    · exact hmade fs later above hamong h hok
    · exact h
  have hmain (steps : Nat) {below : String} (hamong : below = path ∨ Path.Holds below path)
      {fs : FileSystem} (h : motive fs) : motive (fs.makeDirectoriesWithin steps below).1 := by
    induction steps generalizing below fs with
    | zero => exact h
    | succ steps ih =>
      unfold makeDirectoriesWithin
      by_cases hempty : below = ""
      · rw [if_pos hempty]
        exact h
      · rw [if_neg hempty]
        split
        case h_1 hdone => exact hensured hamong h hdone
        case h_2 =>
          split
          case h_1 => exact h
          case h_2 top hparent =>
            have hreached : motive (fs.makeDirectoriesWithin steps top).1 := by
              by_cases hnothing : top = ""
              · subst hnothing
                cases steps with
                | zero => exact h
                | succ steps => exact h
              · have hholds := Path.parent_holds hparent hnothing
                apply ih _ h
                right
                rcases hamong with rfl | hholds'
                · exact hholds
                · exact hholds.trans hholds'
            split
            case h_1 hrefused =>
              rw [hrefused] at hreached
              exact hreached
            case h_2 made haccepted =>
              rw [haccepted] at hreached
              split
              case h_1 hdone => exact hensured hamong hreached hdone
              case h_2 => exact hreached
        case h_3 => exact h
  exact hmain steps (.inl rfl) h

/-- Making a directory above a path is growth. -/
theorem grown_of_makeDirectory (hholds : Path.Holds above path)
    (h : fs.makeDirectory above = .ok later) : Grown path fs later := by
  have honward := onward_of_makeDirectory h
  obtain ⟨target, hresolved, hmissing, rfl⟩ := makeDirectory_eq_ok_iff.1 h
  refine ⟨rfl, rfl, fun place => ?_⟩
  rw [entry?_link]
  by_cases hsame : place = target.place
  · right
    subst hsame
    refine ⟨hmissing, hasDirectory_link_directory _ (.inr rfl), above, target, hholds, ?_, rfl⟩
    exact resolve_of_onward honward hresolved
  · left
    rw [if_neg hsame]

/-- A file system after directories above a path have been made. -/
structure Prepared (path : String) (fs later : FileSystem) : Prop where
  grown : Grown path fs later
  continues : Continues fs later
  /-- A steady path leads to the same file, or for the same reason to none. -/
  opens : fs.IsTree → fs.Steady path → later.openFile path = fs.openFile path

theorem Prepared.refl (path : String) (fs : FileSystem) : Prepared path fs fs :=
  ⟨.refl path fs, .refl fs, fun _ _ => rfl⟩

theorem Prepared.onward (hprepared : Prepared path fs later) : Onward fs later :=
  hprepared.grown.onward

/-- One more directory is made. -/
theorem Prepared.makeDirectory {middle : FileSystem} (hprepared : Prepared path fs middle)
    (hholds : Path.Holds above path) (h : middle.makeDirectory above = .ok later) :
    Prepared path fs later := by
  constructor
  · exact hprepared.grown.trans (grown_of_makeDirectory hholds h)
  · exact hprepared.continues.trans (continues_of_makeDirectory h)
  · intro htree hsteady
    have hsteady' := hsteady.of_onward hprepared.onward
    rw [openFile_of_makeDirectory (hprepared.continues.tree htree) hsteady' hholds h]
    exact hprepared.opens htree hsteady

theorem prepared_makeDirectories (hholds : Path.Holds above path) :
    Prepared path fs (fs.makeDirectories above).1 := by
  apply makeDirectoriesWithin_induction (motive := Prepared path fs)
  · intro middle later top hamong hbefore hmade
    rcases hamong with rfl | hholds'
    · exact hbefore.makeDirectory hholds hmade
    · exact hbefore.makeDirectory (hholds'.trans hholds) hmade
  · exact .refl path fs

theorem makeAbove_empty (levels : Nat) : fs.makeAbove levels "" = fs := by
  cases levels with
  | zero => rfl
  | succ levels =>
    have hnone : Path.parent? "" = none := by decide
    simp [makeAbove, hnone]

theorem prepared_makeAbove (hholds : Path.Holds above path) (levels : Nat) :
    Prepared path fs (fs.makeAbove levels above) := by
  induction levels generalizing above with
  | zero => exact prepared_makeDirectories hholds
  | succ levels ih =>
    unfold makeAbove
    split
    case h_1 => exact .refl path fs
    case h_2 top hparent =>
      by_cases hnothing : top = ""
      · rw [hnothing, makeAbove_empty]
        exact .refl path fs
      · exact ih ((Path.parent_holds hparent hnothing).trans hholds)

end InstanceIdentity.FileSystem
