import InstanceIdentity.Proofs.Store.Replacement

/-!
# What others see of a save

An operation of one save, taken by itself in a file system in which others work too, either makes
directories, works on the temporary sibling of its process, replaces the cache file by a whole content,
or sets permission bits.  None of these disturbs what the cache file holds, or what another process has
in its own sibling.

Main results:

- Definition `FileStore.Effect`: the four effects; Theorem `FileStore.Moves.effect`: an operation has
  one of them.
- Theorem `FileStore.Effect.holding`: what another process has in its sibling stays there.
- Theorem `FileStore.Effect.shown`: what there is to be read stays good.
- Theorem `FileStore.Effect.settled`: a content that has been in place is never written to again.
- Theorems `FileStore.Effect.onward`, `FileStore.Effect.links`: directories stay, and no symbolic link is
  made.
-/

namespace InstanceIdentity.FileStore

open FileSystem (Target Confined IsTree)

variable {store other : FileStore} {token : CachedToken} {interference : Interference}
  {fs later : FileSystem} {stage next : Stage} {target : Target} {number : Nat}
  {content : List UInt8}

/-! ## Effects of single operations -/

/-- A file with a certain content. -/
def HasContent (fs : FileSystem) (number : Nat) (content : List UInt8) : Prop :=
  ∃ data : FileData, fs.files[number]? = some data ∧ data.content = content

theorem HasContent.contentOf_eq (h : HasContent fs number content) :
    fs.contentOf number = content := by
  obtain ⟨data, hfound, rfl⟩ := h
  simp [FileSystem.contentOf, hfound]

/-- In a tree a path does not lead to a file that is not there. -/
theorem hasContent_of_openFile {path : String} (htree : fs.IsTree)
    (hopened : fs.openFile path = .ok number) : HasContent fs number (fs.contentOf number) := by
  obtain ⟨target, -, -, hentry⟩ := FileSystem.openFile_eq_ok_iff.1 hopened
  have hfound := List.getElem?_eq_getElem (htree.numbered target.place number hentry)
  exact ⟨_, hfound, by simp [FileSystem.contentOf, hfound]⟩

/-- The temporary sibling of a process is a file with a certain content. -/
def Holding (store : FileStore) (fs : FileSystem) (number : Nat) (content : List UInt8) : Prop :=
  fs.openFile store.temporary = .ok number ∧ HasContent fs number content

/-- What a save relies on when it has come to a stage: its sibling is what it has made of it. -/
def Ready (store : FileStore) (token : CachedToken) (fs : FileSystem) : Stage → Prop
  | .write number => store.Holding fs number []
  | .sync number => store.Holding fs number (payload token)
  | .rename => ∃ number, store.Holding fs number (payload token)
  | _ => True

theorem Filling.holding {made : FileSystem} (htree : made.IsTree)
    (hfilling : store.Filling made fs target number content) : store.Holding fs number content := by
  obtain ⟨data, hfound⟩ : ∃ data, fs.files[number]? = some data :=
    ⟨_, List.getElem?_eq_getElem (hfilling.numbered htree.numbered)⟩
  exact ⟨hfilling.openFile, data, hfound, hfilling.content data hfound⟩

/-- A sibling that is already there counts as filled in place. -/
theorem Holding.filling (htree : fs.IsTree) (hholding : store.Holding fs number content) :
    ∃ target, store.Filling fs fs target number content := by
  obtain ⟨hopened, data, hfound, hcontents⟩ := hholding
  obtain ⟨target, hreached, hunslashed, hentry⟩ := FileSystem.openFile_eq_ok_iff.1 hopened
  have hnamed : target.named = true := by
    by_contra hunnamed
    have hdirectory := htree.locate_unnamed hreached (by simpa using hunnamed)
    exact FileSystem.not_hasDirectory_of_file hentry hdirectory
  refine ⟨target, .refl fs, .refl fs, hreached, hunslashed, hnamed, hentry, .inl hentry,
    fun _ _ => rfl, fun _ _ => rfl, ?_, ?_, ?_⟩
  · intro data' hfound'
    rw [hfound] at hfound'
    cases hfound'
    exact hcontents
  · intro data' hfound'
    exact .inl ⟨hopened, data', hfound', rfl⟩
  · intro hnumbered
    exact hnumbered target.place number hentry

/-- Only the temporary sibling changes, and no file but the one that was or is there. -/
structure Works (store : FileStore) (fs later : FileSystem) (target : Target) : Prop where
  beside : store.Beside fs later target
  files : ∀ number, number < fs.files.length → fs.entry? target.place ≠ some (.file number) →
    later.files[number]? = fs.files[number]?
  fresh : ∀ number, later.entry? target.place = some (.file number) →
    fs.entry? target.place = some (.file number) ∨ number = fs.files.length

/-- What an operation of a save does to the file system. -/
inductive Effect (store : FileStore) (token : CachedToken) (fs later : FileSystem) : Prop
  | directories (prepared : fs.Prepared store.path later)
  | works (target : Target) (works : store.Works fs later target)
  | replaces (target : Target) (number : Nat)
      (filling : store.Filling fs fs target number (payload token))
      (renames : fs.Renames store.temporary store.path later)
  | restricts (restricts : fs.Restricts store.path ownerOnly later)

theorem Filling.works (htree : fs.IsTree) (hclear : store.Clear fs)
    (hfilling : store.Filling fs later target number content) : store.Works fs later target := by
  constructor
  · exact hfilling.beside htree hclear
  · intro other hbounded hapart
    apply hfilling.files
    rintro rfl
    rcases hfilling.before with hbefore | ⟨-, hfresh⟩
    · exact hapart hbefore
    · omega
  · intro other hentry
    rw [hfilling.entry] at hentry
    cases hentry
    rcases hfilling.before with hbefore | ⟨-, hfresh⟩
    · exact .inl hbefore
    · exact .inr hfresh

/-- Bytes that are written to the empty sibling are its content. -/
theorem Holding.write (htree : fs.IsTree) (hholding : store.Holding fs number [])
    (bytes : List UInt8) : ∃ target, store.Filling fs (fs.write number bytes) target number bytes := by
  obtain ⟨target, hfilling⟩ := hholding.filling htree
  exact ⟨target, hfilling.write bytes⟩

theorem works_of_remove (hclear : store.Clear fs) (hremoved : fs.remove store.temporary = .ok later) :
    ∃ target, store.Works fs later target := by
  obtain ⟨target, entry, hresolved, -, -, hfree, hsame⟩ := FileSystem.remove_eq_ok_iff.1 hremoved
  have hgone : later.entry? target.place = none := by
    rw [hsame, FileSystem.entry?_unlink, if_pos rfl]
  refine ⟨target, (beside_refl hclear hresolved hfree).remove hremoved, ?_, ?_⟩
  · intro other _ _
    rw [hsame]
    rfl
  · intro other hentry'
    rw [hgone] at hentry'
    cases hentry'

/-- Every operation of a save whose sibling is what it has made of it has one of the effects, and
leaves the sibling as the next operation needs it. -/
theorem Moves.effect (htree : fs.IsTree) (hclear : store.Clear fs)
    (hready : store.Ready token fs stage)
    (hmove : Moves store token interference fs stage later next) :
    store.Effect token fs later ∧ store.Ready token later next := by
  have hunchanged : store.Effect token fs fs := .directories (.refl _ fs)
  cases hmove with
  | prepared _ hprepared => exact ⟨.directories hprepared, trivial⟩
  | unprepared _ _ hprepared => exact ⟨.directories hprepared, trivial⟩
  | created number _ hcreates =>
    obtain ⟨target, hfilling⟩ := filling_of_creates hcreates
    exact ⟨.works target (hfilling.works htree hclear), hfilling.holding htree⟩
  | uncreated => exact ⟨hunchanged, trivial⟩
  | written number =>
    obtain ⟨target, hfilling⟩ := Holding.write htree hready (payload token)
    exact ⟨.works target (hfilling.works htree hclear), hfilling.holding htree⟩
  | unwritten number bytes =>
    obtain ⟨target, hfilling⟩ := Holding.write htree hready bytes
    exact ⟨.works target (hfilling.works htree hclear), trivial⟩
  | synced number => exact ⟨hunchanged, number, hready⟩
  | unsynced => exact ⟨hunchanged, trivial⟩
  | renamed _ hrenames =>
    obtain ⟨number, hholding⟩ := hready
    obtain ⟨target, hfilling⟩ := hholding.filling htree
    exact ⟨.replaces target number hfilling hrenames, trivial⟩
  | unrenamed => exact ⟨hunchanged, trivial⟩
  | restricted _ hrestricts => exact ⟨.restricts hrestricts, trivial⟩
  | unrestricted => exact ⟨hunchanged, trivial⟩
  | discarded _ _ hremoved =>
    obtain ⟨target, hworks⟩ := works_of_remove hclear hremoved
    exact ⟨.works target hworks, trivial⟩
  | kept => exact ⟨hunchanged, trivial⟩
  | ended => exact ⟨hunchanged, trivial⟩

/-! ## What stays -/

/-- Permission bits are set without touching files, symbolic links or contents. -/
theorem contents_of_restricts (hrestricts : fs.Restricts store.path ownerOnly later) :
    (∀ place entry, (∀ mode, entry ≠ .directory mode) →
      (later.entry? place = some entry ↔ fs.entry? place = some entry)) ∧
    ∀ number content, HasContent fs number content → HasContent later number content := by
  cases hrestricts with
  | file target number hreached hunslashed hentry =>
    refine ⟨fun place entry _ => Iff.rfl, ?_⟩
    rintro other content ⟨data, hfound, hcontents⟩
    by_cases hsame : number = other
    · refine ⟨{ data with mode := ownerOnly }, ?_, hcontents⟩
      rw [FileSystem.files_modifyFile, if_pos hsame, hfound]
      rfl
    · refine ⟨data, ?_, hcontents⟩
      rw [FileSystem.files_modifyFile, if_neg hsame, hfound]
  | directory target hreached hdirectory =>
    refine ⟨fun place entry hother => ?_, fun _ _ hfound => hfound⟩
    rw [FileSystem.entry?_link]
    split
    case isTrue hsame =>
      obtain ⟨mode, hentry⟩ := hdirectory
      rw [hsame, hentry]
      simp [Ne.symm (hother ownerOnly), Ne.symm (hother mode)]
    case isFalse => rfl

/-- Directories stay, whatever a save does. -/
theorem Effect.onward (htree : fs.IsTree) (hapart : Apart store.path fs)
    (heffect : store.Effect token fs later) : FileSystem.Onward fs later := by
  have hclear := hapart.clear htree
  cases heffect with
  | directories hprepared => exact hprepared.onward
  | works target hworks => exact hworks.beside.confined.onward
  | replaces target number hfilling hrenames =>
    exact hrenames.onward hclear.temporary.sealed hclear.path
  | restricts hrestricts => exact hrestricts.onward

/-- A save makes no symbolic link. -/
theorem Effect.links (hclear : store.Clear fs) (heffect : store.Effect token fs later) (place : Place)
    (body : String) (h : later.entry? place = some (.symlink body)) :
    fs.entry? place = some (.symlink body) := by
  cases heffect with
  | directories hprepared =>
    rcases hprepared.grown.entries place with hsame | ⟨-, ⟨mode, hmade⟩, -⟩
    · rw [← hsame, h]
    · cases hmade.symm.trans h
  | works target hworks =>
    have hapart : place ≠ target.place := by
      rintro rfl
      exact hworks.beside.unlinked body h
    rw [← hworks.beside.confined.entries place (by simpa using hapart), h]
  | replaces target number hfilling hrenames =>
    rcases hrenames.entry_cases h with hbefore | ⟨old, hresolved, hmoved⟩
    · exact hbefore
    · exact absurd hmoved (hclear.temporary old body hresolved)
  | restricts hrestricts => exact ((contents_of_restricts hrestricts).1 place _ (by simp)).1 h

/-- A path leads to the same file while its place keeps it. -/
theorem openFile_of_kept {path : String} (honward : FileSystem.Onward fs later)
    (hdirect : fs.Direct path) (hopened : fs.openFile path = .ok number)
    (hkept : ∀ target, fs.resolve path = .ok target → fs.entry? target.place = some (.file number) →
      later.entry? target.place = some (.file number)) : later.openFile path = .ok number := by
  obtain ⟨target, hresolved, hunslashed, hentry⟩ := hdirect.resolve_of_openFile hopened
  exact FileSystem.openFile_of_resolve (FileSystem.resolve_of_onward honward hresolved) hunslashed
    (hkept target hresolved hentry)

/-- A file stays where it is while changes happen at other places. -/
theorem stays_of_confined {path : String} {places : List Place} (hconfined : Confined fs later places)
    (hdirect : fs.Direct path) (hopened : fs.openFile path = .ok number)
    (hfound : HasContent fs number content)
    (hapart : ∀ target, fs.resolve path = .ok target → target.place ∉ places) :
    later.openFile path = .ok number ∧ HasContent later number content := by
  constructor
  · apply openFile_of_kept hconfined.onward hdirect hopened
    intro target hresolved hentry
    rw [hconfined.entries _ (hapart target hresolved), hentry]
  · obtain ⟨target, hresolved, -, hentry⟩ := hdirect.resolve_of_openFile hopened
    obtain ⟨data, hthere, hcontents⟩ := hfound
    exact ⟨data, by rw [hconfined.files _ number (hapart target hresolved) hentry, hthere], hcontents⟩

/-- A file stays where it is while directories are made and permission bits are set. -/
theorem stays_of_files {path : String} (honward : FileSystem.Onward fs later) (hdirect : fs.Direct path)
    (hentries : ∀ place number, fs.entry? place = some (.file number) →
      later.entry? place = some (.file number))
    (hcontents : ∀ number content, HasContent fs number content → HasContent later number content)
    (hopened : fs.openFile path = .ok number) (hfound : HasContent fs number content) :
    later.openFile path = .ok number ∧ HasContent later number content :=
  ⟨openFile_of_kept honward hdirect hopened fun _ _ hentry => hentries _ _ hentry,
    hcontents _ _ hfound⟩

theorem entry?_of_grown {path : String} (hgrown : FileSystem.Grown path fs later) (place : Place)
    (number : Nat) : later.entry? place = some (.file number) ↔
      fs.entry? place = some (.file number) := by
  rcases hgrown.entries place with hsame | ⟨hmissing, ⟨mode, hmade⟩, -⟩
  · rw [hsame]
  · rw [hmissing, hmade]
    simp

theorem hasContent_of_grown {path : String} (hgrown : FileSystem.Grown path fs later) {number : Nat}
    {content : List UInt8} (hfound : HasContent fs number content) :
    HasContent later number content := by
  rw [HasContent, hgrown.files]
  exact hfound

/-- What anyone has in a sibling stays there while directories are made. -/
theorem Holding.of_prepared {path : String} (hclear : other.Clear fs)
    (hholding : other.Holding fs number content) (hprepared : fs.Prepared path later) :
    other.Holding later number content :=
  stays_of_files hprepared.onward hclear.temporary
    (fun place number => (entry?_of_grown hprepared.grown place number).2)
    (fun _ _ => hasContent_of_grown hprepared.grown) hholding.1 hholding.2

/-- What another process has in its sibling stays there. -/
theorem Effect.holding (htree : fs.IsTree) (hapart : Apart store.path fs)
    (heffect : store.Effect token fs later) (hpath : other.path = store.path)
    (hprocess : other.process ≠ store.process) (hholding : other.Holding fs number content) :
    other.Holding later number content := by
  have hclear := hapart.clear htree
  have hclear' : other.Clear fs := Apart.clear htree (hpath ▸ hapart)
  have hbeside {target : Target} (htemporary : fs.resolve store.temporary = .ok target) :
      ∀ place, fs.resolve other.temporary = .ok place → place.place ≠ target.place :=
    fun place hresolved => temporary_place_ne hprocess hresolved htemporary
  cases heffect with
  | directories hprepared => exact hholding.of_prepared hclear' hprepared
  | works target hworks =>
    apply stays_of_confined hworks.beside.confined hclear'.temporary hholding.1 hholding.2
    intro place hresolved
    simpa using hbeside hworks.beside.resolved place hresolved
  | replaces target number' hfilling hrenames =>
    obtain ⟨mode, installed, hinstalled⟩ := hfilling.installed htree hclear hrenames
    apply stays_of_confined hinstalled.confined hclear'.temporary hholding.1 hholding.2
    intro place hresolved
    obtain ⟨new, hnewResolved⟩ := hrenames.resolves
    have hstill := FileSystem.resolve_of_onward hinstalled.confined.onward hnewResolved
    have hsame : new = installed := Except.ok.inj (hstill.symm.trans hinstalled.resolved)
    have hbetween : installed.place ≠ place.place := by
      have hvacant : ¬ fs.HasDirectory place.place := by
        obtain ⟨there, hresolvedThere, -, hentry⟩ :=
          hclear'.temporary.resolve_of_openFile hholding.1
        rw [hresolved] at hresolvedThere
        cases hresolvedThere
        exact FileSystem.not_hasDirectory_of_file hentry
      rw [← hsame]
      exact place_ne htree hclear' hresolved hvacant (hpath ▸ hnewResolved)
    simp [hbeside hinstalled.temporary place hresolved, Ne.symm hbetween]
  | restricts hrestricts =>
    obtain ⟨hentries, hcontents⟩ := contents_of_restricts hrestricts
    exact stays_of_files hrestricts.onward hclear'.temporary
      (fun place number => (hentries place (.file number) (by simp)).2) hcontents hholding.1 hholding.2

/-- What there is to be read: nothing, or a good content. -/
def Shown (path : String) (Good : List UInt8 → Prop) (fs : FileSystem) : Prop :=
  fs.openFile path = .error .notFound ∨
    ∃ number content, fs.openFile path = .ok number ∧ HasContent fs number content ∧ Good content

/-- There is something to be read. -/
def Present (path : String) (fs : FileSystem) : Prop := ∃ number, fs.openFile path = .ok number

theorem Shown.present {path : String} {Good : List UInt8 → Prop} (hshown : Shown path Good fs)
    (hthere : fs.openFile path ≠ .error .notFound) : Present path fs := by
  rcases hshown with hmissing | ⟨number, -, hopened, -⟩
  · exact absurd hmissing hthere
  · exact ⟨number, hopened⟩

/-- What there is to be read stays good, and does not go away. -/
theorem Effect.shown {Good : List UInt8 → Prop} (htree : fs.IsTree) (hapart : Apart store.path fs)
    (hsteady : fs.Steady store.path) (heffect : store.Effect token fs later)
    (hgood : Good (payload token)) (hshown : Shown store.path Good fs) :
    Shown store.path Good later ∧ (Present store.path fs → Present store.path later) := by
  have hclear := hapart.clear htree
  have hdirect := hapart.direct htree
  cases heffect with
  | directories hprepared =>
    have hsame := hprepared.opens htree hsteady
    refine ⟨?_, fun ⟨number, hopened⟩ => ⟨number, hsame.trans hopened⟩⟩
    rcases hshown with hmissing | ⟨number, content, hopened, hfound, hgood⟩
    · exact .inl (hsame.trans hmissing)
    · exact .inr ⟨number, content, hsame.trans hopened, hasContent_of_grown hprepared.grown hfound,
        hgood⟩
  | works target hworks =>
    obtain ⟨hresolved, hconfined, -⟩ := hworks.beside
    have hsame := openFile_path_eq htree hclear hresolved hconfined
    refine ⟨?_, fun ⟨number, hopened⟩ => ⟨number, hsame.trans hopened⟩⟩
    rcases hshown with hmissing | ⟨number, content, hopened, hfound, hgood⟩
    · exact .inl (hsame.trans hmissing)
    · right
      have hstays := stays_of_confined hconfined hdirect hopened hfound fun place hplaced => by
        simpa using place_ne htree hclear hresolved (hconfined.vacant _ (by simp)) hplaced
      exact ⟨number, content, hstays.1, hstays.2, hgood⟩
  | replaces target number hfilling hrenames =>
    obtain ⟨mode, place, hinstalled⟩ := hfilling.installed htree hclear hrenames
    have hopened := hinstalled.openFile
    exact ⟨.inr ⟨number, payload token, hopened, ⟨_, hinstalled.file, rfl⟩, hgood⟩,
      fun _ => ⟨number, hopened⟩⟩
  | restricts hrestricts =>
    obtain ⟨hentries, hcontents⟩ := contents_of_restricts hrestricts
    have hkept {number : Nat} (hopened : fs.openFile store.path = .ok number) :
        later.openFile store.path = .ok number :=
      openFile_of_kept hrestricts.onward hdirect hopened fun place _ =>
        (hentries place.place (.file number) (by simp)).2
    refine ⟨?_, fun ⟨number, hopened⟩ => ⟨number, hkept hopened⟩⟩
    rcases hshown with hmissing | ⟨number, content, hopened, hfound, hgood⟩
    · exact absurd hmissing hrestricts.openFile_ne_notFound
    · exact .inr ⟨number, content, hkept hopened, hcontents _ _ hfound, hgood⟩

/-- A file has its content, and only the path of the cache file leads to it, if anything does. -/
structure Settled (path : String) (fs : FileSystem) (number : Nat) (content : List UInt8) : Prop where
  content : HasContent fs number content
  places : ∀ place, fs.entry? place = some (.file number) →
    ∃ target : Target, fs.resolve path = .ok target ∧ target.place = place

/-- What there is to be read is settled. -/
theorem settled_of_openFile {path : String} (htree : fs.IsTree) (hdirect : fs.Direct path)
    (hopened : fs.openFile path = .ok number) (hfound : HasContent fs number content) :
    Settled path fs number content := by
  obtain ⟨target, hresolved, -, hentry⟩ := hdirect.resolve_of_openFile hopened
  refine ⟨hfound, fun place hentry' => ⟨target, hresolved, ?_⟩⟩
  exact htree.unshared target.place place number hentry hentry'

/-- The temporary sibling is never a settled file. -/
theorem Settled.ne_temporary (hsettled : Settled store.path fs number content) (htree : fs.IsTree)
    (hclear : store.Clear fs) (hresolved : fs.resolve store.temporary = .ok target) :
    fs.entry? target.place ≠ some (.file number) := by
  intro hentry
  obtain ⟨place, hresolved', hplaced⟩ := hsettled.places target.place hentry
  exact place_ne htree hclear hresolved (FileSystem.not_hasDirectory_of_file hentry) hresolved' hplaced

/-- A content that has been in place is never written to again. -/
theorem Effect.settled (htree : fs.IsTree) (hapart : Apart store.path fs)
    (heffect : store.Effect token fs later) (hsettled : Settled store.path fs number content) :
    Settled store.path later number content := by
  have hclear := hapart.clear htree
  have honward := heffect.onward htree hapart
  have hkept {place : Place} (hentry : fs.entry? place = some (.file number)) :
      ∃ target : Target, later.resolve store.path = .ok target ∧ target.place = place := by
    obtain ⟨target, hresolved, hplaced⟩ := hsettled.places place hentry
    exact ⟨target, FileSystem.resolve_of_onward honward hresolved, hplaced⟩
  cases heffect with
  | directories hprepared =>
    refine ⟨hasContent_of_grown hprepared.grown hsettled.content, fun place hentry => ?_⟩
    exact hkept ((entry?_of_grown hprepared.grown place number).1 hentry)
  | works target hworks =>
    have hother := hsettled.ne_temporary htree hclear hworks.beside.resolved
    obtain ⟨data, hfound, hcontents⟩ := hsettled.content
    have hbounded : number < fs.files.length := (List.getElem?_eq_some_iff.1 hfound).1
    refine ⟨⟨data, by rw [hworks.files number hbounded hother, hfound], hcontents⟩, ?_⟩
    intro place hentry
    by_cases hsame : place = target.place
    · subst hsame
      rcases hworks.fresh number hentry with hold | hnew
      · exact absurd hold hother
      · omega
    · rw [hworks.beside.confined.entries place (by simpa using hsame)] at hentry
      exact hkept hentry
  | replaces target number' hfilling hrenames =>
    refine ⟨?_, fun place hentry => ?_⟩
    · rw [HasContent, hrenames.files_eq]
      exact hsettled.content
    · rcases hrenames.entry_cases hentry with hold | ⟨old, hresolved, hmoved⟩
      · exact hkept hold
      · exact absurd hmoved (hsettled.ne_temporary htree hclear hresolved)
  | restricts hrestricts =>
    obtain ⟨hentries, hcontents⟩ := contents_of_restricts hrestricts
    refine ⟨hcontents _ _ hsettled.content, fun place hentry => ?_⟩
    exact hkept ((hentries place (.file number) (by simp)).1 hentry)

end InstanceIdentity.FileStore
