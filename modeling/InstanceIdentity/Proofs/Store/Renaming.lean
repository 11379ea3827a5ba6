import InstanceIdentity.Proofs.Store.Operations

/-!
# What a renamed symbolic link leads to

A symbolic link that is renamed within its directory leads to what it led to, or to itself.  A path that
leads somewhere after another path has been renamed to it therefore leads to the file that the other
path led to, whatever symbolic links there are.

Main results:

- Theorem `FileSystem.seek_unique`: where names lead does not depend on how many symbolic links may be
  followed.
- Theorem `FileSystem.Renames.entry_of_reach`: what is found at the new path is the file that was found
  at the old one.
-/

namespace InstanceIdentity.FileSystem

variable {fs later : FileSystem} {followed slashed slashed' : Bool} {links links' count : Nat}
  {here there : Place} {names : List String} {target target' : Target}

/-- Where names lead does not depend on how many symbolic links may be followed. -/
theorem seek_unique (h : fs.seek followed links slashed here names = .ok target)
    (h' : fs.seek followed links' slashed' here names = .ok target') :
    target.place = target'.place ∧ target.named = target'.named := by
  rw [seek_eq_iff] at h
  generalize hended : (Except.ok target : Except Errno Target) = outcome at h
  induction h generalizing links' slashed' with
  | ended =>
    cases hended
    rw [seek_nil] at h'
    cases h'
    exact ⟨rfl, rfl⟩
  | stay _ ih =>
    rw [seek_stay] at h'
    exact ih h' hended
  | up _ ih =>
    rw [seek_up] at h'
    exact ih h' hended
  | last links slashed here hproper hstops =>
    cases hended
    rw [(Seeks.last links' slashed' here hproper hstops).seek_eq] at h'
    cases h'
    exact ⟨rfl, rfl⟩
  | down hproper hdirectory hmore _ ih =>
    rw [(Seeks.down hproper hdirectory hmore (fs.seeks_seek followed links' slashed' _ _)).seek_eq] at h'
    exact ih h' hended
  | link hproper hentry hgoes _ ih =>
    cases links' with
    | zero =>
      rw [(Seeks.tired slashed' _ hproper hentry hgoes).seek_eq] at h'
      cases h'
    | succ links' =>
      rw [(Seeks.link hproper hentry hgoes (fs.seeks_seek followed links' _ _ _)).seek_eq] at h'
      exact ih h' hended
  | tooLong | missing | blocked | tired => cases hended

/-- Names that can be followed with others after them end in a directory. -/
theorem Leads.hasDirectory_of_seek (hleads : fs.Leads here names count there)
    (h : fs.seek true links slashed here names = .ok target) (hnamed : target.named = true) :
    fs.HasDirectory target.place := by
  induction hleads generalizing links slashed with
  | here =>
    rw [seek_nil] at h
    cases h
    cases hnamed
  | stay _ ih =>
    rw [seek_stay] at h
    exact ih h
  | up _ ih =>
    rw [seek_up] at h
    exact ih h
  | @down here there name names count hproper hdirectory _ ih =>
    by_cases hmore : names = []
    · obtain ⟨mode, hentry⟩ := hdirectory
      subst hmore
      rw [(Seeks.last links slashed here hproper (by simp [hentry])).seek_eq] at h
      cases h
      exact ⟨mode, hentry⟩
    · rw [(Seeks.down hproper hdirectory hmore (fs.seeks_seek true links slashed _ _)).seek_eq] at h
      exact ih h
  | link hproper hentry _ ih =>
    cases links with
    | zero =>
      rw [(Seeks.tired slashed _ hproper hentry (.inl rfl)).seek_eq] at h
      cases h
    | succ links =>
      rw [(Seeks.link hproper hentry (.inl rfl) (fs.seeks_seek true links _ _ _)).seek_eq] at h
      exact ih h

/-! ## A link at a new place -/

/-- An entry has been moved from one place to another in the same directory; it led to a file. -/
structure Moved (fs later : FileSystem) (old new : Place) (entry : Entry) (number : Nat) : Prop where
  entries : ∀ place, later.entry? place =
    if place = new then some entry else if place = old then none else fs.entry? place
  apart : old ≠ new
  /-- A symbolic link led to the file from the directory of both. -/
  led : entry = .file number ∨ ∃ body links slashed final, entry = .symlink body ∧
    fs.seek true links slashed (startOf new.dropLast body) (Path.names body) = .ok final ∧
    final.named = true ∧ fs.entry? final.place = some (.file number)

variable {old new : Place} {entry : Entry} {number : Nat}

/-- What is there without the new place is there with it. -/
theorem entry?_of_hollow {place : Place} {found : Entry}
    (hentry : entry? (fs.unlink new) place = some found) : fs.entry? place = some found := by
  rw [entry?_unlink] at hentry
  split at hentry
  · cases hentry
  · exact hentry

theorem links_hollow (fs : FileSystem) (new place : Place) (body : String)
    (hentry : entry? (fs.unlink new) place = some (.symlink body)) :
    fs.entry? place = some (.symlink body) := entry?_of_hollow hentry

/-- Without what is at the new place, paths lead where they lead with it. -/
theorem onward_hollow (fs : FileSystem) (new : Place) : Onward (fs.unlink new) fs :=
  ⟨rfl, fun _ ⟨mode, hentry⟩ => ⟨mode, entry?_of_hollow hentry⟩,
    fun place body hentry => .inl (links_hollow fs new place body hentry)⟩

/-- Nothing is left at the old place. -/
theorem Moved.ne_old (hmoved : Moved fs later old new entry number) {place : Place}
    (hoccupied : later.entry? place ≠ none) : place ≠ old := by
  rintro rfl
  exact hoccupied (by rw [hmoved.entries, if_neg hmoved.apart, if_pos rfl])

theorem Moved.entry_new (hmoved : Moved fs later old new entry number) :
    later.entry? new = some entry := by
  rw [hmoved.entries, if_pos rfl]

theorem Moved.entry_other (hmoved : Moved fs later old new entry number) {place : Place}
    (hoccupied : later.entry? place ≠ none) (hnotNew : place ≠ new) :
    later.entry? place = fs.entry? place := by
  rw [hmoved.entries, if_neg hnotNew, if_neg (hmoved.ne_old hoccupied)]

/-- What follows a symbolic link that has been moved is nothing, and the link leads to the file. -/
theorem Moved.entry_of_jump {body : String} (hmoved : Moved fs later old new (.symlink body) number)
    (hhere : here = new.dropLast)
    (hlater : later.seek true links slashed (startOf here body) (Path.names body ++ names) =
      .ok target)
    (hoccupied : later.entry? target.place ≠ none)
    (h : FileSystem.seek (fs.unlink new) true links slashed (startOf here body)
      (Path.names body ++ names) = .ok target) :
    later.entry? target.place = some (.file number) := by
  subst hhere
  obtain ⟨final, ⟨links', slashed', hled⟩, hnamed, hfile⟩ : ∃ final, (∃ links slashed,
      fs.seek true links slashed (startOf new.dropLast body) (Path.names body) = .ok final) ∧
      final.named = true ∧ fs.entry? final.place = some (.file number) := by
    rcases hmoved.led with hfile | ⟨body', links, slashed, final, hsame, hled, hrest⟩
    · cases hfile
    · cases hsame
      exact ⟨final, ⟨links, slashed, hled⟩, hrest⟩
  by_cases hnothing : names = []
  · rw [hnothing, List.append_nil] at h hlater
    have hkept (hnamed : target.named = true) :
        later.entry? target.place = fs.entry? target.place := by
      apply hmoved.entry_other hoccupied
      intro hatNew
      have hlinked := hmoved.entry_new
      rw [← hatNew] at hlinked
      exact entry?_of_seek hlater hnamed body hlinked
    have hend (hnamed : target.named = true) (body : String) :
        fs.entry? target.place ≠ some (.symlink body) := by
      rw [← hkept hnamed]
      exact entry?_of_seek hlater hnamed body
    have hbefore := seek_of_kept (onward_hollow fs new).directories (links_hollow fs new) hend h
    obtain ⟨hplaces, hnames⟩ := seek_unique hbefore hled
    rw [hkept (hnames.trans hnamed), hplaces, hfile]
  · obtain ⟨count, -, middle, -, hleads, -⟩ := exists_leads_of_seek h hnothing
    have hdirectory := (hleads.of_onward (onward_hollow fs new)).hasDirectory_of_seek hled hnamed
    exact absurd hdirectory (not_hasDirectory_of_file hfile)

/-- Names that lead somewhere after the move do so without what is at the new place, or they lead to the
file. -/
theorem Moved.seek_cases (hmoved : Moved fs later old new entry number)
    (h : later.seek true links slashed here names = .ok target)
    (hoccupied : later.entry? target.place ≠ none) :
    FileSystem.seek (fs.unlink new) true links slashed here names = .ok target ∨
      later.entry? target.place = some (.file number) := by
  rw [seek_eq_iff] at h
  generalize hended : (Except.ok target : Except Errno Target) = outcome at h
  have hothers {place : Place} (hthere : later.entry? place ≠ none) (hnotNew : place ≠ new) :
      entry? (fs.unlink new) place = later.entry? place := by
    rw [entry?_unlink, if_neg hnotNew, hmoved.entry_other hthere hnotNew]
  have hnew := hmoved.entry_new
  induction h with
  | ended => exact .inl seek_nil
  | stay _ ih =>
    rw [seek_stay]
    exact ih hended
  | up _ ih =>
    rw [seek_up]
    exact ih hended
  | @last name links slashed here hproper hstops =>
    cases hended
    by_cases hatNew : here ++ [name] = new
    · right
      rw [hatNew] at hstops ⊢
      rcases hmoved.led with rfl | ⟨body, -, -, -, rfl, -⟩
      · exact hnew
      · exact absurd hnew (hstops rfl body)
    · left
      refine (Seeks.last links slashed here hproper ?_).seek_eq
      rwa [hothers hoccupied hatNew]
  | @down links slashed here name names outcome hproper hdirectory hmore hfurther ih =>
    obtain ⟨mode, hentry⟩ := hdirectory
    have hnotNew : here ++ [name] ≠ new := by
      intro hatNew
      rw [hatNew, hnew] at hentry
      rcases hmoved.led with rfl | ⟨body, -, -, -, rfl, -⟩ <;> cases hentry
    have hsame := hothers (by simp [hentry]) hnotNew
    refine (ih hended).imp_left fun hseek => ?_
    exact (Seeks.down hproper ⟨mode, hsame.trans hentry⟩ hmore (seek_eq_iff.1 hseek)).seek_eq
  | @link links slashed here name names body outcome hproper hentry hgoes hfurther ih =>
    by_cases hatNew : here ++ [name] = new
    · right
      subst hatNew hended
      obtain rfl : entry = .symlink body := Option.some.inj (hnew.symm.trans hentry)
      rcases ih rfl with hseek | hfile
      · exact hmoved.entry_of_jump List.dropLast_concat.symm hfurther.seek_eq hoccupied hseek
      · exact hfile
    · have hsame := hothers (by simp [hentry]) hatNew
      refine (ih hended).imp_left fun hseek => ?_
      exact (Seeks.link hproper (hsame.trans hentry) hgoes (seek_eq_iff.1 hseek)).seek_eq
  | tooLong | missing | blocked | tired => cases hended

/-! ## Renaming within a directory -/

variable {path source : String}

/-- A path that ends at a symbolic link leads where the names in its body lead. -/
theorem seek_of_reach_symlink {own final : Target} {body : String} (h : fs.reach path = .ok final)
    (hresolved : fs.resolve path = .ok own) (hnamed : own.named = true)
    (hentry : fs.entry? own.place = some (.symlink body)) :
    ∃ links slashed, fs.seek true links slashed (startOf own.place.dropLast body)
      (Path.names body) = .ok final := by
  obtain ⟨-, hseek⟩ := locate_eq_ok_iff.1 h
  obtain ⟨-, count, directory, -, hleads, harrives⟩ := resolve_eq_ok_iff.1 hresolved
  cases harrives with
  | same | above => cases hnamed
  | named name hlast hproper =>
    rw [← names_eq (Path.names path), hlast, Option.toList_some] at hseek
    obtain ⟨count', left, middle, -, hleads', hseek⟩ :=
      exists_leads_of_seek hseek (List.cons_ne_nil _ _)
    obtain rfl := hleads.unique hleads'
    rw [seek_eq_iff] at hseek
    cases hseek with
    | last _ _ _ _ hstops => exact absurd hentry (hstops rfl body)
    | down _ _ hmore => exact absurd rfl hmore
    | stay => exact absurd rfl hproper.notHere
    | up => exact absurd rfl hproper.notUp
    | link _ hentry' _ hfurther =>
      cases hentry.symm.trans hentry'
      rw [List.append_nil] at hfurther
      have hdirectory : (directory ++ [name]).dropLast = directory := List.dropLast_concat
      exact ⟨_, _, hdirectory ▸ hfurther.seek_eq⟩

/-- A path that leads somewhere without what is at its place ends there. -/
theorem eq_of_seek_hollow {own new : Target} {links : Nat}
    (hresolved : fs.resolve path = .ok new) (hnamed : new.named = true)
    (h : FileSystem.seek (fs.unlink new.place) true links (Path.isSlashed path) (fs.origin path)
      (Path.names path) = .ok own) : own = new := by
  obtain ⟨-, count, directory, -, hleads, harrives⟩ := resolve_eq_ok_iff.1 hresolved
  cases harrives with
  | same | above => cases hnamed
  | named name hlast hproper =>
    rw [← names_eq (Path.names path), hlast, Option.toList_some] at h
    obtain ⟨count', left, middle, -, hleads', hseek⟩ := exists_leads_of_seek h (List.cons_ne_nil _ _)
    obtain rfl := hleads.unique (hleads'.of_onward (onward_hollow fs _))
    have hmissing : entry? (fs.unlink (directory ++ [name])) (directory ++ [name]) = none := by
      rw [entry?_unlink, if_pos rfl]
    rw [(Seeks.last left (Path.isSlashed path) directory hproper (by simp [hmissing])).seek_eq] at hseek
    exact (Except.ok.inj hseek).symm

/-- What is found at a path to which another in the same directory has been renamed is the file that was
found at the other. -/
theorem Renames.entry_of_reach {final own : Target} {found : Entry}
    (hrenames : Renames fs source path later) (hled : fs.reach source = .ok final)
    (hnamed : final.named = true) (hfile : fs.entry? final.place = some (.file number))
    (hbeside : ∀ old new, fs.resolve source = .ok old → fs.resolve path = .ok new →
      new.named = true →
        old.named = true ∧ old.place ≠ new.place ∧ old.place.dropLast = new.place.dropLast)
    (h : later.reach path = .ok own) (hoccupied : later.entry? own.place = some found) :
    found = .file number := by
  apply Option.some.inj
  rw [← hoccupied]
  cases hrenames with
  | none old new other hsourceResolved hresolved hunslashed holdEntry hnewEntry =>
    obtain rfl := resolve_eq_of_reach hled hsourceResolved (by simp [holdEntry])
    obtain rfl := resolve_eq_of_reach h hresolved (by simp [hnewEntry])
    rw [hnewEntry, ← holdEntry, hfile]
  | moved old new entry hsourceResolved hresolved hunslashed hnamedNew holdEntry hmovable hfree =>
    obtain ⟨hnamedOld, hapart, hsameDirectory⟩ := hbeside old new hsourceResolved hresolved hnamedNew
    have hmoved : Moved fs ((fs.unlink old.place).link new.place entry) old.place new.place entry
        number := by
      refine ⟨fun place => ?_, hapart, ?_⟩
      · rw [entry?_link, entry?_unlink]
      · match entry with
        | .directory mode => exact absurd ⟨mode, holdEntry⟩ hmovable
        | .file other =>
          obtain rfl := resolve_eq_of_reach hled hsourceResolved (by simp [holdEntry])
          exact .inl (Option.some.inj (holdEntry.symm.trans hfile))
        | .symlink body =>
          obtain ⟨links, slashed, hseek⟩ :=
            seek_of_reach_symlink hled hsourceResolved hnamedOld holdEntry
          rw [hsameDirectory] at hseek
          exact .inr ⟨body, links, slashed, final, rfl, hseek, hnamed, hfile⟩
    obtain ⟨-, hseek⟩ := locate_eq_ok_iff.1 h
    rcases hmoved.seek_cases hseek (by simp [hoccupied]) with hhollow | hdone
    · obtain rfl := eq_of_seek_hollow hresolved hnamedNew hhollow
      have hthere := hmoved.entry_new
      rcases hmoved.led with rfl | ⟨body, -, -, -, rfl, -⟩
      · exact hthere
      · exact absurd hthere (entry?_of_seek hseek hnamedNew body)
    · exact hdone

end InstanceIdentity.FileSystem
