import InstanceIdentity.Proofs.Store.Walks

/-!
# Places and where paths lead

The entries of a file system after each of its elementary changes, what the path of a place and what is
there have to do with each other, and trees: file systems in which everything lies in a directory and
each file has one name.

Main results:

- Theorem `FileSystem.resolve_eq_ok_iff`: a path has a place when its text is admitted, all its names but
  the last lead to a directory over few enough symbolic links, and the last step can be made.
- Theorem `FileSystem.resolve_of_onward`: the place of a path does not change while directories stay.
- Theorems `FileSystem.reach_of_resolve`, `FileSystem.resolve_of_reach`: a path leads to its place unless
  a symbolic link is there, and a path that leads somewhere has a place.
- Structure `FileSystem.IsTree`: what holds of every file system that is reached by operations on trees.
-/

namespace InstanceIdentity.FileSystem

variable {fs later : FileSystem} {path : String} {target : Target}

/-! ## Entries -/

theorem lookup_filter_ne (entries : List (Place × Entry)) (place other : Place) :
    (entries.filter fun e => e.1 != place).lookup other =
      if other = place then none else entries.lookup other := by
  induction entries with
  | nil => simp
  | cons head rest ih =>
    obtain ⟨first, entry⟩ := head
    by_cases hgone : first = place
    · have hdropped : (first != place) = false := by simp [hgone]
      rw [List.filter_cons, if_neg (by simp [hdropped]), ih]
      by_cases hsame : other = place
      · simp [hsame]
      · have : (other == first) = false := by simp [hgone, hsame]
        simp [hsame, List.lookup_cons, this]
    · have hkept : (first != place) = true := by simp [hgone]
      rw [List.filter_cons, if_pos hkept, List.lookup_cons, List.lookup_cons, ih]
      by_cases hfound : other = first
      · simp [hfound, hgone]
      · have : (other == first) = false := by simp [hfound]
        simp [this]

theorem entry?_unlink (fs : FileSystem) (place other : Place) :
    entry? (fs.unlink place) other = if other = place then none else fs.entry? other :=
  lookup_filter_ne fs.entries place other

theorem entry?_link (fs : FileSystem) (place other : Place) (entry : Entry) :
    entry? (fs.link place entry) other = if other = place then some entry else fs.entry? other := by
  show List.lookup other ((place, entry) :: fs.entries.filter fun e => e.1 != place) = _
  rw [List.lookup_cons, lookup_filter_ne]
  by_cases hsame : other = place
  · simp [hsame]
  · have : (other == place) = false := by simp [hsame]
    simp [hsame, this, entry?]

@[simp] theorem files_link (fs : FileSystem) (place : Place) (entry : Entry) :
    (fs.link place entry).files = fs.files := rfl

/-! ## Where paths lead -/

/-- Where the names of a path are followed from. -/
def origin (fs : FileSystem) (path : String) : Place := startOf fs.current path

theorem Onward.origin_eq (honward : Onward fs later) (path : String) :
    later.origin path = fs.origin path := by
  simp [origin, honward.current]

/-- The system accepts the text of a path. -/
def Admitted (path : String) : Prop :=
  '\x00' ∉ path.toList ∧ path ≠ "" ∧ path.utf8ByteSize ≤ longestPath

/-- The names of an admitted path are followed; why others are refused does not depend on the file
system. -/
theorem locate_eq (path : String) :
    (Admitted path ∧ ∀ (fs : FileSystem) (followed : Bool), fs.locate followed path =
      fs.seek followed mostLinks (Path.isSlashed path) (fs.origin path) (Path.names path)) ∨
    (¬ Admitted path ∧ ∃ errno, ∀ (fs : FileSystem) (followed : Bool),
      fs.locate followed path = .error errno) := by
  by_cases hzero : '\x00' ∈ path.toList
  · right
    refine ⟨fun h => h.1 hzero, .zeroInName, fun fs followed => ?_⟩
    simp only [locate, List.contains_iff_mem, hzero, if_true]
    rfl
  · by_cases hempty : path = ""
    · right
      refine ⟨fun h => h.2.1 hempty, .notFound, fun fs followed => ?_⟩
      subst hempty
      rfl
    · by_cases hlong : longestPath < path.utf8ByteSize
      · right
        refine ⟨fun h => Nat.not_lt.2 h.2.2 hlong, .nameTooLong, fun fs followed => ?_⟩
        simp only [locate, List.contains_iff_mem, hzero, hempty, hlong, if_true, if_false]
        rfl
      · left
        refine ⟨⟨hzero, hempty, Nat.not_lt.1 hlong⟩, fun fs followed => ?_⟩
        simp only [locate, List.contains_iff_mem, hzero, hempty, hlong, if_false]
        rfl

theorem locate_eq_ok_iff {followed : Bool} : fs.locate followed path = .ok target ↔ Admitted path ∧
    fs.seek followed mostLinks (Path.isSlashed path) (fs.origin path) (Path.names path) =
      .ok target := by
  rcases locate_eq path with ⟨hadmitted, hfollowed⟩ | ⟨hrefused, errno, hfailed⟩
  · simp [hfollowed, hadmitted]
  · simp [hfailed, hrefused]

/-- What the last name of a path leads to, from the directory that the other names lead to. -/
inductive Arrives (path : String) (directory : Place) : Target → Prop
  /-- The path ends in a name. -/
  | named (name : String) (last : (Path.names path).getLast? = some name) (proper : Proper name) :
      Arrives path directory ⟨directory ++ [name], true, Path.isSlashed path⟩
  /-- The path ends in the directory that it has reached. -/
  | same (ends : ∀ name, (Path.names path).getLast? = some name → name = ".") :
      Arrives path directory ⟨directory, false, Path.isSlashed path⟩
  /-- The path ends in the directory above. -/
  | above (last : (Path.names path).getLast? = some "..") :
      Arrives path directory ⟨directory.dropLast, false, Path.isSlashed path⟩

/-- The last name is followed to what it leads to, if that is no symbolic link to be followed. -/
theorem Arrives.seek_eq {followed : Bool} {left : Nat} {directory : Place}
    (h : Arrives path directory target)
    (hstops : followed = true → ∀ body, fs.entry? target.place ≠ some (.symlink body)) :
    fs.seek followed left (Path.isSlashed path) directory (Path.names path).getLast?.toList =
      .ok target := by
  cases h with
  | named name hlast hproper =>
    rw [hlast, Option.toList_some]
    exact (Seeks.last left (Path.isSlashed path) directory hproper hstops).seek_eq
  | same hends =>
    match hlast : (Path.names path).getLast? with
    | none => simp
    | some name =>
      rw [hends name hlast]
      simp
  | above hlast => simp [hlast]

theorem arrives_of_seek {left : Nat} {directory : Place}
    (h : fs.seek false left (Path.isSlashed path) directory (Path.names path).getLast?.toList =
      .ok target) : Arrives path directory target := by
  match hlast : (Path.names path).getLast? with
  | none =>
    rw [hlast, Option.toList_none, seek_nil] at h
    cases h
    exact .same fun name hlast' => by simp [hlast] at hlast'
  | some name =>
    rw [hlast, Option.toList_some, seek_eq_iff] at h
    cases h with
    | stay hfurther =>
      cases hfurther
      refine .same fun name hlast' => ?_
      rw [hlast] at hlast'
      exact (Option.some.inj hlast').symm
    | up hfurther =>
      cases hfurther
      exact .above hlast
    | last _ _ _ hproper => exact .named name hlast hproper
    | down _ _ hmore => exact absurd rfl hmore
    | link _ _ hgoes => simp at hgoes

theorem names_eq (names : List String) : names.dropLast ++ names.getLast?.toList = names := by
  rcases List.eq_nil_or_concat names with hempty | ⟨front, last, hsplit⟩
  · simp [hempty]
  · simp [hsplit]

/-- A path leads somewhere when its text is admitted, all its names but the last lead to a directory
over few enough symbolic links, and the last step can be made. -/
theorem resolve_eq_ok_iff : fs.resolve path = .ok target ↔ Admitted path ∧
    ∃ count directory, count ≤ mostLinks ∧
      fs.Leads (fs.origin path) (Path.names path).dropLast count directory ∧
      Arrives path directory target := by
  rw [resolve, locate_eq_ok_iff]
  refine and_congr_right fun _ => ?_
  by_cases hnothing : Path.names path = []
  · constructor
    · intro h
      have hseek : fs.seek false mostLinks (Path.isSlashed path) (fs.origin path)
          (Path.names path).getLast?.toList = .ok target := by
        rwa [hnothing] at h ⊢
      exact ⟨0, fs.origin path, Nat.zero_le _, by rw [hnothing]; exact .here _, arrives_of_seek hseek⟩
    · rintro ⟨count, directory, -, hleads, harrives⟩
      rw [hnothing] at hleads
      cases hleads
      have hseek : fs.seek false mostLinks (Path.isSlashed path) (fs.origin path)
          (Path.names path).getLast?.toList = .ok target := harrives.seek_eq (by simp)
      rwa [hnothing] at hseek ⊢
  · have hlast : (Path.names path).getLast?.toList ≠ [] := by
      simp [List.getLast?_eq_some_getLast hnothing]
    constructor
    · intro h
      rw [← names_eq (Path.names path)] at h
      obtain ⟨count, left, directory, hlinks, hleads, hseek⟩ := exists_leads_of_seek h hlast
      exact ⟨count, directory, by omega, hleads, arrives_of_seek hseek⟩
    · rintro ⟨count, directory, hfew, hleads, harrives⟩
      obtain ⟨left, hlinks⟩ := Nat.exists_eq_add_of_le hfew
      rw [hlinks, ← names_eq (Path.names path), hleads.seek_eq hlast]
      exact harrives.seek_eq (by simp)

/-- A path whose last name is too long does not lead anywhere. -/
theorem locate_ne_ok_of_long {followed : Bool} {name : String}
    (hlast : (Path.names path).getLast? = some name) (hlong : longestName < name.utf8ByteSize) :
    fs.locate followed path ≠ .ok target := by
  intro hlocated
  obtain ⟨-, hseek⟩ := locate_eq_ok_iff.1 hlocated
  rw [← names_eq (Path.names path), hlast, Option.toList_some] at hseek
  obtain ⟨-, left, directory, -, -, hseek⟩ := exists_leads_of_seek hseek (List.cons_ne_nil _ _)
  rw [seek_tooLong hlong] at hseek
  cases hseek

/-- Where a path leads does not change while directories stay. -/
theorem resolve_of_onward (honward : Onward fs later) (h : fs.resolve path = .ok target) :
    later.resolve path = .ok target := by
  obtain ⟨hadmitted, count, directory, hfew, hleads, harrives⟩ := resolve_eq_ok_iff.1 h
  apply resolve_eq_ok_iff.2
  refine ⟨hadmitted, count, directory, hfew, ?_, harrives⟩
  rw [honward.origin_eq]
  exact hleads.of_onward honward

/-- A path that does not end in a name leads where all its names lead. -/
theorem leads_of_unnamed (h : fs.resolve path = .ok target) (hunnamed : target.named = false) :
    ∃ count, fs.Leads (fs.origin path) (Path.names path) count target.place := by
  obtain ⟨-, count, directory, -, hleads, harrives⟩ := resolve_eq_ok_iff.1 h
  rw [← names_eq (Path.names path)]
  cases harrives with
  | named => cases hunnamed
  | same hends =>
    refine ⟨count + 0, hleads.append ?_⟩
    match hlast : (Path.names path).getLast? with
    | none => exact .here directory
    | some name =>
      rw [hends name hlast]
      exact .stay (.here directory)
  | above hlast =>
    rw [hlast]
    exact ⟨count + 0, hleads.append (.up (.here directory.dropLast))⟩

/-! ### Symbolic links at the end -/

/-- What is at the place of a path is what the path leads to, unless it is a symbolic link. -/
theorem reach_of_resolve (h : fs.resolve path = .ok target)
    (hentry : ∀ body, fs.entry? target.place ≠ some (.symlink body)) :
    fs.reach path = .ok target := by
  obtain ⟨hadmitted, count, directory, hfew, hleads, harrives⟩ := resolve_eq_ok_iff.1 h
  apply locate_eq_ok_iff.2
  refine ⟨hadmitted, ?_⟩
  obtain ⟨left, hlinks⟩ := Nat.exists_eq_add_of_le hfew
  have hseek : fs.seek true left (Path.isSlashed path) directory (Path.names path).getLast?.toList =
      .ok target := harrives.seek_eq fun _ => hentry
  by_cases hnothing : Path.names path = []
  · rw [hnothing] at hleads hseek ⊢
    cases hleads
    simpa using hseek
  · have hlast : (Path.names path).getLast?.toList ≠ [] := by
      simp [List.getLast?_eq_some_getLast hnothing]
    rw [hlinks, ← names_eq (Path.names path), hleads.seek_eq hlast]
    exact hseek

/-- A path that leads somewhere by symbolic links has a place. -/
theorem resolve_of_reach (h : fs.reach path = .ok target) : ∃ own, fs.resolve path = .ok own := by
  obtain ⟨hadmitted, hseek⟩ := locate_eq_ok_iff.1 h
  by_cases hnothing : Path.names path = []
  · refine ⟨⟨fs.origin path, false, Path.isSlashed path⟩, locate_eq_ok_iff.2 ⟨hadmitted, ?_⟩⟩
    simp [hnothing]
  · have hlast := List.getLast?_eq_some_getLast hnothing
    rw [← names_eq (Path.names path), hlast, Option.toList_some] at hseek
    obtain ⟨count, left, directory, hlinks, hleads, hseek⟩ :=
      exists_leads_of_seek hseek (List.cons_ne_nil _ _)
    have hfew : count ≤ mostLinks := by omega
    rcases name_cases ((Path.names path).getLast hnothing) with hname | hname | hlong | hproper
    · refine ⟨_, resolve_eq_ok_iff.2 ⟨hadmitted, count, directory, hfew, hleads, .same ?_⟩⟩
      intro name hlisted
      rw [hlast, hname] at hlisted
      exact (Option.some.inj hlisted).symm
    · rw [hname] at hlast
      exact ⟨_, resolve_eq_ok_iff.2 ⟨hadmitted, count, directory, hfew, hleads, .above hlast⟩⟩
    · rw [seek_tooLong hlong] at hseek
      cases hseek
    · exact ⟨_, resolve_eq_ok_iff.2 ⟨hadmitted, count, directory, hfew, hleads,
        .named _ hlast hproper⟩⟩

/-- Without a symbolic link at its place, a path leads to its place. -/
theorem resolve_eq_of_reach {own : Target} (h : fs.reach path = .ok target)
    (hown : fs.resolve path = .ok own)
    (hentry : ∀ body, fs.entry? own.place ≠ some (.symlink body)) : own = target := by
  have hsame := reach_of_resolve hown hentry
  rw [h] at hsame
  exact (Except.ok.inj hsame).symm

/-- There are no symbolic links. -/
def Linkless (fs : FileSystem) : Prop := ∀ place body, fs.entry? place ≠ some (.symlink body)

/-- The end of following names by symbolic links is none. -/
theorem entry?_of_seek {links : Nat} {slashed : Bool} {here : Place} {names : List String}
    (h : fs.seek true links slashed here names = .ok target) (hnamed : target.named = true)
    (body : String) : fs.entry? target.place ≠ some (.symlink body) := by
  rw [seek_eq_iff] at h
  generalize hended : (Except.ok target : Except Errno Target) = outcome at h
  induction h with
  | ended =>
    cases hended
    cases hnamed
  | last _ _ _ _ hstops =>
    cases hended
    exact hstops rfl body
  | stay _ ih => exact ih hended
  | up _ ih => exact ih hended
  | down _ _ _ _ ih => exact ih hended
  | link _ _ _ _ ih => exact ih hended
  | tooLong | missing | blocked | tired => cases hended

/-- A name at the end is the last of those that are followed, or of those in a symbolic link. -/
theorem exists_name_of_seek {followed : Bool} {links : Nat} {slashed : Bool} {here : Place}
    {names : List String} (h : fs.seek followed links slashed here names = .ok target)
    (hnamed : target.named = true) :
    ∃ directory name, target.place = directory ++ [name] ∧ Proper name ∧
      (names.getLast? = some name ∨
        ∃ place body, fs.entry? place = some (.symlink body) ∧ name ∈ Path.names body) := by
  rw [seek_eq_iff] at h
  generalize hended : (Except.ok target : Except Errno Target) = outcome at h
  have hlonger {first name : String} {names : List String} (hlast : names.getLast? = some name) :
      (first :: names).getLast? = some name := by
    rw [List.getLast?_cons, hlast]
    rfl
  induction h with
  | ended =>
    cases hended
    cases hnamed
  | @last name links slashed here hproper =>
    cases hended
    exact ⟨here, name, rfl, hproper, .inl rfl⟩
  | stay _ ih | up _ ih | down _ _ _ _ ih =>
    obtain ⟨directory, name, hplaced, hproper, hlast | hlinked⟩ := ih hended
    · exact ⟨directory, name, hplaced, hproper, .inl (hlonger hlast)⟩
    · exact ⟨directory, name, hplaced, hproper, .inr hlinked⟩
  | @link links slashed here first names body outcome hfirst hentry hgoes hfurther ih =>
    obtain ⟨directory, name, hplaced, hproper, hlast | hlinked⟩ := ih hended
    · refine ⟨directory, name, hplaced, hproper, ?_⟩
      by_cases hnothing : names = []
      · rw [hnothing, List.append_nil] at hlast
        exact .inr ⟨_, body, hentry, List.mem_of_getLast? hlast⟩
      · rw [List.getLast?_append, Option.or_of_isSome (by simp [hnothing])] at hlast
        exact .inl (hlonger hlast)
    · exact ⟨directory, name, hplaced, hproper, .inr hlinked⟩
  | tooLong | missing | blocked | tired => cases hended

/-! ## Trees -/

/-- Every place that leads to a file leads to one that there is. -/
def Numbered (fs : FileSystem) : Prop :=
  ∀ place number, fs.entry? place = some (.file number) → number < fs.files.length

/-- Everything lies in a directory, and each file has one name. -/
structure IsTree (fs : FileSystem) : Prop where
  root : fs.HasDirectory []
  current : fs.HasDirectory fs.current
  closed : ∀ place name, fs.entry? (place ++ [name]) ≠ none → fs.HasDirectory place
  numbered : fs.Numbered
  unshared : ∀ place other number, fs.entry? place = some (.file number) →
    fs.entry? other = some (.file number) → place = other

theorem start_entries {place : Place} {entry : Entry} (h : start.entry? place = some entry) :
    (place = [] ∨ place = ["work"]) ∧ entry = .directory 0o755 := by
  simp only [start, entry?, List.lookup_cons, List.lookup_nil] at h
  split at h
  case h_1 hsame =>
    cases h
    exact ⟨.inl (by simpa using hsame), rfl⟩
  case h_2 =>
    split at h
    case h_1 hsame =>
      cases h
      exact ⟨.inr (by simpa using hsame), rfl⟩
    case h_2 => cases h

theorem start_linkless : start.Linkless := fun _ _ hentry => by
  cases (start_entries hentry).2

/-- An empty current directory lies in a tree. -/
theorem start_isTree : start.IsTree := by
  constructor
  · exact ⟨0o755, rfl⟩
  · exact ⟨0o755, rfl⟩
  · intro place name hoccupied
    obtain ⟨entry, hfound⟩ := Option.ne_none_iff_exists'.1 hoccupied
    obtain ⟨hplaced | hplaced, -⟩ := start_entries hfound
    · simp at hplaced
    · have habove : place = [] := by
        have := congrArg List.length hplaced
        simpa using this
      exact ⟨0o755, by rw [habove]; rfl⟩
  · intro place number hentry
    cases (start_entries hentry).2
  · intro place other number hentry
    cases (start_entries hentry).2

theorem IsTree.hasDirectory_dropLast (htree : IsTree fs) {place : Place}
    (h : fs.HasDirectory place) : fs.HasDirectory place.dropLast := by
  by_cases hempty : place = []
  · simpa [hempty] using h
  · obtain ⟨mode, hentry⟩ := h
    apply htree.closed place.dropLast (place.getLast hempty)
    rw [List.dropLast_concat_getLast, hentry]
    simp

theorem IsTree.startOf (htree : IsTree fs) {directory : Place} (h : fs.HasDirectory directory)
    (text : String) : fs.HasDirectory (startOf directory text) := by
  rw [FileSystem.startOf]
  split
  · exact htree.root
  · exact h

theorem IsTree.origin (htree : IsTree fs) (path : String) : fs.HasDirectory (fs.origin path) :=
  htree.startOf htree.current path

/-- Names that are followed from directory to directory lead to a directory. -/
theorem IsTree.hasDirectory_of_leads (htree : IsTree fs) {here there : Place} {names : List String}
    {count : Nat} (hbegins : fs.HasDirectory here) (h : fs.Leads here names count there) :
    fs.HasDirectory there := by
  induction h with
  | here => exact hbegins
  | stay _ ih => exact ih hbegins
  | up _ ih => exact ih (htree.hasDirectory_dropLast hbegins)
  | down _ hdirectory _ ih => exact ih hdirectory
  | link _ _ _ ih => exact ih (htree.startOf hbegins _)

/-- A path that ends in a name leads to a place in a directory. -/
theorem IsTree.resolve_named (htree : IsTree fs) (h : fs.resolve path = .ok target)
    (hnamed : target.named = true) :
    ∃ directory name, target.place = directory ++ [name] ∧ fs.HasDirectory directory ∧
      (Path.names path).getLast? = some name ∧ Proper name := by
  obtain ⟨-, count, directory, -, hleads, harrives⟩ := resolve_eq_ok_iff.1 h
  have hreached := htree.hasDirectory_of_leads (htree.origin path) hleads
  cases harrives with
  | named name hlast hproper => exact ⟨directory, name, rfl, hreached, hlast, hproper⟩
  | same => cases hnamed
  | above => cases hnamed

/-- Following names ends in a directory, or at a name in one. -/
theorem IsTree.hasDirectory_of_seek (htree : IsTree fs) {followed slashed : Bool} {links : Nat}
    {here : Place} {names : List String} (hbegins : fs.HasDirectory here)
    (h : fs.seek followed links slashed here names = .ok target) :
    fs.HasDirectory (if target.named then target.place.dropLast else target.place) := by
  rw [seek_eq_iff] at h
  generalize hended : (Except.ok target : Except Errno Target) = outcome at h
  induction h with
  | ended =>
    cases hended
    exact hbegins
  | stay _ ih => exact ih hbegins hended
  | up _ ih => exact ih (htree.hasDirectory_dropLast hbegins) hended
  | last =>
    cases hended
    simpa using hbegins
  | down _ hdirectory _ _ ih => exact ih hdirectory hended
  | link _ _ _ _ ih => exact ih (htree.startOf hbegins _) hended
  | tooLong | missing | blocked | tired => cases hended

/-- A path that does not end in a name leads to a directory. -/
theorem IsTree.locate_unnamed (htree : IsTree fs) {followed : Bool}
    (h : fs.locate followed path = .ok target) (hunnamed : target.named = false) :
    fs.HasDirectory target.place := by
  have := htree.hasDirectory_of_seek (htree.origin path) (locate_eq_ok_iff.1 h).2
  simpa [hunnamed] using this

/-- A path that ends in a name by symbolic links leads to a place in a directory. -/
theorem IsTree.locate_named (htree : IsTree fs) {followed : Bool}
    (h : fs.locate followed path = .ok target) (hnamed : target.named = true) :
    ∃ directory name, target.place = directory ++ [name] ∧ fs.HasDirectory directory := by
  obtain ⟨-, hseek⟩ := locate_eq_ok_iff.1 h
  obtain ⟨directory, name, hplaced, -⟩ := exists_name_of_seek hseek hnamed
  have := htree.hasDirectory_of_seek (htree.origin path) hseek
  exact ⟨directory, name, hplaced, by simpa [hnamed, hplaced] using this⟩

end InstanceIdentity.FileSystem
