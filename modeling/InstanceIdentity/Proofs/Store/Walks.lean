import InstanceIdentity.Proofs.Outcomes
import InstanceIdentity.Proofs.Store.Names

/-!
# Walks along names

What following names does, told by rules: one for each kind of name and for each kind of entry that it
can lead to.  Names before others are followed from directory to directory, whatever comes after them,
and at the cost of a number of symbolic links.

Main results:

- Theorem `FileSystem.seek_eq_iff`: the rules tell all that following names can end in.
- Theorems `FileSystem.Leads.seek_eq`, `FileSystem.exists_leads_of_seek`: what follows names is followed
  from the directory that they lead to.
- Theorems `FileSystem.Leads.unique`, `FileSystem.Leads.of_onward`: names lead to one directory, and to
  the same one while directories stay.
-/

namespace InstanceIdentity.FileSystem

variable {fs later : FileSystem} {followed slashed : Bool} {links left count : Nat}
  {here there middle : Place} {name : String} {names front rest : List String} {body : String}
  {target : Target} {outcome : Except Errno Target}

/-- A place leads to a directory. -/
def HasDirectory (fs : FileSystem) (place : Place) : Prop :=
  ∃ mode, fs.entry? place = some (.directory mode)

/-- A name that is looked for in a directory. -/
structure Proper (name : String) : Prop where
  notHere : name ≠ "."
  notUp : name ≠ ".."
  short : name.utf8ByteSize ≤ longestName

/-! ## The rules -/

/-- What following names ends in. -/
inductive Seeks (fs : FileSystem) (followed : Bool) :
    Nat → Bool → Place → List String → Except Errno Target → Prop
  /-- All names have been followed. -/
  | ended (links : Nat) (slashed : Bool) (here : Place) :
      Seeks fs followed links slashed here [] (.ok ⟨here, false, slashed⟩)
  | stay {links : Nat} {slashed : Bool} {here : Place} {names : List String}
      {outcome : Except Errno Target} (further : Seeks fs followed links slashed here names outcome) :
      Seeks fs followed links slashed here ("." :: names) outcome
  | up {links : Nat} {slashed : Bool} {here : Place} {names : List String}
      {outcome : Except Errno Target}
      (further : Seeks fs followed links slashed here.dropLast names outcome) :
      Seeks fs followed links slashed here (".." :: names) outcome
  | tooLong {name : String} (links : Nat) (slashed : Bool) (here : Place) (names : List String)
      (long : longestName < name.utf8ByteSize) :
      Seeks fs followed links slashed here (name :: names) (.error .nameTooLong)
  /-- The last name is the end, unless it leads to a symbolic link that is followed. -/
  | last {name : String} (links : Nat) (slashed : Bool) (here : Place) (proper : Proper name)
      (stops : followed = true → ∀ body, fs.entry? (here ++ [name]) ≠ some (.symlink body)) :
      Seeks fs followed links slashed here [name] (.ok ⟨here ++ [name], true, slashed⟩)
  | down {links : Nat} {slashed : Bool} {here : Place} {name : String} {names : List String}
      {outcome : Except Errno Target} (proper : Proper name)
      (directory : fs.HasDirectory (here ++ [name])) (more : names ≠ [])
      (further : Seeks fs followed links slashed (here ++ [name]) names outcome) :
      Seeks fs followed links slashed here (name :: names) outcome
  | missing {name : String} {names : List String} (links : Nat) (slashed : Bool) (here : Place)
      (proper : Proper name) (entry : fs.entry? (here ++ [name]) = none) (more : names ≠ []) :
      Seeks fs followed links slashed here (name :: names) (.error .notFound)
  | blocked {name : String} {names : List String} {number : Nat} (links : Nat) (slashed : Bool)
      (here : Place) (proper : Proper name) (entry : fs.entry? (here ++ [name]) = some (.file number))
      (more : names ≠ []) :
      Seeks fs followed links slashed here (name :: names) (.error .notDirectory)
  /-- No more symbolic links are followed. -/
  | tired {name : String} {names : List String} {body : String} (slashed : Bool) (here : Place)
      (proper : Proper name) (entry : fs.entry? (here ++ [name]) = some (.symlink body))
      (goes : followed = true ∨ names ≠ []) :
      Seeks fs followed 0 slashed here (name :: names) (.error .tooManyLinks)
  /-- A symbolic link is exchanged for the names in its body. -/
  | link {links : Nat} {slashed : Bool} {here : Place} {name : String} {names : List String}
      {body : String} {outcome : Except Errno Target} (proper : Proper name)
      (entry : fs.entry? (here ++ [name]) = some (.symlink body))
      (goes : followed = true ∨ names ≠ [])
      (further : Seeks fs followed links (slashed || names.isEmpty && Path.isSlashed body)
        (startOf here body) (Path.names body ++ names) outcome) :
      Seeks fs followed (links + 1) slashed here (name :: names) outcome

/-- What is left to do at a symbolic link. -/
def jump (fs : FileSystem) (followed : Bool) :
    Nat → Bool → Place → List String → Except Errno Target
  | 0, _, _, _ => .error .tooManyLinks
  | links + 1, slashed, here, names => fs.seek followed links slashed here names

theorem seek_eq_seekBy (fs : FileSystem) (followed : Bool) (links : Nat) :
    fs.seek followed links = fs.seekBy followed (fs.jump followed links) := by
  cases links <;> rfl

@[simp] theorem seek_nil : fs.seek followed links slashed here [] = .ok ⟨here, false, slashed⟩ := by
  rw [seek_eq_seekBy]
  rfl

@[simp] theorem seek_stay : fs.seek followed links slashed here ("." :: rest) =
    fs.seek followed links slashed here rest := by
  rw [seek_eq_seekBy]
  rfl

@[simp] theorem seek_up : fs.seek followed links slashed here (".." :: rest) =
    fs.seek followed links slashed here.dropLast rest := by
  rw [seek_eq_seekBy]
  rfl

theorem seek_tooLong (hlong : longestName < name.utf8ByteSize) :
    fs.seek followed links slashed here (name :: rest) = .error .nameTooLong := by
  have hnotHere : name ≠ "." := by
    rintro rfl
    exact absurd hlong (by decide)
  have hnotUp : name ≠ ".." := by
    rintro rfl
    exact absurd hlong (by decide)
  rw [seek_eq_seekBy, seekBy, if_neg hnotHere, if_neg hnotUp, if_pos hlong]

theorem seek_proper (hproper : Proper name) : fs.seek followed links slashed here (name :: rest) =
    match fs.entry? (here ++ [name]) with
    | some (.symlink body) =>
      if rest.isEmpty && !followed then .ok ⟨here ++ [name], true, slashed⟩
      else
        fs.jump followed links (slashed || rest.isEmpty && Path.isSlashed body) (startOf here body)
          (Path.names body ++ rest)
    | entry =>
      if rest.isEmpty then .ok ⟨here ++ [name], true, slashed⟩
      else
        match entry with
        | some (.directory _) => fs.seek followed links slashed (here ++ [name]) rest
        | some _ => .error .notDirectory
        | none => .error .notFound := by
  have hshort : ¬ longestName < name.utf8ByteSize := Nat.not_lt.2 hproper.short
  rw [seek_eq_seekBy, seekBy]
  exact (if_neg hproper.notHere).trans ((if_neg hproper.notUp).trans (if_neg hshort))

/-- A name is a step within the directory or upwards, too long, or looked for. -/
theorem name_cases (name : String) :
    name = "." ∨ name = ".." ∨ longestName < name.utf8ByteSize ∨ Proper name := by
  by_cases hhere : name = "."
  · exact .inl hhere
  · by_cases hup : name = ".."
    · exact .inr (.inl hup)
    · by_cases hlong : longestName < name.utf8ByteSize
      · exact .inr (.inr (.inl hlong))
      · exact .inr (.inr (.inr ⟨hhere, hup, Nat.not_lt.1 hlong⟩))

theorem Seeks.seek_eq (h : Seeks fs followed links slashed here names outcome) :
    fs.seek followed links slashed here names = outcome := by
  induction h with
  | ended => exact seek_nil
  | stay _ ih => rw [seek_stay, ih]
  | up _ ih => rw [seek_up, ih]
  | tooLong links slashed here names hlong => exact seek_tooLong hlong
  | last links slashed here hproper hstops =>
    rw [seek_proper hproper]
    split
    case h_1 body hentry =>
      have hkept : followed = false := by
        by_contra hfollowed
        exact hstops (by simpa using hfollowed) body hentry
      simp [hkept]
    case h_2 => rfl
  | down hproper hdirectory hmore _ ih =>
    obtain ⟨mode, hentry⟩ := hdirectory
    rw [seek_proper hproper, hentry]
    simpa [hmore] using ih
  | missing links slashed here hproper hentry hmore =>
    rw [seek_proper hproper, hentry]
    simp [hmore]
  | blocked links slashed here hproper hentry hmore =>
    rw [seek_proper hproper, hentry]
    simp [hmore]
  | tired slashed here hproper hentry hgoes =>
    rw [seek_proper hproper, hentry]
    rcases hgoes with hgoes | hgoes <;> simp [hgoes, jump]
  | link hproper hentry hgoes _ ih =>
    rw [seek_proper hproper, hentry]
    rcases hgoes with hgoes | hgoes <;> simpa [hgoes, jump] using ih

theorem seeks_seek (fs : FileSystem) (followed : Bool) (links : Nat) (slashed : Bool) (here : Place)
    (names : List String) :
    Seeks fs followed links slashed here names (fs.seek followed links slashed here names) := by
  -- the names decrease until a symbolic link is met, and then the links do
  induction links using Nat.strongRecOn generalizing slashed here names with
  | _ links ihLinks =>
    induction names generalizing here with
    | nil =>
      rw [seek_nil]
      exact .ended links slashed here
    | cons name names ih =>
      rcases name_cases name with rfl | rfl | hlong | hproper
      · rw [seek_stay]
        exact .stay (ih here)
      · rw [seek_up]
        exact .up (ih here.dropLast)
      · rw [seek_tooLong hlong]
        exact .tooLong links slashed here names hlong
      · rw [seek_proper hproper]
        by_cases hmore : names = []
        case pos =>
          subst hmore
          match hentry : fs.entry? (here ++ [name]) with
          | some (.symlink body) =>
            cases followed with
            | false => exact .last links slashed here hproper (by simp)
            | true =>
              cases links with
              | zero => exact .tired slashed here hproper hentry (.inl rfl)
              | succ links =>
                exact .link hproper hentry (.inl rfl) (ihLinks links (Nat.lt_succ_self links) _ _ _)
          | none => exact .last links slashed here hproper (by simp [hentry])
          | some (.directory mode) => exact .last links slashed here hproper (by simp [hentry])
          | some (.file number) => exact .last links slashed here hproper (by simp [hentry])
        case neg =>
          have hfurther : names.isEmpty = false := by simpa using hmore
          match hentry : fs.entry? (here ++ [name]) with
          | some (.symlink body) =>
            cases links with
            | zero =>
              simp only [hfurther, Bool.false_and, Bool.false_eq_true, if_false, jump]
              exact .tired slashed here hproper hentry (.inr hmore)
            | succ links =>
              have hjumped := ihLinks links (Nat.lt_succ_self links)
                (slashed || names.isEmpty && Path.isSlashed body) (startOf here body)
                (Path.names body ++ names)
              simpa [hfurther, jump] using Seeks.link hproper hentry (.inr hmore) hjumped
          | none => simpa [hfurther] using Seeks.missing links slashed here hproper hentry hmore
          | some (.directory mode) =>
            simpa [hfurther] using Seeks.down hproper ⟨mode, hentry⟩ hmore (ih (here ++ [name]))
          | some (.file number) =>
            simpa [hfurther] using Seeks.blocked links slashed here hproper hentry hmore

/-- Following names ends as the rules tell. -/
theorem seek_eq_iff : fs.seek followed links slashed here names = outcome ↔
    Seeks fs followed links slashed here names outcome :=
  ⟨fun h => h ▸ fs.seeks_seek followed links slashed here names, Seeks.seek_eq⟩

/-! ## Names that lead to a directory -/

/-- Names are followed from directory to directory, with a number of symbolic links. -/
inductive Leads (fs : FileSystem) : Place → List String → Nat → Place → Prop
  | here (place : Place) : Leads fs place [] 0 place
  | stay {here there : Place} {names : List String} {count : Nat}
      (further : Leads fs here names count there) : Leads fs here ("." :: names) count there
  | up {here there : Place} {names : List String} {count : Nat}
      (further : Leads fs here.dropLast names count there) : Leads fs here (".." :: names) count there
  | down {here there : Place} {name : String} {names : List String} {count : Nat}
      (proper : Proper name) (directory : fs.HasDirectory (here ++ [name]))
      (further : Leads fs (here ++ [name]) names count there) :
      Leads fs here (name :: names) count there
  | link {here there : Place} {name : String} {names : List String} {body : String} {count : Nat}
      (proper : Proper name) (entry : fs.entry? (here ++ [name]) = some (.symlink body))
      (further : Leads fs (startOf here body) (Path.names body ++ names) count there) :
      Leads fs here (name :: names) (count + 1) there

theorem Leads.append {more : Nat} (h : fs.Leads here front count middle)
    (hrest : fs.Leads middle rest more there) :
    fs.Leads here (front ++ rest) (count + more) there := by
  induction h with
  | here => simpa using hrest
  | stay _ ih => exact .stay (ih hrest)
  | up _ ih => exact .up (ih hrest)
  | down hproper hdirectory _ ih => exact .down hproper hdirectory (ih hrest)
  | link hproper hentry _ ih =>
    have := ih hrest
    rw [List.append_assoc] at this
    rw [Nat.succ_add_eq_add_succ]
    exact .link hproper hentry this

/-- Names are followed one part after the other. -/
theorem Leads.split (h : fs.Leads here (front ++ rest) count there) :
    ∃ first more middle, count = first + more ∧ fs.Leads here front first middle ∧
      fs.Leads middle rest more there := by
  generalize hnames : front ++ rest = names at h
  induction h generalizing front with
  | here place =>
    obtain ⟨rfl, rfl⟩ := List.append_eq_nil_iff.1 hnames
    exact ⟨0, 0, place, rfl, .here place, .here place⟩
  | @stay here there names count hfurther ih =>
    rcases List.append_eq_cons_iff.1 hnames with ⟨rfl, rfl⟩ | ⟨front, rfl, rfl⟩
    · exact ⟨0, count, here, (Nat.zero_add count).symm, .here here, .stay hfurther⟩
    · obtain ⟨first, more, middle, hcount, hfirst, hmore⟩ := ih rfl
      exact ⟨first, more, middle, hcount, .stay hfirst, hmore⟩
  | @up here there names count hfurther ih =>
    rcases List.append_eq_cons_iff.1 hnames with ⟨rfl, rfl⟩ | ⟨front, rfl, rfl⟩
    · exact ⟨0, count, here, (Nat.zero_add count).symm, .here here, .up hfurther⟩
    · obtain ⟨first, more, middle, hcount, hfirst, hmore⟩ := ih rfl
      exact ⟨first, more, middle, hcount, .up hfirst, hmore⟩
  | @down here there name names count hproper hdirectory hfurther ih =>
    rcases List.append_eq_cons_iff.1 hnames with ⟨rfl, rfl⟩ | ⟨front, rfl, rfl⟩
    · exact ⟨0, count, here, (Nat.zero_add count).symm, .here here, .down hproper hdirectory hfurther⟩
    · obtain ⟨first, more, middle, hcount, hfirst, hmore⟩ := ih rfl
      exact ⟨first, more, middle, hcount, .down hproper hdirectory hfirst, hmore⟩
  | @link here there name names body count hproper hentry hfurther ih =>
    rcases List.append_eq_cons_iff.1 hnames with ⟨rfl, rfl⟩ | ⟨front, rfl, rfl⟩
    · exact ⟨0, count + 1, here, (Nat.zero_add _).symm, .here here, .link hproper hentry hfurther⟩
    · obtain ⟨first, more, middle, hcount, hfirst, hmore⟩ := ih (List.append_assoc _ _ _)
      exact ⟨first + 1, more, middle, by omega, .link hproper hentry hfirst, hmore⟩

/-! ### Names before others -/

theorem Leads.seeks (h : fs.Leads here front count middle) (hmore : rest ≠ [])
    (hseeks : Seeks fs followed left slashed middle rest outcome) :
    Seeks fs followed (count + left) slashed here (front ++ rest) outcome := by
  have hnonempty (names : List String) : names ++ rest ≠ [] := by simp [hmore]
  induction h with
  | here => simpa using hseeks
  | stay _ ih => exact .stay (ih hseeks)
  | up _ ih => exact .up (ih hseeks)
  | down hproper hdirectory _ ih => exact .down hproper hdirectory (hnonempty _) (ih hseeks)
  | @link here there name names body count hproper hentry hfurther ih =>
    have hfurther := ih hseeks
    rw [List.append_assoc] at hfurther
    rw [Nat.succ_add]
    refine .link hproper hentry (.inr (hnonempty names)) ?_
    have hmiddle : (names ++ rest).isEmpty = false := by simp [hmore]
    simpa [hmiddle] using hfurther

/-- What follows names is followed from the directory that they lead to. -/
theorem Leads.seek_eq (h : fs.Leads here front count middle) (hmore : rest ≠ []) :
    fs.seek followed (count + left) slashed here (front ++ rest) =
      fs.seek followed left slashed middle rest :=
  (h.seeks hmore (fs.seeks_seek followed left slashed middle rest)).seek_eq

/-- Names lead to one directory. -/
theorem Leads.unique {count' : Nat} {there' : Place} (h : fs.Leads here names count there)
    (h' : fs.Leads here names count' there') : there = there' := by
  have hended : fs.seek false (count + count') false here (names ++ ["."]) =
      fs.seek false count' false there ["."] := h.seek_eq (List.cons_ne_nil "." [])
  rw [Nat.add_comm, h'.seek_eq (List.cons_ne_nil "." [])] at hended
  simpa using hended.symm

/-- Points lead nowhere else. -/
theorem Leads.eq_of_points (h : fs.Leads here names count there)
    (hpoints : ∀ name ∈ names, name = ".") : there = here := by
  have hstay : fs.Leads here names 0 here := by
    clear h
    induction names with
    | nil => exact .here here
    | cons name names ih =>
      rw [hpoints name List.mem_cons_self]
      exact .stay (ih fun other hlisted => hpoints other (List.mem_cons_of_mem _ hlisted))
  exact h.unique hstay

/-- Names that are followed with others after them lead to a directory. -/
theorem exists_leads_of_seek (h : fs.seek followed links slashed here (front ++ rest) = .ok target)
    (hmore : rest ≠ []) :
    ∃ count left middle, links = count + left ∧ fs.Leads here front count middle ∧
      fs.seek followed left slashed middle rest = .ok target := by
  rw [seek_eq_iff] at h
  generalize hnames : front ++ rest = names at h
  generalize hended : (Except.ok target : Except Errno Target) = outcome at h
  -- where the names in front have all been followed
  have hhere {links : Nat} {slashed : Bool} {here : Place} {names : List String}
      {outcome : Except Errno Target} (hseeks : Seeks fs followed links slashed here names outcome) :
      ∃ count left middle, links = count + left ∧ fs.Leads here [] count middle ∧
        fs.seek followed left slashed middle names = outcome :=
    ⟨0, links, here, (Nat.zero_add links).symm, .here here, hseeks.seek_eq⟩
  induction h generalizing front with
  | ended => exact absurd (List.append_eq_nil_iff.1 hnames).2 hmore
  | stay hfurther ih =>
    rcases List.append_eq_cons_iff.1 hnames with ⟨rfl, rfl⟩ | ⟨front, rfl, rfl⟩
    · exact hhere (.stay hfurther)
    · obtain ⟨count, left, middle, hlinks, hleads, hseek⟩ := ih rfl hended
      exact ⟨count, left, middle, hlinks, .stay hleads, hseek⟩
  | up hfurther ih =>
    rcases List.append_eq_cons_iff.1 hnames with ⟨rfl, rfl⟩ | ⟨front, rfl, rfl⟩
    · exact hhere (.up hfurther)
    · obtain ⟨count, left, middle, hlinks, hleads, hseek⟩ := ih rfl hended
      exact ⟨count, left, middle, hlinks, .up hleads, hseek⟩
  | last links slashed here hproper hstops =>
    rcases List.append_eq_cons_iff.1 hnames with ⟨rfl, rfl⟩ | ⟨front, rfl, hnothing⟩
    · exact hhere (.last links slashed here hproper hstops)
    · exact absurd (List.append_eq_nil_iff.1 hnothing.symm).2 hmore
  | down hproper hdirectory hsome hfurther ih =>
    rcases List.append_eq_cons_iff.1 hnames with ⟨rfl, rfl⟩ | ⟨front, rfl, rfl⟩
    · exact hhere (.down hproper hdirectory hsome hfurther)
    · obtain ⟨count, left, middle, hlinks, hleads, hseek⟩ := ih rfl hended
      exact ⟨count, left, middle, hlinks, .down hproper hdirectory hleads, hseek⟩
  | tooLong | missing | blocked | tired => cases hended
  | link hproper hentry hgoes hfurther ih =>
    rcases List.append_eq_cons_iff.1 hnames with ⟨rfl, rfl⟩ | ⟨front, rfl, rfl⟩
    · exact hhere (.link hproper hentry hgoes hfurther)
    · obtain ⟨count, left, middle, hlinks, hleads, hseek⟩ := ih (List.append_assoc _ _ _) hended
      have hmiddle : (front ++ rest).isEmpty = false := by simp [hmore]
      rw [hmiddle, Bool.false_and, Bool.or_false] at hseek
      exact ⟨count + 1, left, middle, by omega, .link hproper hentry hleads, hseek⟩

/-! ## Directories that stay -/

/-- A symbolic link at a place, with a body, leads to no directory. -/
def Barren (fs : FileSystem) (place : Place) (body : String) : Prop :=
  ∀ count there, ¬ fs.Leads (startOf place.dropLast body) (Path.names body) count there

/-- Every directory is still one, every symbolic link that leads to a directory is as it was, and paths
are still followed from the same directories. -/
structure Onward (fs later : FileSystem) : Prop where
  current : later.current = fs.current
  directories : ∀ place, fs.HasDirectory place → later.HasDirectory place
  links : ∀ place body, fs.entry? place = some (.symlink body) →
    later.entry? place = some (.symlink body) ∨ fs.Barren place body

/-- Names lead to the same directory while directories stay. -/
theorem Leads.of_onward (honward : Onward fs later) (h : fs.Leads here names count there) :
    later.Leads here names count there := by
  induction h with
  | here => exact .here _
  | stay _ ih => exact .stay ih
  | up _ ih => exact .up ih
  | down hproper hdirectory _ ih => exact .down hproper (honward.directories _ hdirectory) ih
  | link hproper hentry hfurther ih =>
    rcases honward.links _ _ hentry with hkept | hbarren
    · exact .link hproper hkept ih
    · obtain ⟨first, -, middle, -, hleads, -⟩ := hfurther.split
      rw [Barren, List.dropLast_concat] at hbarren
      exact absurd hleads (hbarren first middle)

/-- Following names ends alike while directories and symbolic links stay. -/
theorem seek_of_kept (hdirectories : ∀ place, fs.HasDirectory place → later.HasDirectory place)
    (hlinks : ∀ place body, fs.entry? place = some (.symlink body) →
      later.entry? place = some (.symlink body))
    (hend : target.named = true → ∀ body, later.entry? target.place ≠ some (.symlink body))
    (h : fs.seek followed links slashed here names = .ok target) :
    later.seek followed links slashed here names = .ok target := by
  rw [seek_eq_iff] at h ⊢
  generalize hended : (Except.ok target : Except Errno Target) = outcome at h
  induction h with
  | ended => exact .ended _ _ _
  | stay _ ih => exact .stay (ih hended)
  | up _ ih => exact .up (ih hended)
  | last links slashed here hproper hstops =>
    cases hended
    exact .last links slashed here hproper fun _ => hend rfl
  | down hproper hdirectory hmore _ ih =>
    exact .down hproper (hdirectories _ hdirectory) hmore (ih hended)
  | link hproper hentry hgoes _ ih => exact .link hproper (hlinks _ _ hentry) hgoes (ih hended)
  | tooLong | missing | blocked | tired => cases hended

theorem Onward.refl (fs : FileSystem) : Onward fs fs := ⟨rfl, fun _ h => h, fun _ _ h => .inl h⟩

theorem Onward.trans {middle : FileSystem} (h₁ : Onward fs middle) (h₂ : Onward middle later) :
    Onward fs later := by
  refine ⟨h₂.current.trans h₁.current, fun place h => h₂.directories place (h₁.directories place h),
    fun place body hentry => ?_⟩
  rcases h₁.links place body hentry with hkept | hbarren
  · rcases h₂.links place body hkept with hkept | hbarren
    · exact .inl hkept
    · exact .inr fun count there hleads => hbarren count there (hleads.of_onward h₁)
  · exact .inr hbarren

end InstanceIdentity.FileSystem
