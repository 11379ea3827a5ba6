import InstanceIdentity.Proofs.Store.Effects
import InstanceIdentity.Proofs.Store.Payload

/-!
# Races of saves

Several saves of one cache file are under way at once, each at its own stage, and take turns in any
order.  As long as no process has two saves under way, each of them has its temporary sibling for
itself, and whatever there is to be read is whole.

Main results:

- Structure `Race.Sound`: what holds at every point of a race; Theorem `Race.sound_advance` is the step
  and `Race.sound_run` the run.
- Theorem `Race.settled_run`: a reader that has opened the cache file finds the same content however
  long it takes.
- Theorem `Race.solitaryAlong_of_nodup`: saves of different processes never share a sibling.
- Theorem `Race.loads_complete`: what loads answer at every point of a race.
- Theorem `Race.crowded_torn`: a file without content is loaded when two saves of one process take
  turns.
-/

namespace InstanceIdentity

namespace FileStore

variable {store other : FileStore} {token : CachedToken} {interference : Interference}
  {fs later : FileSystem} {stage next : Stage}

/-- A save has begun to use its temporary sibling and has not come to its end. -/
def Stage.Underway : Stage → Prop
  | .prepare | .finished _ => False
  | _ => True

/-- The cache file has been replaced, and that is not forgotten. -/
def Stage.Replaced : Stage → Prop
  | .restrict | .finished (.ok ()) => True
  | _ => False

instance decidableReplaced : DecidablePred Stage.Replaced
  | .restrict | .finished (.ok ()) => .isTrue trivial
  | .prepare | .create | .write _ | .sync _ | .rename | .discard _ | .finished (.error _) => .isFalse id

/-- A save that is not under way makes directories, if it does anything. -/
theorem Moves.prepared_of_idle (hidle : ¬ stage.Underway)
    (hmove : Moves store token interference fs stage later next) : fs.Prepared store.path later := by
  cases hmove with
  | prepared _ hprepared => exact hprepared
  | unprepared _ _ hprepared => exact hprepared
  | ended => exact .refl _ fs
  | created | uncreated | written | unwritten | synced | unsynced | renamed | unrenamed | restricted
  | unrestricted | discarded | kept => exact absurd trivial hidle

/-- Renaming puts something in place. -/
theorem Moves.replaced (htree : fs.IsTree) (hapart : Apart store.path fs)
    (hready : store.Ready token fs stage)
    (hmove : Moves store token interference fs stage later next) (hreplaced : next.Replaced) :
    stage.Replaced ∨ Present store.path later := by
  cases hmove with
  | renamed _ hrenames =>
    obtain ⟨number, hopened, -⟩ := hready
    have hclear := hapart.clear htree
    obtain ⟨target, hresolved, -, hentry⟩ := hclear.temporary.resolve_of_openFile hopened
    exact .inr ⟨number, hrenames.openFile hresolved hentry hclear.path⟩
  | restricted => exact .inl trivial
  | ended result => exact .inl hreplaced
  | prepared | unprepared | created | uncreated | written | unwritten | synced | unsynced | unrenamed
  | unrestricted | discarded | kept => exact hreplaced.elim

theorem Ready.of_prepared {path : String} (hclear : store.Clear fs)
    (hready : store.Ready token fs stage) (hprepared : fs.Prepared path later) :
    store.Ready token later stage := by
  cases stage with
  | write number => exact Holding.of_prepared hclear hready hprepared
  | sync number => exact Holding.of_prepared hclear hready hprepared
  | rename =>
    obtain ⟨number, hholding⟩ := hready
    exact ⟨number, hholding.of_prepared hclear hprepared⟩
  | prepare | create | restrict | discard | finished => trivial

/-- What a save of another process relies on stays as it needs it. -/
theorem Effect.ready {token' : CachedToken} (htree : fs.IsTree) (hapart : Apart store.path fs)
    (heffect : store.Effect token fs later) (hpath : other.path = store.path)
    (hprocess : stage.Underway → other.process ≠ store.process)
    (hready : other.Ready token' fs stage) : other.Ready token' later stage := by
  cases stage with
  | write number => exact heffect.holding htree hapart hpath (hprocess trivial) hready
  | sync number => exact heffect.holding htree hapart hpath (hprocess trivial) hready
  | rename =>
    obtain ⟨number, hholding⟩ := hready
    exact ⟨number, heffect.holding htree hapart hpath (hprocess trivial) hholding⟩
  | prepare | create | restrict | discard | finished => trivial

end FileStore

open FileStore (Apart Interference Stage Moves Shown Present Settled HasContent payload)

/-! ## Races -/

/-- One of several saves, at its stage. -/
structure Writer where
  store : FileStore
  token : CachedToken
  interference : Interference
  stage : Stage

/-- Several saves on one file system. -/
structure Race where
  files : FileSystem
  writers : List Writer

namespace Race

variable {race : Race} {path : String} {Good : List UInt8 → Prop}

/-- One of the saves does its next operation. -/
def advance (race : Race) (turn : Nat) : Race :=
  match race.writers[turn]? with
  | none => race
  | some writer =>
    let next := writer.store.step writer.token writer.interference race.files writer.stage
    { files := next.1, writers := race.writers.set turn { writer with stage := next.2 } }

/-- The saves do operations in a certain order. -/
def run (race : Race) (schedule : List Nat) : Race := schedule.foldl advance race

/-- No process has two saves under way. -/
def Solitary (race : Race) : Prop :=
  ∀ (i j : Nat) (writer other : Writer), race.writers[i]? = some writer →
    race.writers[j]? = some other → writer.store.process = other.store.process →
      writer.stage.Underway → other.stage.Underway → i = j

/-- What holds at every point of a race for a path: what there is to be read is good, and every save
finds in its sibling what it has put there. -/
structure Sound (path : String) (Good : List UInt8 → Prop) (race : Race) : Prop where
  tree : race.files.IsTree
  apart : Apart path race.files
  steady : race.files.Steady path
  shown : Shown path Good race.files
  paths : ∀ (i : Nat) (writer : Writer), race.writers[i]? = some writer → writer.store.path = path
  good : ∀ (i : Nat) (writer : Writer), race.writers[i]? = some writer → Good (payload writer.token)
  ready : ∀ (i : Nat) (writer : Writer), race.writers[i]? = some writer →
    writer.store.Ready writer.token race.files writer.stage
  replaced : ∀ (i : Nat) (writer : Writer), race.writers[i]? = some writer →
    writer.stage.Replaced → Present path race.files

theorem Sound.writer_apart (hsound : Sound path Good race) {i : Nat} {writer : Writer}
    (hlisted : race.writers[i]? = some writer) : Apart writer.store.path race.files :=
  (hsound.paths i writer hlisted).symm ▸ hsound.apart

/-- What the operation of a save does to a sound race. -/
theorem Sound.effect (hsound : Sound path Good race) {i : Nat} {writer : Writer} {later : FileSystem}
    {next : Stage} (hlisted : race.writers[i]? = some writer)
    (hmove : Moves writer.store writer.token writer.interference race.files writer.stage later next) :
    writer.store.Effect writer.token race.files later ∧ writer.store.Ready writer.token later next :=
  hmove.effect hsound.tree ((hsound.writer_apart hlisted).clear hsound.tree)
    (hsound.ready i writer hlisted)

/-- The save whose turn it is, and what its operation does. -/
theorem advance_eq (race : Race) (turn : Nat) :
    (race.writers[turn]? = none ∧ race.advance turn = race) ∨
      ∃ writer later next, race.writers[turn]? = some writer ∧
        Moves writer.store writer.token writer.interference race.files writer.stage later next ∧
        race.advance turn = ⟨later, race.writers.set turn { writer with stage := next }⟩ := by
  match h : race.writers[turn]? with
  | none =>
    left
    exact ⟨rfl, by simp [advance, h]⟩
  | some writer =>
    right
    refine ⟨writer, _, _, rfl, writer.store.step_moves writer.token writer.interference race.files
      writer.stage, ?_⟩
    simp [advance, h]

/-- After a turn every save is the one whose turn it was, or as it was. -/
theorem getElem?_set_writer {writers : List Writer} {turn i : Nat} {writer updated : Writer}
    (h : (writers.set turn updated)[i]? = some writer) :
    (i = turn ∧ writer = updated) ∨ (i ≠ turn ∧ writers[i]? = some writer) := by
  rw [List.getElem?_set] at h
  by_cases hsame : turn = i
  · rw [if_pos hsame] at h
    split at h
    · exact .inl ⟨hsame.symm, (Option.some.inj h).symm⟩
    · cases h
  · rw [if_neg hsame] at h
    exact .inr ⟨Ne.symm hsame, h⟩

/-- A turn keeps a race sound. -/
theorem sound_advance (hsound : Sound path Good race) (hsolitary : race.Solitary) (turn : Nat) :
    Sound path Good (race.advance turn) := by
  rcases race.advance_eq turn with ⟨-, hsame⟩ | ⟨writer, later, next, hlisted, hmove, hsame⟩
  · rw [hsame]
    exact hsound
  · have honPath : writer.store.path = path := hsound.paths turn writer hlisted
    have hapart := hsound.writer_apart hlisted
    obtain ⟨heffect, hready⟩ := hsound.effect hlisted hmove
    obtain ⟨hshown, hpresent⟩ := heffect.shown hsound.tree hapart (honPath ▸ hsound.steady)
      (hsound.good turn writer hlisted) (honPath ▸ hsound.shown)
    rw [honPath] at hshown hpresent
    rw [hsame]
    constructor
    · exact hmove.continues.tree hsound.tree
    · exact hsound.apart.of_links (heffect.links (hapart.clear hsound.tree))
    · exact hsound.steady.of_onward (heffect.onward hsound.tree hapart)
    · exact hshown
    · intro i other hfound
      rcases getElem?_set_writer hfound with ⟨-, rfl⟩ | ⟨-, hfound⟩
      · exact honPath
      · exact hsound.paths i other hfound
    · intro i other hfound
      rcases getElem?_set_writer hfound with ⟨-, rfl⟩ | ⟨-, hfound⟩
      · exact hsound.good turn writer hlisted
      · exact hsound.good i other hfound
    · intro i other hfound
      rcases getElem?_set_writer hfound with ⟨-, rfl⟩ | ⟨hother, hfound⟩
      · exact hready
      · by_cases hunderway : writer.stage.Underway
        · apply heffect.ready hsound.tree hapart
          · rw [hsound.paths i other hfound, honPath]
          · intro hunderway' hprocess
            exact hother (hsolitary i turn other writer hfound hlisted hprocess hunderway' hunderway)
          · exact hsound.ready i other hfound
        · have hclear := (hsound.writer_apart hfound).clear hsound.tree
          exact (hsound.ready i other hfound).of_prepared hclear (hmove.prepared_of_idle hunderway)
    · intro i other hfound hreplaced
      rcases getElem?_set_writer hfound with ⟨-, rfl⟩ | ⟨-, hfound⟩
      · rcases hmove.replaced hsound.tree hapart (hsound.ready turn writer hlisted) hreplaced with hbefore | hnow
        · exact hpresent (hsound.replaced turn writer hlisted hbefore)
        · exact honPath ▸ hnow
      · exact hpresent (hsound.replaced i other hfound hreplaced)

theorem run_append (race : Race) (front more : List Nat) :
    race.run (front ++ more) = (race.run front).run more := List.foldl_append

/-- At no point of a race has a process two saves under way. -/
def SolitaryAlong (race : Race) (schedule : List Nat) : Prop :=
  ∀ front, front <+: schedule → (race.run front).Solitary

theorem SolitaryAlong.first {schedule : List Nat} (h : race.SolitaryAlong schedule) :
    race.Solitary := h [] List.nil_prefix

theorem SolitaryAlong.rest {turn : Nat} {schedule : List Nat}
    (h : race.SolitaryAlong (turn :: schedule)) : (race.advance turn).SolitaryAlong schedule := by
  intro front hearly
  exact h (turn :: front) (List.cons_prefix_cons.2 ⟨rfl, hearly⟩)

theorem SolitaryAlong.of_append {front more : List Nat} (h : race.SolitaryAlong (front ++ more)) :
    race.SolitaryAlong front ∧ (race.run front).SolitaryAlong more := by
  constructor
  · intro early hearlier
    exact h early (hearlier.trans (List.prefix_append front more))
  · intro early hearlier
    rw [← run_append]
    exact h (front ++ early) ((List.prefix_append_right_inj front).2 hearlier)

/-- A race stays sound. -/
theorem sound_run {schedule : List Nat} (hsound : Sound path Good race)
    (hsolitary : race.SolitaryAlong schedule) : Sound path Good (race.run schedule) := by
  induction schedule generalizing race with
  | nil => exact hsound
  | cons turn schedule ih => exact ih (sound_advance hsound hsolitary.first turn) hsolitary.rest

/-- A turn leaves a settled content alone. -/
theorem settled_advance {number : Nat} {content : List UInt8} (hsound : Sound path Good race)
    (hsettled : Settled path race.files number content) (turn : Nat) :
    Settled path (race.advance turn).files number content := by
  rcases race.advance_eq turn with ⟨-, hsame⟩ | ⟨writer, later, next, hlisted, hmove, hsame⟩
  · rw [hsame]
    exact hsettled
  · rw [hsame]
    have honPath : writer.store.path = path := hsound.paths turn writer hlisted
    obtain ⟨heffect, -⟩ := hsound.effect hlisted hmove
    rw [← honPath] at hsettled ⊢
    exact heffect.settled hsound.tree (hsound.writer_apart hlisted) hsettled

/-- A settled content stays as it is for the whole of a race. -/
theorem settled_run {number : Nat} {content : List UInt8} {schedule : List Nat}
    (hsound : Sound path Good race) (hsolitary : race.SolitaryAlong schedule)
    (hsettled : Settled path race.files number content) :
    Settled path (race.run schedule).files number content := by
  induction schedule generalizing race with
  | nil => exact hsettled
  | cons turn schedule ih =>
    exact ih (sound_advance hsound hsolitary.first turn) hsolitary.rest
      (settled_advance hsound hsettled turn)

/-- A turn does not take the cache file away. -/
theorem present_advance (hsound : Sound path Good race) (hpresent : Present path race.files)
    (turn : Nat) : Present path (race.advance turn).files := by
  rcases race.advance_eq turn with ⟨-, hsame⟩ | ⟨writer, later, next, hlisted, hmove, hsame⟩
  · rw [hsame]
    exact hpresent
  · rw [hsame]
    have honPath : writer.store.path = path := hsound.paths turn writer hlisted
    obtain ⟨heffect, -⟩ := hsound.effect hlisted hmove
    rw [← honPath] at hpresent ⊢
    exact (heffect.shown hsound.tree (hsound.writer_apart hlisted) (honPath ▸ hsound.steady)
      (hsound.good turn writer hlisted) (honPath ▸ hsound.shown)).2 hpresent

/-- A cache file that is there stays there for the whole of a race. -/
theorem present_run {schedule : List Nat} (hsound : Sound path Good race)
    (hsolitary : race.SolitaryAlong schedule) (hpresent : Present path race.files) :
    Present path (race.run schedule).files := by
  induction schedule generalizing race with
  | nil => exact hpresent
  | cons turn schedule ih =>
    exact ih (sound_advance hsound hsolitary.first turn) hsolitary.rest
      (present_advance hsound hpresent turn)

/-! ## Races of processes -/

/-- The saves go on, but they are the same saves. -/
theorem stores_advance (race : Race) (turn : Nat) :
    (race.advance turn).writers.map (·.store) = race.writers.map (·.store) := by
  rcases race.advance_eq turn with ⟨-, hsame⟩ | ⟨writer, later, next, hlisted, -, hsame⟩
  · rw [hsame]
  · rw [hsame]
    apply List.ext_getElem?
    intro i
    simp only [List.getElem?_map, List.getElem?_set]
    by_cases hsame : turn = i
    · subst hsame
      obtain ⟨hbounded, hfound⟩ := List.getElem?_eq_some_iff.1 hlisted
      simp [hbounded, hfound]
    · simp [hsame]

theorem stores_run (race : Race) (schedule : List Nat) :
    (race.run schedule).writers.map (·.store) = race.writers.map (·.store) := by
  induction schedule generalizing race with
  | nil => rfl
  | cons turn schedule ih => exact (ih (race.advance turn)).trans (race.stores_advance turn)

/-- When every save is one of a process of its own, no process ever has two under way. -/
theorem solitaryAlong_of_nodup (hdistinct : (race.writers.map (·.store.process)).Nodup)
    (schedule : List Nat) : race.SolitaryAlong schedule := by
  intro front _ i j writer other hfound hfound' hprocess _ _
  have hprocesses : (race.run front).writers.map (·.store.process) =
      race.writers.map (·.store.process) := by
    have hstores := congrArg (List.map (·.process)) (race.stores_run front)
    rwa [List.map_map, List.map_map] at hstores
  rw [← hprocesses] at hdistinct
  obtain ⟨hbounded, -⟩ := List.getElem?_eq_some_iff.1 hfound
  apply (List.getElem?_inj (by rwa [List.length_map]) hdistinct).1
  rw [List.getElem?_map, List.getElem?_map, hfound, hfound', Option.map_some, Option.map_some, hprocess]

/-! ## What loads answer -/

/-- A race starts at a path that leads somewhere, or could only lead down, and from which symbolic links
stay apart: with no file there, or with one that was saved earlier. -/
structure Starts (race : Race) (path : String) (earlier : Option CachedToken) : Prop where
  tree : race.files.IsTree
  apart : Apart path race.files
  steady : race.files.Steady path
  read : race.files.read path = earlier.elim (.error .notFound) fun token => .ok (payload token)
  writers : ∀ writer ∈ race.writers, writer.store.path = path ∧ writer.stage = .prepare

/-- The tokens that can be found in a race. -/
def tokens (race : Race) (earlier : Option CachedToken) : List CachedToken :=
  earlier.toList ++ race.writers.map (·.token)

/-- The complete content of a cache file for one of several tokens. -/
def Complete (tokens : List CachedToken) (content : List UInt8) : Prop :=
  ∃ token ∈ tokens, content = payload token

/-- A race is sound from its start. -/
theorem Starts.sound {earlier : Option CachedToken} (hstarts : race.Starts path earlier) :
    Sound path (Complete (race.tokens earlier)) race := by
  have hfresh {i : Nat} {writer : Writer} (hlisted : race.writers[i]? = some writer) :
      writer ∈ race.writers ∧ writer.store.path = path ∧ writer.stage = .prepare :=
    ⟨List.mem_of_getElem? hlisted, hstarts.writers writer (List.mem_of_getElem? hlisted)⟩
  constructor
  · exact hstarts.tree
  · exact hstarts.apart
  · exact hstarts.steady
  · have hread := hstarts.read
    unfold FileSystem.read at hread
    cases hopened : race.files.openFile path with
    | error errno =>
      left
      rw [hopened] at hread ⊢
      cases earlier with
      | none => exact congrArg Except.error (Except.error.inj hread)
      | some token => cases hread
    | ok number =>
      right
      rw [hopened] at hread
      cases earlier with
      | none => cases hread
      | some token =>
        have hcontent := FileStore.hasContent_of_openFile hstarts.tree hopened
        rw [Except.ok.inj hread] at hcontent
        exact ⟨number, payload token, hopened, hcontent, token, by simp [tokens], rfl⟩
  · intro i writer hlisted
    exact (hfresh hlisted).2.1
  · intro i writer hlisted
    exact ⟨writer.token, by simpa [tokens] using .inr ⟨writer, (hfresh hlisted).1, rfl⟩, rfl⟩
  · intro i writer hlisted
    rw [(hfresh hlisted).2.2]
    trivial
  · intro i writer hlisted hreplaced
    rw [(hfresh hlisted).2.2] at hreplaced
    exact hreplaced.elim

theorem Starts.present {earlier : Option CachedToken} (hstarts : race.Starts path earlier)
    (hsaved : earlier.isSome) : Present path race.files := by
  obtain ⟨token, rfl⟩ := Option.isSome_iff_exists.1 hsaved
  have hread := hstarts.read
  unfold FileSystem.read at hread
  cases hopened : race.files.openFile path with
  | error errno =>
    rw [hopened] at hread
    cases hread
  | ok number => exact ⟨number, hopened⟩

/-- What is there to be read is complete. -/
theorem read_of_present {tokens : List CachedToken} {fs : FileSystem}
    (hshown : Shown path (Complete tokens) fs) (hpresent : Present path fs) :
    ∃ token ∈ tokens, fs.read path = .ok (payload token) := by
  obtain ⟨number, hopened⟩ := hpresent
  rcases hshown with hmissing | ⟨number', _, hopened', hcontent, token, hlisted, rfl⟩
  · rw [hopened] at hmissing
    cases hmissing
  · refine ⟨token, hlisted, ?_⟩
    simp [FileSystem.read, hopened', hcontent.contentOf_eq, Except.map]

/-- What there is to be read is loaded as a complete token. -/
theorem load_of_shown {tokens : List CachedToken} {fs : FileSystem} {store : FileStore}
    (hshown : Shown store.path (Complete tokens) fs) :
    store.load fs = .ok none ∨
      ∃ token ∈ tokens, store.load fs = (CacheFile.recalled token).map some := by
  by_cases hmissing : fs.openFile store.path = .error .notFound
  · left
    apply store.load_of_missing
    rw [FileSystem.read, hmissing]
    rfl
  · right
    obtain ⟨number, hopened⟩ := hshown.present hmissing
    obtain ⟨token, hlisted, hread⟩ := read_of_present hshown ⟨number, hopened⟩
    exact ⟨token, hlisted, by rw [store.load_of_read hread, store.decode_payload]⟩

/-- Whoever has opened the cache file finds the same complete content in it from then on. -/
theorem content_of_opened {tokens : List CachedToken} {schedule : List Nat} {number : Nat}
    (hsound : Sound path (Complete tokens) race) (hsolitary : race.SolitaryAlong schedule)
    (hopened : race.files.openFile path = .ok number) :
    ∃ token ∈ tokens, ∀ further, further <+: schedule →
      (race.run further).files.contentOf number = payload token := by
  rcases hsound.shown with hmissing | ⟨number', _, hopened', hcontent, token, hlisted, rfl⟩
  · rw [hopened] at hmissing
    cases hmissing
  · rw [hopened] at hopened'
    cases hopened'
    refine ⟨token, hlisted, fun further hearly => ?_⟩
    have hsettled := FileStore.settled_of_openFile hsound.tree (hsound.apart.direct hsound.tree) hopened
      hcontent
    obtain ⟨rest, rfl⟩ := hearly
    exact (settled_run hsound hsolitary.of_append.1 hsettled).content.contentOf_eq

/-- At every point of a race of saves, of which no process ever has two under way:
a load finds nothing, or one of the tokens, complete;
a reader that has opened the cache file finds the content of one of the tokens in it, whenever it
reads and whatever the saves have done meanwhile;
and once there was a token, or a save has succeeded, the complete content of one of the tokens is in
the cache file. -/
theorem loads_complete {earlier : Option CachedToken} (hstarts : race.Starts path earlier)
    {schedule front : List Nat} (hsolitary : race.SolitaryAlong schedule)
    (hearly : front <+: schedule) :
    (∀ store : FileStore, store.path = path →
      store.load (race.run front).files = .ok none ∨
        ∃ token ∈ race.tokens earlier,
          store.load (race.run front).files = (CacheFile.recalled token).map some) ∧
    (∀ number, (race.run front).files.openFile path = .ok number →
      ∃ token ∈ race.tokens earlier, ∀ further, front ++ further <+: schedule →
        (race.run (front ++ further)).files.contentOf number = payload token) ∧
    (earlier.isSome ∨ (∃ writer ∈ (race.run front).writers, writer.stage.Replaced) →
      ∃ token ∈ race.tokens earlier, (race.run front).files.read path = .ok (payload token)) := by
  obtain ⟨remaining, rfl⟩ := hearly
  obtain ⟨hsoFar, honwards⟩ := hsolitary.of_append
  have hsound := sound_run hstarts.sound hsoFar
  refine ⟨?_, ?_, ?_⟩
  · rintro store rfl
    exact load_of_shown hsound.shown
  · intro number hopened
    obtain ⟨token, hlisted, hsame⟩ := content_of_opened hsound honwards hopened
    refine ⟨token, hlisted, fun further hcontinues => ?_⟩
    rw [run_append]
    exact hsame further ((List.prefix_append_right_inj front).1 hcontinues)
  · intro hthere
    apply read_of_present hsound.shown
    rcases hthere with hsaved | ⟨writer, hlisted, hreplaced⟩
    · exact present_run hstarts.sound hsoFar (hstarts.present hsaved)
    · obtain ⟨i, hfound⟩ := List.mem_iff_getElem?.1 hlisted
      exact hsound.replaced i writer hfound hreplaced

/-- A save of one process that has not begun. -/
def newcomer (process : Nat) (secret : String) : Writer :=
  ⟨⟨"t.json", process⟩, ⟨⟨secret⟩, FileStore.sampleToken.createdAt⟩, .nothing, .prepare⟩

/-- Two saves in an empty current directory. -/
def duel (first second : Nat) : Race :=
  ⟨FileSystem.start, [newcomer first "longer", newcomer second "new"]⟩

theorem duel_starts (first second : Nat) : (duel first second).Starts "t.json" none := by
  refine ⟨FileSystem.start_isTree, FileStore.apart_of_linkless FileSystem.start_linkless,
    .inl ⟨⟨["work", "t.json"], true, false⟩, rfl⟩, rfl, ?_⟩
  intro writer hlisted
  simp only [duel, List.mem_cons, List.not_mem_nil, or_false] at hlisted
  rcases hlisted with rfl | rfl
  · exact ⟨rfl, rfl⟩
  · exact ⟨rfl, rfl⟩

/-- Two processes save at the same time, operation by operation. -/
theorem loads_complete_duel :
    let race := duel 7 8
    let schedule := [0, 1, 0, 1, 0, 1, 0, 1, 0, 1, 0, 1]
    race.Starts "t.json" none ∧ race.SolitaryAlong schedule ∧
      (∃ writer ∈ (race.run schedule).writers, writer.stage.Replaced) ∧
      ∃ token ∈ race.tokens none, (race.run schedule).files.read "t.json" = .ok (payload token) := by
  intro race schedule
  have hsolitary : race.SolitaryAlong schedule := solitaryAlong_of_nodup (by decide) schedule
  have hreplaced : ∃ writer ∈ (race.run schedule).writers, writer.stage.Replaced := by
    decide +kernel
  have hstarts : race.Starts "t.json" none := duel_starts 7 8
  obtain ⟨-, -, hsaved⟩ := loads_complete hstarts hsolitary (List.prefix_refl schedule)
  exact ⟨hstarts, hsolitary, hreplaced, hsaved (.inr hreplaced)⟩

/-- A token of the last instant of all. -/
def lastToken : CachedToken := ⟨⟨"t"⟩, ⟨253402300799999999999, by decide⟩⟩

/-- Two saves of one process share a sibling: the second empties it before the first puts it in place,
and then nothing can be loaded.  And the time of the last instant is recorded as a time that has no
instant, so that a token of a save with which nothing interferes cannot be loaded. -/
theorem crowded_torn :
    let race := duel 7 7
    let torn := race.run [0, 0, 0, 0, 1, 1, 0]
    let store : FileStore := ⟨"t.json", 7⟩
    let saved := store.save lastToken .nothing FileSystem.start
    (race.Starts "t.json" none ∧ (torn.files.read "t.json").toOption = some [] ∧
      (store.load torn.files).toOption = none) ∧
    saved.2.toOption = some () ∧ (store.load saved.1).toOption = none := by
  refine ⟨⟨duel_starts 7 7, ?_, ?_⟩, ?_, ?_⟩
  all_goals decide +kernel

end Race

end InstanceIdentity
