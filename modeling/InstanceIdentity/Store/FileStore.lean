import InstanceIdentity.Store.CacheFile
import InstanceIdentity.Store.FileSystem

/-!
# Token stores in files

A file store is shared by all processes of a host.  Saving writes the new content to a temporary
sibling that is named after the process, and then gives it the place of the cache file, so that the
content changes at once.  Saving is a sequence of operations on the file system, each of which may be
refused and between any two of which others may act.
-/

namespace InstanceIdentity

/-- A cache file, as used by one process. -/
structure FileStore where
  path : String
  process : Nat
  deriving DecidableEq

namespace FileStore

/-- The permission bits of a cache file: its owner may read and write it. -/
def ownerOnly : Nat := 0o600

/-- The sibling in which a process prepares the next content. -/
def temporary (store : FileStore) : String :=
  Path.withFileName store.path
    ((Path.fileName? store.path).getD "" ++ "." ++ toString store.process ++ ".tmp")

/-- A failure of the medium. -/
def failed (what path : String) (errno : Errno) : StoreError :=
  .backend ("Failed to " ++ what ++ " " ++ path ++ ": " ++ errno.message)

/-! ## Loading -/

/-- The token in the content of the cache file. -/
def decode (store : FileStore) (bytes : List UInt8) : Except StoreError CachedToken :=
  match String.fromUTF8? ⟨bytes.toArray⟩ with
  | some content => CacheFile.parse store.path content
  | none => .error (failed "read" store.path (.other "stream did not contain valid UTF-8"))

/-- The token in the cache file; none when there is no file. -/
def load (store : FileStore) (fs : FileSystem) : Except StoreError (Option CachedToken) :=
  match fs.read store.path with
  | .ok bytes => (store.decode bytes).map some
  | .error .notFound => .ok none
  | .error errno => .error (failed "read" store.path errno)

/-! ## Saving -/

/-- The operations of which a save consists. -/
inductive Operation where
  | makeDirectories
  | create
  | write
  | sync
  | rename
  | restrict
  | discard
  deriving DecidableEq

/-- Operations that the system refuses, whatever their arguments, and how far they came: the bytes
that a refused write has written, and the directories right above the lowest that were not made
either when that one was refused. -/
structure Interference where
  refuses : Operation → Option Errno := fun _ => none
  written : Nat := 0
  unmade : Nat := 0

/-- Nothing is refused. -/
def Interference.nothing : Interference := {}

/-- How far a save has come. -/
inductive Stage where
  | prepare
  | create
  | write (file : Nat)
  | sync (file : Nat)
  | rename
  | restrict
  | discard (error : StoreError)
  | finished (result : Except StoreError Unit)

/-- The number of operations that a save may still need. -/
def Stage.left : Stage → Nat
  | .prepare => 7
  | .create => 6
  | .write _ => 5
  | .sync _ => 4
  | .rename => 3
  | .restrict => 2
  | .discard _ => 1
  | .finished _ => 0

/-- The result of a save that has come to its end. -/
def Stage.result? : Stage → Option (Except StoreError Unit)
  | .finished result => some result
  | _ => none

/-- The outcome of an operation that may be refused. -/
def Interference.allow {α : Type} (interference : Interference) (operation : Operation)
    (outcome : Except Errno α) : Except Errno α :=
  match interference.refuses operation with
  | some errno => .error errno
  | none => outcome

/-- The directory that has to exist before the cache file can. -/
def directory? (store : FileStore) : Option String := (Path.parent? store.path).filter (· != "")

/-- The bytes of a cache file. -/
def payload (token : CachedToken) : List UInt8 := (CacheFile.render token).toUTF8.toList

/-- One operation of a save. -/
def step (store : FileStore) (token : CachedToken) (interference : Interference)
    (fs : FileSystem) : Stage → FileSystem × Stage
  | .prepare =>
    match store.directory? with
    | none => (fs, .create)
    | some directory =>
      match interference.refuses .makeDirectories with
      | none =>
        match fs.makeDirectories directory with
        | (made, .ok ()) => (made, .create)
        | (made, .error errno) =>
          (made, .finished (.error (failed "create cache directory" directory errno)))
      | some errno =>
        (fs.makeAbove (interference.unmade + 1) directory,
          .finished (.error (failed "create cache directory" directory errno)))
  | .create =>
    match interference.allow .create (fs.create store.temporary ownerOnly) with
    | .ok (file, created) => (created, .write file)
    | .error errno => (fs, .discard (failed "create" store.temporary errno))
  | .write file =>
    match interference.refuses .write with
    | none => (fs.write file (payload token), .sync file)
    | some errno =>
      (fs.write file ((payload token).take interference.written),
        .discard (failed "write" store.temporary errno))
  | .sync _ =>
    match interference.refuses .sync with
    | none => (fs, .rename)
    | some errno => (fs, .discard (failed "sync" store.temporary errno))
  | .rename =>
    match interference.allow .rename (fs.rename store.temporary store.path) with
    | .ok renamed => (renamed, .restrict)
    | .error errno => (fs, .discard (failed "replace" store.path errno))
  | .restrict =>
    match interference.allow .restrict (fs.setMode store.path ownerOnly) with
    | .ok restricted => (restricted, .finished (.ok ()))
    | .error errno => (fs, .finished (.error (failed "restrict" store.path errno)))
  | .discard error =>
    match interference.allow .discard (fs.remove store.temporary) with
    | .ok removed => (removed, .finished (.error error))
    | .error _ => (fs, .finished (.error error))
  | .finished result => (fs, .finished result)

/-- Every operation brings a save closer to its end. -/
theorem step_left_lt (store : FileStore) (token : CachedToken) (interference : Interference)
    (fs : FileSystem) (stage : Stage) (h : 0 < stage.left) :
    (store.step token interference fs stage).2.left < stage.left := by
  cases stage with
  | finished result => exact absurd h (Nat.lt_irrefl 0)
  | _ =>
    simp only [step]
    repeat' split
    all_goals simp [Stage.left]

/-- Carries a save from a stage to its end. -/
def finish (store : FileStore) (token : CachedToken) (interference : Interference)
    (fs : FileSystem) (stage : Stage) : FileSystem × Except StoreError Unit :=
  match _h : stage.result? with
  | some result => (fs, result)
  | none =>
    let next := store.step token interference fs stage
    store.finish token interference next.1 next.2
termination_by stage.left
decreasing_by
  exact step_left_lt store token interference fs stage
    (by cases stage <;> simp_all [Stage.result?, Stage.left])

/-- Replaces the token in the cache file. -/
def save (store : FileStore) (token : CachedToken) (interference : Interference)
    (fs : FileSystem) : FileSystem × Except StoreError Unit :=
  store.finish token interference fs .prepare

end FileStore

/-- A file store on the file system that holds its file. -/
structure MountedStore where
  store : FileStore
  files : FileSystem

instance : TokenStore MountedStore where
  load mounted := (mounted.store.load mounted.files, mounted)
  save token mounted :=
    let (files, result) := mounted.store.save token .nothing mounted.files
    (result, { mounted with files })

end InstanceIdentity
