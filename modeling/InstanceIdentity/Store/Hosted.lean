import InstanceIdentity.Provider.Descriptor
import InstanceIdentity.Store.FileStore

/-!
# Stores on a host

The stores among which a host chooses: in memory, in a file, one that cannot be written, and one that
can neither be written nor read.
-/

namespace InstanceIdentity

/-- Where a host keeps a token. -/
inductive Medium where
  | memory (store : MemoryStore)
  | file (store : FileStore)
  /-- A store that cannot be written. -/
  | readOnly (store : MemoryStore)
  /-- A store that cannot be used at all. -/
  | unusable
  deriving DecidableEq

/-- A medium on a host with a file system. -/
structure HostedStore where
  medium : Medium
  files : FileSystem

namespace HostedStore

/-- Why a store cannot be read. -/
def unreadable : StoreError := .backend "cache unreadable"

/-- Why a store cannot be written. -/
def unwritable : StoreError := .backend "cache read-only"

instance : TokenStore HostedStore where
  load hosted :=
    match hosted.medium with
    | .memory store | .readOnly store => (.ok store.cell, hosted)
    | .file store => (store.load hosted.files, hosted)
    | .unusable => (.error unreadable, hosted)
  save token hosted :=
    match hosted.medium with
    | .memory store => (.ok (), { hosted with medium := .memory (TokenStore.save token store).2 })
    | .file store =>
      let (files, outcome) := store.save token .nothing hosted.files
      (outcome, { hosted with files })
    | .readOnly _ | .unusable => (.error unwritable, hosted)

end HostedStore

/-- The medium that a descriptor asks for: the file of its token gate, if it names one. -/
def Descriptor.medium (d : Descriptor) (process : Nat) : Medium :=
  match d.gate?.bind (·.cachePath) with
  | some path => .file { path, process }
  | none => .memory {}

end InstanceIdentity
