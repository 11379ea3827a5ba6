import InstanceIdentity.Proofs.Collection.Simulation
import InstanceIdentity.Proofs.Provider.Validity
import InstanceIdentity.Proofs.Store.Seconds
import InstanceIdentity.Proofs.Store.Success

/-!
# A cache file in the place of a store in memory

A cache file mirrors a store in memory when there is no file as long as the store is empty, and a file
with the content of the token that the store holds from then on.  Where the clock shows whole seconds
that content is read back as the token it was written for, so that the file and the store are loaded
alike, and saves that succeed keep the mirror.

Main results:

- Theorem `mirrors_simulation`: a store in memory simulates the cache file that mirrors it.
- Theorem `file_refines_memory`: collectors do not tell a cache file from a store in memory.
-/

namespace InstanceIdentity.Collection

open Http (Transport Script)
open CacheFile (WholeSecond)

/-- What a cache file is read as. -/
def Mirrors (mounted : MountedStore) (memory : MemoryStore) : Prop :=
  mounted.files.Numbered ∧
    match memory.cell with
    | none => mounted.files.read mounted.store.path = .error .notFound
    | some token => mounted.files.read mounted.store.path = .ok (FileStore.payload token) ∧
        CacheFile.recalled token = .ok token

/-- A save that succeeds, at a whole second. -/
def Kept (token : CachedToken) (outcome : Except StoreError Unit) : Prop :=
  WholeSecond token.createdAt ∧ outcome = .ok ()

instance instNonemptyMemoryStore : Nonempty MemoryStore := ⟨{}⟩

variable {mounted : MountedStore} {memory : MemoryStore}

/-- The cache file and the store are loaded alike. -/
theorem Mirrors.load (h : Mirrors mounted memory) :
    mounted.store.load mounted.files = .ok memory.cell := by
  obtain ⟨cell⟩ := memory
  obtain ⟨-, hmirrored⟩ := h
  cases cell with
  | none => exact mounted.store.load_of_missing hmirrored
  | some token =>
    obtain ⟨hread, hrecalled⟩ := hmirrored
    rw [mounted.store.load_of_read hread, mounted.store.decode_payload, hrecalled]
    rfl

/-- After a save that succeeds the cache file mirrors a store that holds the token. -/
theorem Mirrors.saved {token : CachedToken} (h : Mirrors mounted memory)
    (hkept : Kept token (TokenStore.save token mounted).1) :
    Mirrors (TokenStore.save token mounted).2 ⟨some token⟩ := by
  obtain ⟨hwhole, hsucceeded⟩ := hkept
  obtain ⟨hread, hnumbered⟩ := FileStore.read_of_saved h.1 hsucceeded
  exact ⟨hnumbered, hread, CacheFile.recalled_of_whole hwhole⟩

/-- A store in memory simulates the cache file that mirrors it. -/
theorem mirrors_simulation : Simulation Kept Mirrors where
  load h := ⟨h.load, h⟩
  save _ h hkept := ⟨hkept.2, h.saved hkept⟩

/-- A process takes a cache file over from the one before. -/
def takeOver (process : Nat) (mounted : MountedStore) : MountedStore :=
  { mounted with store := { mounted.store with process } }

/-- No process takes over anything of a cache file but its path. -/
theorem Mirrors.takeOver (process : Nat) (h : Mirrors mounted memory) :
    Mirrors (takeOver process mounted) memory := h

/-- Collectors do not tell a cache file from a store in memory.  They come one after the other, each in
its process, over a cache file that is not there at first, on any file system on which every place that
leads to a file leads to one that there is.  When the clock shows whole seconds in all of their calls, and
all of their saves succeed, then they return, remember and do the same over a store in memory that is
empty at first. -/
theorem file_refines_memory {τ : Type} [Transport τ] (d : Descriptor) (store : FileStore)
    (files : FileSystem) (transport : τ) (collectors : List (Nat × List Visit))
    (hnumbered : files.Numbered) (habsent : files.read store.path = .error .notFound)
    (hwhole : ∀ collector ∈ collectors, ∀ v ∈ collector.2, WholeSecond v.now)
    (hsucceed : ∀ life ∈ lives d takeOver ⟨store, files⟩ transport collectors,
      ∀ token outcome, .saved token outcome ∈ life.log → outcome = .ok ()) :
    lives d takeOver ⟨store, files⟩ transport collectors =
      lives d (fun _ memory => memory) ({} : MemoryStore) transport collectors := by
  have hempty : Mirrors ⟨store, files⟩ {} := ⟨hnumbered, habsent⟩
  refine lives_eq d mirrors_simulation (fun process _ _ h => h.takeOver process) hempty transport
    collectors fun life hlife token outcome hsaved => ⟨?_, hsucceed life hlife token outcome hsaved⟩
  obtain ⟨collector, hcollector, v, hvisit, hcreated⟩ :=
    createdAt_of_saved_lives d takeOver _ transport collectors hlife hsaved
  rw [hcreated]
  exact hwhole collector hcollector v hvisit

/-- The failure of a save. -/
def Action.unsaved? : Action → Option StoreError
  | .saved _ (.error error) => some error
  | _ => none

/-- A process is issued a token and saves it in a cache file.  The next process finds it there and asks
for no other. -/
theorem file_refines_memory_restarted :
    let gate := Descriptor.linkLocalGate
    let token := gate.sessionOf ⟨⟨"first"⟩, .minute 0⟩
    let transport : Script := ⟨[.ok ⟨200, "first"⟩]⟩
    let collectors : List (Nat × List Visit) := [(1, [⟨.minute 0, .token⟩]), (2, [⟨.minute 1, .token⟩])]
    (lives Descriptor.linkLocal takeOver ⟨⟨"cache/token", 0⟩, .start⟩ transport collectors).map
        Life.outcomes =
      [[(.ok (.secret (some ⟨"first"⟩)), some token)], [(.ok (.secret (some ⟨"first"⟩)),
        some token)]] := by
  intro gate token transport collectors
  have hwhole : ∀ collector ∈ collectors, ∀ v ∈ collector.2, WholeSecond v.now := by
    intro collector hcollector v hvisit
    simp only [collectors, List.mem_cons, List.not_mem_nil, or_false] at hcollector
    rcases hcollector with rfl | rfl <;> cases List.mem_singleton.1 hvisit
    · exact ⟨1735689600, by decide, rfl⟩
    · exact ⟨1735689660, by decide, rfl⟩
  have hsucceed : (lives Descriptor.linkLocal takeOver ⟨⟨"cache/token", 0⟩, .start⟩ transport
      collectors).flatMap (fun life => life.log.filterMap Action.unsaved?) = [] := by
    decide +kernel
  have habsent : FileSystem.start.read "cache/token" = .error .notFound := by rfl
  rw [file_refines_memory Descriptor.linkLocal ⟨"cache/token", 0⟩ .start transport collectors
    FileSystem.start_numbered habsent hwhole ?_]
  · rfl
  · intro life hlife token outcome hsaved
    cases outcome with
    | ok done => rfl
    | error error =>
      have hunsaved : error ∈ life.log.filterMap Action.unsaved? :=
        List.mem_filterMap.2 ⟨_, hsaved, rfl⟩
      have hfailed := List.mem_flatMap_of_mem (f := fun life => life.log.filterMap Action.unsaved?)
        hlife hunsaved
      rw [hsucceed] at hfailed
      cases hfailed

end InstanceIdentity.Collection
