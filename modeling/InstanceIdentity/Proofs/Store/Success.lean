import InstanceIdentity.Proofs.Store.Replacement

/-!
# Saves that succeed

After a save that succeeds the cache file has the content that was saved, on any file system on which
every place that leads to a file leads to one that there is.  This is so afterwards too, so that such a
save can be followed by another.

Main results:

- Theorem `FileStore.read_of_saved`: what is read after a save that succeeds.
-/

namespace InstanceIdentity

namespace FileSystem

variable {fs later : FileSystem} {path source : String} {mode number : Nat}

theorem start_numbered : start.Numbered := start_isTree.numbered

theorem Grown.numbered (hgrown : Grown path fs later) (h : fs.Numbered) : later.Numbered := by
  intro place number hentry
  rw [hgrown.files]
  rcases hgrown.entries place with hsame | ⟨-, hdirectory, -⟩
  · exact h place number (hsame ▸ hentry)
  · exact absurd hdirectory (not_hasDirectory_of_file hentry)

theorem Renames.numbered (hrenames : Renames fs source path later) (h : fs.Numbered) :
    later.Numbered := by
  intro place number hentry
  rw [hrenames.files_eq]
  rcases hrenames.entry_cases hentry with hsame | ⟨old, -, hsame⟩
  · exact h _ number hsame
  · exact h _ number hsame

theorem numbered_modifyFile (h : fs.Numbered) (number : Nat) (f : FileData → FileData) :
    (fs.modifyFile number f).Numbered := by
  intro place other hentry
  have hbounded := h place other hentry
  simpa [modifyFile] using hbounded

end FileSystem

namespace FileStore

variable {store : FileStore} {token : CachedToken} {interference : Interference}
  {fs made now : FileSystem}

theorem Filling.all_numbered {target : FileSystem.Target} {number : Nat} {content : List UInt8}
    (hfilling : store.Filling made now target number content) (h : made.Numbered) : now.Numbered := by
  intro place other hentry
  by_cases hown : place = target.place
  · subst hown
    cases hfilling.entry.symm.trans hentry
    exact hfilling.numbered h
  · rw [hfilling.places place hown] at hentry
    exact Nat.lt_of_lt_of_le (h place other hentry) hfilling.continues.files

/-- The points at which a save has succeeded. -/
theorem Replaced.succeeded (h : Replaced store token interference made now (.finished (.ok ())))
    (hnumbered : made.Numbered) : now.read store.path = .ok (payload token) ∧ now.Numbered := by
  cases h with
  | @restricted filled placed now target number hfilling hrenames hrestricts hgranted =>
    have hopened := hfilling.openFile_of_restricts hrenames hrestricts
    have hbounded := hfilling.numbered hnumbered
    obtain ⟨data, hfound⟩ : ∃ data, filled.files[number]? = some data :=
      ⟨_, List.getElem?_eq_getElem hbounded⟩
    have hcontent := hfilling.content data hfound
    have hall := hrenames.numbered (hfilling.all_numbered hnumbered)
    rw [hrestricts.eq_of_openFile hopened]
    refine ⟨?_, FileSystem.numbered_modifyFile hall number _⟩
    rw [← hrenames.files_eq] at hfound
    have hchanged := FileSystem.files_modifyFile placed number number fun file =>
      { file with mode := ownerOnly }
    rw [if_pos rfl, hfound] at hchanged
    rw [FileSystem.read_of_openFile (FileSystem.openFile_modifyFile number _ hopened) hchanged,
      ← hcontent]

/-- After a save that succeeds the cache file has the content that was saved. -/
theorem read_of_saved (hnumbered : fs.Numbered) (hsucceeded : (store.save token interference fs).2 =
    .ok ()) :
    (store.save token interference fs).1.read store.path = .ok (payload token) ∧
      (store.save token interference fs).1.Numbered := by
  have hmade := (store.prepared_afterDirectories token interference fs).1.grown.numbered hnumbered
  have hpoint := store.save_point token interference fs
  rw [hsucceeded] at hpoint
  rcases hpoint with ⟨-, hreplaced⟩ | ⟨-, hpreparing⟩
  · exact hreplaced.succeeded hmade
  · obtain ⟨error, hfailed⟩ := hpreparing.failed
    cases hfailed

end FileStore

end InstanceIdentity
