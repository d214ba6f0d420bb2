import Conformance.Proofs.Files.Writing
import Conformance.Proofs.History.Discovery

/-!
# What storing histories does to the files

Storing histories writes one file. It holds their text afterwards, and no other file is created,
changed or removed.

## Main definitions

- `FixtureStore.Written` — one file of a store has been written

## Main statements

- `FixtureStore.written_of_store` — what storing does if it succeeds
-/

namespace Conformance.FixtureStore

variable {s : FixtureStore} {version path : String} {histories : List History}
  {files files' : FileTree}

/-- Directories are made as far as they are missing, and then the file is written. -/
theorem store_eq_ok (h : s.store files version histories = (.ok path, files')) :
    path = s.pathOf version ∧ ∃ grown, files.Grown grown ∧
      files.makeAll (Text.bytesOf s.dir) = (.ok (), grown) ∧
      grown.write (Text.bytesOf (s.pathOf version)) (Text.bytesOf (fileText histories)) =
        .ok files' := by
  have hgrown := files.grown_makeAll (Text.bytesOf s.dir)
  unfold store at h
  split at h
  · cases h
  · rename_i grown hmake
    rw [hmake] at hgrown
    dsimp only at h
    split at h
    · cases h
    · rename_i hwrite
      cases h
      exact ⟨rfl, grown, hgrown, hmake, hwrite⟩

/-- Once the directory is there, histories are stored if their file can be written. -/
theorem store_of_target {ready : FileTree} {loc : Location}
    (hmade : files.makeAll (Text.bytesOf s.dir) = (.ok (), ready))
    (htarget : ready.target (Text.bytesOf (s.pathOf version)) = .ok loc)
    (histories : List History) :
    s.store files version histories =
      (.ok (s.pathOf version), ready.put loc (.file (Text.bytesOf (fileText histories)))) := by
  have hwrite : ready.write (Text.bytesOf (s.pathOf version))
      (Text.bytesOf (fileText histories)) =
        .ok (ready.put loc (.file (Text.bytesOf (fileText histories)))) := by
    rw [FileTree.write, htarget]
    rfl
  unfold store
  rw [hmade]
  dsimp only
  rw [← pathOf, hwrite]

/-- The file of a version holds the text of histories, and all other files are what they were. -/
structure Written (s : FixtureStore) (version : String) (histories : List History)
    (files files' : FileTree) : Prop where
  text : files'.readText (Text.bytesOf (s.pathOf version)) = .ok (fileText histories)
  others : ∃ loc, files'.locate (Text.bytesOf (s.pathOf version)) = .ok loc ∧
    ∀ l, l ≠ loc → files'.content? l = files.content? l

theorem written_of_store (h : s.store files version histories = (.ok path, files')) :
    s.Written version histories files files' := by
  obtain ⟨-, grown, hgrown, -, hwrite⟩ := store_eq_ok h
  obtain ⟨loc, hlocate, -, hothers⟩ := FileTree.content?_of_write hwrite
  refine ⟨?_, loc, hlocate, fun l hl => (hothers l hl).trans (hgrown.content? l)⟩
  unfold FileTree.readText
  simp only [FileTree.read_of_write hwrite, bind, Except.bind, Text.ofBytes?_eq_some_iff.mpr rfl]
  rfl

end Conformance.FixtureStore
