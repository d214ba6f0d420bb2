import Conformance.Proofs.History.PastReplays

/-!
# Directories in another order

A tree of files may list its entries in any order. Whatever is looked up in it stays the same, and so
does every check of stored histories.

## Main definitions

- `FileTree.Reordered` — two trees that differ in the order of their entries only

## Main statements

- `FileTree.Reordered.find_eq` — every path denotes the same
- `FixtureStore.alike_of_reordered` — the same fixtures are in both trees
- `FixtureStore.check_reordered` — a check of stored histories ends in the same way
-/

namespace Conformance

/-! ## Tables -/

namespace Table

variable {κ α : Type} [DecidableEq κ]

/-- Where no key is there twice, what is found is what is there. -/
theorem find?_eq_some_iff {entries : List (κ × α)} (hnodup : (entries.map (·.1)).Nodup) {key : κ}
    {value : α} : find? key entries = some value ↔ (key, value) ∈ entries := by
  induction entries with
  | nil => simp [find?]
  | cons e rest ih =>
    obtain ⟨k, v⟩ := e
    rw [List.map_cons, List.nodup_cons] at hnodup
    rw [find?, List.mem_cons, Prod.mk.injEq]
    by_cases hk : k = key
    · subst hk
      have hnot : (k, value) ∉ rest := fun hmem =>
        hnodup.1 (List.mem_map.mpr ⟨_, hmem, rfl⟩)
      rw [if_pos rfl, Option.some.injEq, or_iff_left hnot, and_iff_right rfl, eq_comm]
    · rw [if_neg hk, ih hnodup.2]
      exact (or_iff_right fun h => hk h.1.symm).symm

theorem find?_of_perm {entries entries' : List (κ × α)} (hperm : entries'.Perm entries)
    (hnodup : (entries.map (·.1)).Nodup) (key : κ) : find? key entries' = find? key entries := by
  have hnodup' : (entries'.map (·.1)).Nodup := (hperm.map _).nodup_iff.mpr hnodup
  refine Option.ext fun value => ?_
  rw [find?_eq_some_iff hnodup', find?_eq_some_iff hnodup, hperm.mem_iff]

end Table

/-! ## Trees of files -/

namespace FileTree

/-- The trees differ in the order of their entries only, of which there is one for each location. -/
structure Reordered (t t' : FileTree) : Prop where
  perm : t'.nodes.entries.Perm t.nodes.entries
  nodup : t.nodes.keys.Nodup
  current : t'.current = t.current

section

variable {t t' : FileTree} (h : t.Reordered t')

include h

theorem Reordered.node?_eq (loc : Location) : t'.node? loc = t.node? loc := by
  unfold node? Table.get?
  rw [Table.find?_of_perm h.perm h.nodup]

theorem Reordered.walk_eq (loc : Location) (names : List FileName) :
    t'.walk loc names = t.walk loc names := by
  induction names generalizing loc with
  | nil => rfl
  | cons name names ih =>
    unfold walk
    simp only [h.node?_eq, ih]

/-- Every path denotes the same. -/
theorem Reordered.find_eq (path : RawPath) : t'.find path = t.find path := by
  unfold find locate
  simp only [h.walk_eq, h.node?_eq, h.current]

/-- The entries of a directory are listed in another order. -/
theorem Reordered.list_cases (path : RawPath) :
    (∃ e, t'.list path = .error e ∧ t.list path = .error e) ∨
      ∃ entries entries', t'.list path = .ok entries' ∧ t.list path = .ok entries ∧
        entries'.Perm entries := by
  unfold list
  rw [h.find_eq]
  cases t.find path with
  | error e => exact .inl ⟨e, rfl, rfl⟩
  | ok found =>
    obtain ⟨loc, node⟩ := found
    cases node with
    | file _ => exact .inl ⟨.notDirectory, rfl, rfl⟩
    | directory => exact .inr ⟨_, _, rfl, rfl, h.perm.filterMap _⟩

end

end FileTree

/-! ## Checks -/

namespace FixtureStore

variable {s : FixtureStore} {files files' : FileTree}

theorem stands_of_reordered (h : files.Reordered files') {raw : String} :
    s.Stands files' raw ↔ s.Stands files raw := by
  unfold Stands FileTree.isFile
  rw [h.find_eq]

/-- The same fixtures are in trees that differ in the order of their entries. -/
theorem alike_of_reordered (h : files.Reordered files') (current : Version) :
    s.Alike current files files' where
  enumerable := by
    unfold Enumerable
    rcases h.list_cases (Text.bytesOf s.dir) with
      ⟨e, herror', herror⟩ | ⟨entries, entries', hok', hok, -⟩
    · rw [herror, herror']
    · rw [hok, hok']
      simp
  holds := by
    intro raw _
    unfold Holds Among
    simp only [stands_of_reordered h]
    rcases h.list_cases (Text.bytesOf s.dir) with
      ⟨e, herror', herror⟩ | ⟨entries, entries', hok', hok, hperm⟩
    · rw [herror, herror']
    · rw [hok, hok']
      simp only [Except.ok.injEq, exists_eq_left', (hperm.map (·.1)).mem_iff]
  content := by
    intro raw v _
    unfold FileTree.read
    rw [h.find_eq]

/-- Neither the verdict of a check nor the version that it names depends on the order in which a
directory is listed. -/
theorem check_reordered (h : files.Reordered files') (current : Version) (w : Worker) :
    (s.check files current w = .ok () ↔ s.check files' current w = .ok ()) ∧
      ∀ v, (∃ reason, s.check files current w = .error (.replay (some v) reason)) ↔
        ∃ reason, s.check files' current w = .error (.replay (some v) reason) :=
  (alike_of_reordered h current).check_iff

end FixtureStore

end Conformance
