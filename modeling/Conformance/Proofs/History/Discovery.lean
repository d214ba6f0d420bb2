import Conformance.History.Fixtures
import Conformance.Proofs.Version.Order

/-!
# Which files are fixtures

A directory is searched for the files of one SDK. What is found is a matter of the names in it that
stand for files of this SDK, and not of their order or of what else is there.

## Main definitions

- `FixtureStore.Holds` — the directory holds a file of this SDK
- `FixtureStore.Enumerable` — the directory is missing, or its entries can be listed

## Main statements

- `FixtureStore.versionText?_eq_some_iff` — the names of the files of an SDK
- `FixtureStore.discover_cases` — the fixtures are found if all their versions can be read
-/

namespace Conformance

namespace FixtureStore

variable {s : FixtureStore} {files : FileTree}

/-! ## Names of fixtures -/

theorem fileName_eq (s : FixtureStore) (raw : String) :
    s.fileName raw = String.ofList (s.nameStart.toList ++ (raw.toList ++ ".json".toList)) := by
  rw [String.ofList_append, String.ofList_append, String.ofList_toList, String.ofList_toList,
    String.ofList_toList, ← String.append_assoc]
  rfl

/-- A name stands for a version if it is the name of the file of this version. -/
theorem versionText?_eq_some_iff {name raw : String} :
    s.versionText? name = some raw ↔ name = s.fileName raw := by
  unfold versionText?
  dsimp only
  constructor
  · intro h
    split at h
    · rename_i hstart
      obtain ⟨rest, hrest⟩ := List.isPrefixOf_iff_prefix.mp hstart
      rw [← hrest, List.drop_left] at h
      split at h
      · rename_i hend
        obtain ⟨middle, hmiddle⟩ := List.isSuffixOf_iff_suffix.mp hend
        rw [← hmiddle, List.length_append, Nat.add_sub_cancel, List.take_left] at h
        cases h
        rw [fileName_eq, String.toList_ofList, hmiddle, hrest, String.ofList_toList]
      · cases h
    · cases h
  · intro h
    have hname : name.toList = s.nameStart.toList ++ (raw.toList ++ ".json".toList) := by
      rw [h, fileName_eq, String.toList_ofList]
    rw [hname, if_pos (List.isPrefixOf_iff_prefix.mpr (List.prefix_append ..)), List.drop_left,
      if_pos (List.isSuffixOf_iff_suffix.mpr (List.suffix_append ..)), List.length_append,
      Nat.add_sub_cancel, List.take_left, String.ofList_toList]

theorem fileName_inj {raw raw' : String} : s.fileName raw = s.fileName raw' ↔ raw = raw' := by
  refine ⟨fun h => ?_, fun h => h ▸ rfl⟩
  have hraw : s.versionText? (s.fileName raw) = some raw := versionText?_eq_some_iff.mpr rfl
  rw [h, versionText?_eq_some_iff.mpr rfl] at hraw
  exact (Option.some.inj hraw).symm

/-- The path of the file of a version. -/
def pathOf (s : FixtureStore) (raw : String) : String := Path.push s.dir (s.fileName raw)

/-- The name of the file of a version stands for a fixture if it denotes a file. -/
def Stands (s : FixtureStore) (files : FileTree) (raw : String) : Prop :=
  files.isFile (Text.bytesOf (s.pathOf raw)) = true

theorem fixtureOf?_of_stands {raw : String} (h : s.Stands files raw) :
    s.fixtureOf? files (Text.bytesOf (s.fileName raw)) =
      match Version.parse raw with
      | .ok version => .ok (some ⟨version, s.pathOf raw⟩)
      | .error e => .error (.invalidFixture (s.pathOf raw) ("has invalid version: " ++ e.message)) := by
  have hfile : files.isFile (Text.bytesOf (Path.push s.dir (s.fileName raw))) = true := h
  unfold fixtureOf?
  rw [Text.ofBytes?_eq_some_iff.mpr rfl]
  dsimp only
  rw [if_pos hfile, versionText?_eq_some_iff.mpr rfl]
  rfl

/-- All other names are passed over. -/
theorem fixtureOf?_of_other {name : FileName}
    (h : ∀ raw, name = Text.bytesOf (s.fileName raw) → ¬ s.Stands files raw) :
    s.fixtureOf? files name = .ok none := by
  unfold fixtureOf?
  cases htext : Text.ofBytes? name with
  | none => rfl
  | some text =>
    dsimp only
    rw [Text.ofBytes?_eq_some_iff] at htext
    cases hraw : s.versionText? text with
    | none => rw [ite_self]
    | some raw =>
      rw [versionText?_eq_some_iff] at hraw
      subst htext hraw
      exact if_neg (h raw rfl)

/-! ## Fixtures among names -/

theorem fixturesOf_cons (s : FixtureStore) (files : FileTree) (name : FileName)
    (names : List FileName) :
    s.fixturesOf files (name :: names) =
      match s.fixtureOf? files name with
      | .error e => .error e
      | .ok found =>
        match s.fixturesOf files names with
        | .error e => .error e
        | .ok others => .ok (found.toList ++ others) := by
  rw [fixturesOf]
  cases s.fixtureOf? files name with
  | error e => rfl
  | ok found => cases s.fixturesOf files names <;> rfl

/-- A text of a version among the names. -/
def Among (s : FixtureStore) (files : FileTree) (names : List FileName) (raw : String) : Prop :=
  Text.bytesOf (s.fileName raw) ∈ names ∧ s.Stands files raw

theorem among_cons {name : FileName} {names : List FileName} {raw : String} :
    s.Among files (name :: names) raw ↔
      name = Text.bytesOf (s.fileName raw) ∧ s.Stands files raw ∨ s.Among files names raw := by
  unfold Among
  rw [List.mem_cons, or_and_right, eq_comm]

/-- The fixtures `found` are those that belong to the given texts of versions. -/
structure Collects (s : FixtureStore) (holds : String → Prop) (found : List FixtureFile) : Prop where
  complete : ∀ raw, holds raw → ∃ v, Version.parse raw = .ok v ∧ ⟨v, s.pathOf raw⟩ ∈ found
  sound : ∀ f ∈ found, ∃ raw, holds raw ∧ Version.parse raw = .ok f.version ∧ f.path = s.pathOf raw

/-- The fixtures that names stand for are found, unless the version of one of them cannot be
read. -/
theorem fixturesOf_cases (s : FixtureStore) (files : FileTree) (names : List FileName) :
    (∃ found, s.fixturesOf files names = .ok found ∧ s.Collects (s.Among files names) found) ∨
      (∃ path reason, s.fixturesOf files names = .error (.invalidFixture path reason)) ∧
        ∃ raw, s.Among files names raw ∧ ∀ v, Version.parse raw ≠ .ok v := by
  induction names with
  | nil =>
    refine .inl ⟨[], rfl, ?_, fun f hf => nomatch hf⟩
    intro raw hraw
    exact absurd hraw.1 List.not_mem_nil
  | cons name names ih =>
    rw [fixturesOf_cons]
    -- a name stands for one fixture, or it is passed over
    by_cases hname : ∃ raw, name = Text.bytesOf (s.fileName raw) ∧ s.Stands files raw
    · obtain ⟨raw, rfl, hstands⟩ := hname
      rw [fixtureOf?_of_stands hstands]
      cases hparse : Version.parse raw with
      | error e =>
        refine .inr ⟨⟨_, _, rfl⟩, raw, among_cons.mpr (.inl ⟨rfl, hstands⟩), ?_⟩
        rw [hparse]
        nofun
      | ok v =>
        rcases ih with ⟨found, hfound, hcollects⟩ | ⟨⟨path, reason, herror⟩, bad, hbad, hparses⟩
        · rw [hfound]
          refine .inl ⟨_, rfl, ?_, ?_⟩
          · intro raw' hraw'
            rcases among_cons.mp hraw' with ⟨hsame, -⟩ | hraw'
            · rw [Text.bytesOf_inj, fileName_inj] at hsame
              subst hsame
              exact ⟨v, hparse, List.mem_cons_self ..⟩
            · obtain ⟨v', hv', hmem⟩ := hcollects.complete raw' hraw'
              exact ⟨v', hv', List.mem_cons_of_mem _ hmem⟩
          · intro f hf
            rcases List.mem_cons.mp hf with rfl | hf
            · exact ⟨raw, among_cons.mpr (.inl ⟨rfl, hstands⟩), hparse, rfl⟩
            · obtain ⟨raw', hraw', hrest⟩ := hcollects.sound f hf
              exact ⟨raw', among_cons.mpr (.inr hraw'), hrest⟩
        · rw [herror]
          exact .inr ⟨⟨path, reason, rfl⟩, bad, among_cons.mpr (.inr hbad), hparses⟩
    · have hother : ∀ raw, name = Text.bytesOf (s.fileName raw) → ¬ s.Stands files raw :=
        fun raw hraw hstands => hname ⟨raw, hraw, hstands⟩
      rw [fixtureOf?_of_other hother]
      have hskip : s.Among files (name :: names) = s.Among files names := by
        funext raw
        exact propext (among_cons.trans (or_iff_right fun h => hother raw h.1 h.2))
      rw [hskip]
      rcases ih with ⟨found, hfound, hcollects⟩ | ⟨⟨path, reason, herror⟩, hbad⟩
      · rw [hfound]
        exact .inl ⟨found, rfl, hcollects⟩
      · rw [herror]
        exact .inr ⟨⟨path, reason, rfl⟩, hbad⟩

/-! ## Fixtures in a directory -/

/-- The directory holds the file of a version. -/
def Holds (s : FixtureStore) (files : FileTree) (raw : String) : Prop :=
  ∃ entries, files.list (Text.bytesOf s.dir) = .ok entries ∧
    s.Among files (entries.map (·.1)) raw

/-- The directory is missing, or its entries can be listed. -/
def Enumerable (s : FixtureStore) (files : FileTree) : Prop :=
  files.list (Text.bytesOf s.dir) = .error .notFound ∨
    ∃ entries, files.list (Text.bytesOf s.dir) = .ok entries

/-- The versions of all fixtures can be read. -/
def Named (s : FixtureStore) (files : FileTree) : Prop :=
  ∀ raw, s.Holds files raw → ∃ v, Version.parse raw = .ok v

/-- The fixtures in the directory are found, unless it cannot be listed or the version of one of
them cannot be read. -/
theorem discover_cases (s : FixtureStore) (files : FileTree) :
    (∃ found, s.discover files = .ok found ∧ s.Enumerable files ∧
        s.Collects (s.Holds files) found) ∨
      (∃ e, s.discover files = .error e ∧ (∀ version reason, e ≠ .replay version reason)) ∧
        ¬ (s.Enumerable files ∧ s.Named files) := by
  unfold discover
  cases hlist : files.list (Text.bytesOf s.dir) with
  | error e =>
    by_cases he : e = .notFound
    · subst he
      refine .inl ⟨[], rfl, .inl hlist, ?_, fun f hf => nomatch hf⟩
      rintro raw ⟨entries, hentries, -⟩
      rw [hlist] at hentries
      cases hentries
    · refine .inr ⟨⟨.io e.message, by cases e <;> first | rfl | exact absurd rfl he, nofun⟩, ?_⟩
      rintro ⟨(hmissing | ⟨entries, hentries⟩), -⟩
      · exact he (Except.error.inj (hlist.symm.trans hmissing))
      · exact nomatch hlist.symm.trans hentries
  | ok entries =>
    have hholds : s.Holds files = s.Among files (entries.map (·.1)) := by
      funext raw
      refine propext ⟨?_, fun h => ⟨entries, hlist, h⟩⟩
      rintro ⟨entries', heq, h⟩
      rwa [Except.ok.inj (hlist.symm.trans heq)]
    rcases s.fixturesOf_cases files (entries.map (·.1)) with
      ⟨found, hfound, hcollects⟩ | ⟨⟨path, reason, herror⟩, raw, hraw, hparse⟩
    · rw [← hholds] at hcollects
      refine .inl ⟨found.mergeSort fun a b => a.version.upTo b.version, ?_, .inr ⟨entries, hlist⟩,
        ?_, ?_⟩
      · dsimp only
        rw [hfound]
        rfl
      · intro raw hraw
        obtain ⟨v, hv, hmem⟩ := hcollects.complete raw hraw
        exact ⟨v, hv, List.mem_mergeSort.mpr hmem⟩
      · intro f hf
        exact hcollects.sound f (List.mem_mergeSort.mp hf)
    · refine .inr ⟨⟨.invalidFixture path reason, ?_, nofun⟩, ?_⟩
      · dsimp only
        rw [herror]
        rfl
      · rintro ⟨-, hnamed⟩
        rw [← hholds] at hraw
        obtain ⟨v, hv⟩ := hnamed raw hraw
        exact hparse v hv

end FixtureStore

end Conformance
