import Conformance.Proofs.Files.Proper
import Conformance.Proofs.History.Joining
import Conformance.Proofs.History.Reading
import Conformance.Proofs.Version.Writing

/-!
# What has been stored is loaded again

Storing histories adds one file to a directory, or replaces it. This file is the only one whose text
of a version is the one that is written, so that what is loaded afterwards is what was loaded without
it, with the stored histories under its version.

## Main definitions

- `FixtureStore.Keeps` — the directory holds the file of a version
- `FixtureStore.Placed` — the directory is there, or is made where nothing is

## Main statements

- `FixtureStore.discover_without` — what is found with and without the file of a version
- `FixtureStore.load_of_store` — what is loaded after histories have been stored
-/

namespace Conformance.FixtureStore

open PastHistories (SameBut)

variable {s : FixtureStore} {files files' : FileTree} {dir : Location} {name : FileName}
  {raw path : String} {v u : Version} {histories : List History}

/-! ## Names of fixtures -/

theorem isName_fileName (h : Path.slash ∉ Text.bytesOf (s.fileName raw)) :
    Path.IsName (Text.bytesOf (s.fileName raw)) := by
  have hstart : ∃ rest, Text.bytesOf (s.fileName raw) = 0x68 :: 0x69 :: 0x73 :: rest := by
    have hhistory : Text.bytesOf "history." = [0x68, 0x69, 0x73, 0x74, 0x6F, 0x72, 0x79, 0x2E] := by
      decide +kernel
    simp [fileName, nameStart, Text.bytesOf_append, hhistory]
  obtain ⟨rest, hrest⟩ := hstart
  rw [hrest] at h ⊢
  exact ⟨h, by simp, by simp, by simp⟩

/-- If the name of the SDK can be part of a name, the file of every version has one. -/
theorem isName_of_version (hsdk : '/' ∉ s.sdk.toList) (v : Version) :
    Path.IsName (Text.bytesOf (s.fileName v.text)) := by
  refine isName_fileName fun hslash => ?_
  have hmem := Text.slash_of_mem_bytesOf hslash
  rw [fileName_eq, String.toList_ofList] at hmem
  simp [nameStart, String.toList_append, hsdk, v.slash_not_mem_text] at hmem

theorem enters_pathOf (hplace : s.dir ≠ "") (hname : Path.IsName (Text.bytesOf (s.fileName raw))) :
    Path.Enters (Text.bytesOf (s.pathOf raw)) (Text.bytesOf s.dir) (Text.bytesOf (s.fileName raw)) :=
  Path.enters_push hplace hname

/-! ## Trees with the same entry -/

section

variable (hplace : s.dir ≠ "") (hdir : files.find (Text.bytesOf s.dir) = .ok (dir, .directory))
  (hdir' : files'.find (Text.bytesOf s.dir) = .ok (dir, .directory))

include hplace hdir hdir'

theorem find_pathOf_congr (hname : Path.slash ∉ Text.bytesOf (s.fileName raw))
    (hnode : files'.node? (dir ++ [Text.bytesOf (s.fileName raw)]) =
      files.node? (dir ++ [Text.bytesOf (s.fileName raw)])) :
    files'.find (Text.bytesOf (s.pathOf raw)) = files.find (Text.bytesOf (s.pathOf raw)) :=
  FileTree.find_congr (enters_pathOf hplace (isName_fileName hname)) (isName_fileName hname) hdir
    hdir' hnode

/-- A name stands for the same in trees that have the same entry under it. -/
theorem fixtureOf?_congr (hname : Path.slash ∉ name)
    (hnode : files'.node? (dir ++ [name]) = files.node? (dir ++ [name])) :
    s.fixtureOf? files' name = s.fixtureOf? files name := by
  by_cases hraw : ∃ raw, name = Text.bytesOf (s.fileName raw)
  · obtain ⟨raw, rfl⟩ := hraw
    have hfile : files'.isFile (Text.bytesOf (Path.push s.dir (s.fileName raw))) =
        files.isFile (Text.bytesOf (Path.push s.dir (s.fileName raw))) := by
      unfold FileTree.isFile
      rw [← pathOf, find_pathOf_congr hplace hdir hdir' hname hnode]
    unfold fixtureOf?
    rw [Text.ofBytes?_eq_some_iff.mpr rfl]
    dsimp only
    rw [hfile]
  · have hother : ∀ raw, name ≠ Text.bytesOf (s.fileName raw) := fun raw h => hraw ⟨raw, h⟩
    rw [fixtureOf?_of_other fun raw h => absurd h (hother raw),
      fixtureOf?_of_other fun raw h => absurd h (hother raw)]

theorem read_congr (hname : Path.slash ∉ Text.bytesOf (s.fileName raw))
    (hnode : files'.node? (dir ++ [Text.bytesOf (s.fileName raw)]) =
      files.node? (dir ++ [Text.bytesOf (s.fileName raw)])) :
    read files' (s.pathOf raw) = read files (s.pathOf raw) := by
  unfold read FileTree.readText FileTree.read
  rw [find_pathOf_congr hplace hdir hdir' hname hnode]

end

theorem fixturesOf_congr {entries : List (FileName × FileNode)}
    (h : ∀ e ∈ entries, s.fixtureOf? files' e.1 = s.fixtureOf? files e.1) :
    s.fixturesOf files' (entries.map (·.1)) = s.fixturesOf files (entries.map (·.1)) := by
  induction entries with
  | nil => rfl
  | cons e entries ih =>
    rw [List.map_cons, fixturesOf_cons, fixturesOf_cons, h e List.mem_cons_self,
      ih fun e he => h e (List.mem_cons_of_mem _ he)]

theorem fixturesOf_append (s : FixtureStore) (files : FileTree) (names more : List FileName) :
    s.fixturesOf files (names ++ more) = (s.fixturesOf files names).bind fun found =>
      (s.fixturesOf files more).bind fun others => .ok (found ++ others) := by
  induction names with
  | nil =>
    rw [List.nil_append, fixturesOf]
    cases s.fixturesOf files more <;> rfl
  | cons name names ih =>
    rw [List.cons_append, fixturesOf_cons, fixturesOf_cons, ih]
    cases s.fixtureOf? files name with
    | error e => rfl
    | ok found =>
      cases s.fixturesOf files names with
      | error e => rfl
      | ok others =>
        cases s.fixturesOf files more with
        | error e => rfl
        | ok rest => exact congrArg Except.ok (List.append_assoc ..).symm

/-- One entry more that stands for a fixture is found in its place among the others. -/
theorem discover_insert {before after : List (FileName × FileNode)} {e : FileName × FileNode}
    {f : FixtureFile} (hlist : files.list (Text.bytesOf s.dir) = .ok (before ++ after))
    (hlist' : files'.list (Text.bytesOf s.dir) = .ok (before ++ e :: after))
    (hsame : ∀ e ∈ before ++ after, s.fixtureOf? files' e.1 = s.fixtureOf? files e.1)
    (hfixture : s.fixtureOf? files' e.1 = .ok (some f)) :
    (∃ e, s.discover files' = .error e ∧ s.discover files = .error e) ∨
      ∃ l₁ l₂, s.discover files' = .ok (l₁ ++ f :: l₂) ∧ s.discover files = .ok (l₁ ++ l₂) := by
  have hbefore : s.fixturesOf files' (before.map (·.1)) = s.fixturesOf files (before.map (·.1)) :=
    fixturesOf_congr fun e he => hsame e (List.mem_append_left _ he)
  have hafter : s.fixturesOf files' (after.map (·.1)) = s.fixturesOf files (after.map (·.1)) :=
    fixturesOf_congr fun e he => hsame e (List.mem_append_right _ he)
  unfold discover
  rw [hlist, hlist']
  dsimp only
  rw [List.map_append, List.map_append, List.map_cons, fixturesOf_append, fixturesOf_append,
    fixturesOf_cons, hfixture, hbefore, hafter]
  cases s.fixturesOf files (before.map (·.1)) with
  | error e => exact .inl ⟨e, rfl, rfl⟩
  | ok found =>
    cases s.fixturesOf files (after.map (·.1)) with
    | error e => exact .inl ⟨e, rfl, rfl⟩
    | ok others =>
      have htrans : ∀ a b c : FixtureFile, a.version.upTo b.version → b.version.upTo c.version →
          a.version.upTo c.version := by
        simp only [Version.upTo_iff]
        exact fun _ _ _ => Nat.le_trans
      have htotal : ∀ a b : FixtureFile,
          (a.version.upTo b.version || b.version.upTo a.version) = true := by
        simp only [Bool.or_eq_true, Version.upTo_iff]
        exact fun _ _ => Nat.le_total _ _
      obtain ⟨l₁, l₂, hwith, hwithout⟩ := mergeSort_insert htrans htotal f found others
      exact .inr ⟨l₁, l₂, congrArg Except.ok hwith, congrArg Except.ok hwithout⟩

/-! ## With and without the file of a version -/

/-- Where the file of a version is in a directory. -/
def locationOf (s : FixtureStore) (dir : Location) (v : Version) : Location :=
  dir ++ [Text.bytesOf (s.fileName v.text)]

/-- The directory holds the file of a version. -/
structure Keeps (s : FixtureStore) (files : FileTree) (dir : Location) (v : Version) : Prop where
  directory : files.find (Text.bytesOf s.dir) = .ok (dir, .directory)
  located : files.locate (Text.bytesOf (s.pathOf v.text)) = .ok (s.locationOf dir v)
  file : ∃ content, files.node? (s.locationOf dir v) = some (.file content)

section

variable (hplace : s.dir ≠ "") (hsdk : '/' ∉ s.sdk.toList)

include hplace hsdk

theorem Keeps.stands (hkeeps : s.Keeps files dir v) : s.Stands files v.text := by
  have hname := isName_of_version hsdk v
  obtain ⟨content, hnode⟩ := hkeeps.file
  have hfind : files.find (Text.bytesOf (s.pathOf v.text)) =
      .ok (s.locationOf dir v, .file content) := by
    rw [FileTree.find_of_enters (enters_pathOf hplace hname) hname hkeeps.directory, hkeeps.located,
      Except.bind]
    exact hnode ▸ rfl
  unfold Stands FileTree.isFile
  rw [hfind]

/-- With the file of a version one fixture more is found, and all others in the same order and with
the same content, unless the version of one of them cannot be read. -/
theorem discover_without (hproper : files.Proper) (hkeeps : s.Keeps files dir v) :
    (∃ e, s.discover files = .error e ∧ s.discover (files.without (s.locationOf dir v)) = .error e) ∨
      ∃ before after, s.discover files = .ok (before ++ ⟨v, s.pathOf v.text⟩ :: after) ∧
        s.discover (files.without (s.locationOf dir v)) = .ok (before ++ after) ∧
        ∀ f ∈ before ++ after,
          read files f.path = read (files.without (s.locationOf dir v)) f.path := by
  have hname := isName_of_version hsdk v
  obtain ⟨content, hnode⟩ := hkeeps.file
  obtain ⟨before, after, hlist, hlist', hothers⟩ :=
    FileTree.list_split hproper hkeeps.directory hnode nofun
  have hdir' : (files.without (s.locationOf dir v)).find (Text.bytesOf s.dir) =
      .ok (dir, .directory) := by
    rw [FileTree.find_directory_without (by simp [hnode])]
    exact hkeeps.directory
  have hsame : ∀ e ∈ before ++ after, files.node? (dir ++ [e.1]) =
      (files.without (s.locationOf dir v)).node? (dir ++ [e.1]) := by
    intro e he
    rw [FileTree.node?_without _ (by simp [locationOf]), if_neg]
    intro hloc
    exact (hothers e he).1 (by simpa [locationOf] using hloc.symm)
  change (files.without (s.locationOf dir v)).list _ = _ at hlist'
  generalize files.without (s.locationOf dir v) = base at hlist' hdir' hsame ⊢
  have hfixture : ∀ e ∈ before ++ after, s.fixtureOf? files e.1 = s.fixtureOf? base e.1 :=
    fun e he => fixtureOf?_congr hplace hdir' hkeeps.directory (hothers e he).2 (hsame e he)
  have hfile : s.fixtureOf? files (Text.bytesOf (s.fileName v.text)) =
      .ok (some ⟨v, s.pathOf v.text⟩) := by
    rw [fixtureOf?_of_stands (hkeeps.stands hplace hsdk), v.parse_text]
  rcases discover_insert hlist' hlist hfixture hfile with herror | ⟨l₁, l₂, hwith, hwithout⟩
  · exact .inl herror
  · refine .inr ⟨l₁, l₂, hwith, hwithout, fun f hf => ?_⟩
    rcases s.discover_cases base with ⟨found, hfound, -, hcollects⟩ | ⟨⟨_, herror, -⟩, -⟩
    · cases hwithout.symm.trans hfound
      obtain ⟨raw, ⟨entries, hentries, hraw, -⟩, -, hpath⟩ := hcollects.sound f hf
      cases hlist'.symm.trans hentries
      obtain ⟨e, he, hname⟩ := List.mem_map.mp hraw
      rw [hpath]
      refine read_congr hplace hdir' hkeeps.directory ?_ ?_
      · rw [← hname]
        exact (hothers e he).2
      · rw [← hname]
        exact hsame e he
    · exact nomatch hwithout.symm.trans herror

/-- A newer version does not count. -/
theorem loadUpTo_newer (hproper : files.Proper) (hkeeps : s.Keeps files dir v)
    (hnewer : v.upTo u = false) :
    s.loadUpTo files u = s.loadUpTo (files.without (s.locationOf dir v)) u := by
  unfold loadUpTo
  rcases discover_without hplace hsdk hproper hkeeps with
    ⟨e, herror, herror'⟩ | ⟨before, after, hwith, hwithout, hread⟩
  · rw [herror, herror']
    rfl
  · rw [hwith, hwithout]
    exact (loadFiles_newer hnewer []).trans (loadFiles_congr hread u [])

/-- An older version, or the same one, adds what is in its file. -/
theorem loadUpTo_insert (hproper : files.Proper) (hkeeps : s.Keeps files dir v)
    (hup : v.upTo u = true) (hread : read files (s.pathOf v.text) = .ok histories)
    {past : PastHistories} (hload : s.loadUpTo (files.without (s.locationOf dir v)) u = .ok past) :
    ∃ loaded, s.loadUpTo files u = .ok loaded ∧
      SameBut v (PastHistories.add v histories past) loaded := by
  unfold loadUpTo at hload ⊢
  rcases discover_without hplace hsdk hproper hkeeps with
    ⟨e, -, herror⟩ | ⟨before, after, hwith, hwithout, hsame⟩
  · rw [herror] at hload
    cases hload
  · rw [hwithout] at hload
    rw [hwith]
    refine loadFiles_insert (f := ⟨v, s.pathOf v.text⟩) hup hread ?_
    exact (loadFiles_congr hsame u []).trans hload

theorem loadUpTo_remove (hproper : files.Proper) (hkeeps : s.Keeps files dir v)
    {loaded : PastHistories} (hload : s.loadUpTo files u = .ok loaded) :
    ∃ past, s.loadUpTo (files.without (s.locationOf dir v)) u = .ok past := by
  unfold loadUpTo at hload ⊢
  rcases discover_without hplace hsdk hproper hkeeps with
    ⟨e, herror, -⟩ | ⟨before, after, hwith, hwithout, hsame⟩
  · rw [herror] at hload
    cases hload
  · rw [hwith] at hload
    rw [hwithout]
    obtain ⟨past, hpast⟩ := loadFiles_remove hload
    exact ⟨past, (loadFiles_congr hsame u []).symm.trans hpast⟩

end

/-! ## Directories without fixtures -/

theorem discover_of_missing (h : files.list (Text.bytesOf s.dir) = .error .notFound) :
    s.discover files = .ok [] := by
  unfold discover
  rw [h]

/-- Directories are no fixtures. -/
theorem discover_of_directories (hproper : files.Proper) (hplace : s.dir ≠ "")
    (hdir : files.find (Text.bytesOf s.dir) = .ok (dir, .directory))
    (hdirs : ∀ name node, (dir ++ [name], node) ∈ files.nodes.entries → node = .directory) :
    s.discover files = .ok [] := by
  have hlist := FileTree.list_of_directory hdir
  have hnone : ∀ raw, ¬ s.Holds files raw := by
    rintro raw ⟨entries, hentries, hraw, hstands⟩
    cases hlist.symm.trans hentries
    obtain ⟨⟨name, node⟩, he, rfl⟩ := List.mem_map.mp hraw
    obtain ⟨e, he, hin⟩ := List.mem_filterMap.mp he
    obtain rfl := FileTree.nameIn?_eq_some_iff.mp hin
    have hname := isName_fileName
      (hproper.noSlash _ he _ (List.mem_append_right _ List.mem_cons_self))
    unfold Stands FileTree.isFile at hstands
    split at hstands
    · rename_i loc content hfind
      have hnode := FileTree.node?_of_find (enters_pathOf hplace hname) hname hdir hfind
      exact nomatch hdirs _ _ (FileTree.mem_of_node? (by simp) hnode)
    · cases hstands
  rcases s.discover_cases files with ⟨found, hfound, -, hcollects⟩ | ⟨-, hunread⟩
  · obtain rfl : found = [] := List.eq_nil_iff_forall_not_mem.mpr fun f hf => by
      obtain ⟨raw, hraw, -⟩ := hcollects.sound f hf
      exact hnone raw hraw
    exact hfound
  · exact absurd ⟨.inr ⟨_, hlist⟩, fun raw hraw => absurd hraw (hnone raw)⟩ hunread

/-! ## Storing -/

/-- The directory of the store is there, or it is made where no directory is. -/
structure Placed (s : FixtureStore) (files : FileTree) : Prop where
  nonempty : s.dir ≠ ""
  made : files.list (Text.bytesOf s.dir) = .error .notFound → ∀ dir,
    (files.makeAll (Text.bytesOf s.dir)).2.find (Text.bytesOf s.dir) = .ok (dir, .directory) →
      files.node? dir ≠ some .directory

/-- So it is if its path never leads back. -/
theorem placed_of_forward (hproper : files.Proper) (hplace : s.dir ≠ "")
    (hforward : [0x2E, 0x2E] ∉ Path.parts (Text.bytesOf s.dir)) : s.Placed files where
  nonempty := hplace
  made hmissing dir hmade := by
    refine hproper.node?_of_missing (files.grown_makeAll _) hforward (fun loc hfind => ?_) hmade
    exact nomatch hmissing.symm.trans (FileTree.list_of_directory hfind)

/-- The directory has been made as far as it was missing, and the histories have been put into it. -/
structure Stored (s : FixtureStore) (files : FileTree) (v : Version) (histories : List History)
    (ready : FileTree) (dir : Location) (files' : FileTree) : Prop where
  grown : files.Grown ready
  makeAll : files.makeAll (Text.bytesOf s.dir) = (.ok (), ready)
  directory : ready.find (Text.bytesOf s.dir) = .ok (dir, .directory)
  located : ready.locate (Text.bytesOf (s.pathOf v.text)) = .ok (s.locationOf dir v)
  free : ready.node? (s.locationOf dir v) ≠ some .directory
  put : files' = ready.put (s.locationOf dir v) (.file (Text.bytesOf (fileText histories)))

theorem stored_of_store (hplace : s.dir ≠ "") (hsdk : '/' ∉ s.sdk.toList)
    (h : s.store files v.text histories = (.ok path, files')) :
    ∃ ready dir, s.Stored files v histories ready dir files' := by
  have hname := isName_of_version hsdk v
  obtain ⟨-, ready, hgrown, hmade, hwrite⟩ := store_eq_ok h
  obtain ⟨loc, htarget, hput⟩ := FileTree.write_eq_ok hwrite
  obtain ⟨hlocate, ⟨hfree, -⟩, -⟩ := FileTree.target_eq_ok_iff.mp htarget
  obtain ⟨dir, hdir, rfl⟩ := FileTree.find_directory_of_enters (enters_pathOf hplace hname) hname
    (Text.bytesOf_ne_nil hplace) hlocate
  exact ⟨ready, dir, hgrown, hmade, hdir, hlocate, hfree, hput⟩

/-- A file that is put into the directory is there. -/
theorem keeps_put (hdir : files.find (Text.bytesOf s.dir) = .ok (dir, .directory))
    (hlocate : files.locate (Text.bytesOf (s.pathOf v.text)) = .ok (s.locationOf dir v))
    (hfree : files.node? (s.locationOf dir v) ≠ some .directory) (content : List UInt8) :
    s.Keeps (files.put (s.locationOf dir v) (.file content)) dir v where
  directory := by
    have hdir' := FileTree.find_eq_directory_iff.mp hdir
    refine FileTree.find_eq_directory_iff.mpr ⟨?_, FileTree.directory_put_file hfree content hdir'.2⟩
    exact FileTree.locate_of_directories (fun _ => FileTree.directory_put_file hfree content) rfl
      hdir'.1
  located := FileTree.locate_of_directories
    (fun _ => FileTree.directory_put_file hfree content) rfl hlocate
  file := ⟨content, by rw [FileTree.node?_put _ (by simp [locationOf]), if_pos rfl]⟩

theorem proper_of_store (hproper : files.Proper)
    (h : s.store files v.text histories = (.ok path, files')) : files'.Proper := by
  obtain ⟨-, ready, -, hmade, hwrite⟩ := store_eq_ok h
  have hready := hproper.makeAll (Text.bytesOf s.dir)
  rw [hmade] at hready
  exact hready.write hwrite

namespace Stored

variable {ready : FileTree} (h : s.Stored files v histories ready dir files')

include h

theorem keeps : s.Keeps files' dir v :=
  h.put ▸ keeps_put h.directory h.located h.free _

/-- Either the directory was there, or there was no fixture, and there is none once the directory has
been made. -/
theorem before_cases (hproper : files.Proper) (hplaced : s.Placed files)
    (henumerable : s.Enumerable files) : ready = files ∨
      files.node? (s.locationOf dir v) = none ∧ ready.node? (s.locationOf dir v) = none ∧
        s.discover files = .ok [] ∧ s.discover ready = .ok [] := by
  rcases henumerable with hmissing | ⟨entries, hlist⟩
  · -- the directory has been made, so that there are only directories in it
    right
    have hnew : files.node? dir ≠ some .directory := by
      refine hplaced.made hmissing dir ?_
      rw [h.makeAll]
      exact h.directory
    have hready := hproper.makeAll (Text.bytesOf s.dir)
    rw [h.makeAll] at hready
    have hdirs : ∀ name node, (dir ++ [name], node) ∈ ready.nodes.entries → node = .directory :=
      fun name node => hproper.directory_of_made h.grown hnew
    have hfree : ready.node? (s.locationOf dir v) = none := by
      cases hnode : ready.node? (s.locationOf dir v) with
      | none => rfl
      | some node =>
        have hdirectory := hdirs _ _ (FileTree.mem_of_node? (by simp) hnode)
        exact absurd (hdirectory ▸ hnode) h.free
    have hfree' : files.node? (s.locationOf dir v) = none := by
      rcases h.grown.node? (s.locationOf dir v) with hsame | ⟨hnone, -⟩
      · rw [← hsame, hfree]
      · exact hnone
    exact ⟨hfree', hfree, discover_of_missing hmissing,
      discover_of_directories hready hplaced.nonempty h.directory hdirs⟩
  · -- the directory was there, and nothing has been made
    left
    obtain ⟨dir', hdir'⟩ := FileTree.directory_of_list hlist
    have hmade := h.makeAll
    rw [FileTree.makeAll_of_directory hdir'] at hmade
    exact (Prod.mk.inj hmade).2.symm

/-- Without the file of the version the same is loaded as before, without it. -/
theorem loadUpTo_without (hproper : files.Proper) (hplaced : s.Placed files)
    (henumerable : s.Enumerable files) (u : Version) :
    s.loadUpTo (files'.without (s.locationOf dir v)) u =
      s.loadUpTo (files.without (s.locationOf dir v)) u := by
  rw [h.put, FileTree.without_put]
  rcases h.before_cases hproper hplaced henumerable with rfl | ⟨hnone, hnone', hfound, hfound'⟩
  · rfl
  · rw [FileTree.without_of_none hnone, FileTree.without_of_none hnone', loadUpTo, loadUpTo, hfound,
      hfound']
    rfl

/-- Before, the directory held the file of the version, or nothing was in its place. -/
theorem keeps_before (hproper : files.Proper) (hplaced : s.Placed files)
    (henumerable : s.Enumerable files) :
    files.node? (s.locationOf dir v) = none ∨ s.Keeps files dir v := by
  rcases h.before_cases hproper hplaced henumerable with rfl | ⟨hnone, -⟩
  · cases hnode : ready.node? (s.locationOf dir v) with
    | none => exact .inl rfl
    | some node =>
      cases node with
      | directory => exact absurd hnode h.free
      | file content => exact .inr ⟨h.directory, h.located, content, hnode⟩
  · exact .inl hnone

end Stored

theorem exists_loadUpTo (h : s.Readable files v) : ∃ past, s.loadUpTo files v = .ok past := by
  unfold loadUpTo
  rcases s.discover_cases files with ⟨found, hfound, -, hcollects⟩ | ⟨-, hunread⟩
  · rw [hfound]
    rcases loadFiles_cases files v [] found with
      ⟨past, hpast, -⟩ | ⟨-, f, hf, hup, hbad⟩
    · exact ⟨past, hpast⟩
    · obtain ⟨raw, hraw, hparse, hpath⟩ := hcollects.sound f hf
      obtain ⟨histories, hread⟩ := h.decodes raw f.version ⟨hraw, hparse, hup⟩
      exact absurd (hpath ▸ hread) (hbad histories)
  · exact absurd ⟨h.enumerable, h.named⟩ hunread

/-- Storing histories again replaces those that are there. -/
theorem store_again (hplace : s.dir ≠ "") (hsdk : '/' ∉ s.sdk.toList)
    (hkeeps : s.Keeps files dir v) (histories : List History) :
    s.store files v.text histories = (.ok (s.pathOf v.text),
      files.put (s.locationOf dir v) (.file (Text.bytesOf (fileText histories)))) := by
  have hname := isName_of_version hsdk v
  obtain ⟨content, hnode⟩ := hkeeps.file
  have htarget : files.target (Text.bytesOf (s.pathOf v.text)) = .ok (s.locationOf dir v) :=
    FileTree.target_eq_ok_iff.mpr ⟨hkeeps.located, ⟨by simp [hnode], by simp [hnode]⟩,
      (enters_pathOf hplace hname).wantsDirectory⟩
  exact store_of_target (FileTree.makeAll_of_directory hkeeps.directory) htarget histories

/-- Histories that have been stored as those of a version are loaded again. Up to this version what
is loaded is what would be loaded without its file, together with them; up to an older version it is
what was loaded before. When other histories are stored as those of the same version, they take their
place. -/
theorem load_of_store (hproper : files.Proper) (hplaced : s.Placed files)
    (hsdk : '/' ∉ s.sdk.toList) (hreadable : s.Readable files v) (hback : ReadsBack histories)
    (hsound : ∀ h ∈ histories, h.Sound)
    (hstored : s.store files v.text histories = (.ok path, files')) :
    ∃ loc past, files'.locate (Text.bytesOf path) = .ok loc ∧
      s.loadUpTo (files.without loc) v = .ok past ∧
      (∃ loaded, s.loadUpTo files' v = .ok loaded ∧
        SameBut v (PastHistories.add v histories past) loaded) ∧
      (∀ u, u.compare v = .lt → s.loadUpTo files' u = s.loadUpTo files u) ∧
      ∀ others, ReadsBack others → (∀ h ∈ others, h.Sound) →
        ∃ files'' loaded, s.store files' v.text others = (.ok path, files'') ∧
          s.loadUpTo files'' v = .ok loaded ∧
          SameBut v (PastHistories.add v others past) loaded := by
  have hplace := hplaced.nonempty
  have henumerable := hreadable.enumerable
  obtain ⟨ready, dir, h⟩ := stored_of_store hplace hsdk hstored
  obtain rfl := (store_eq_ok hstored).1
  have hproper' := proper_of_store hproper hstored
  have hwithout := h.loadUpTo_without hproper hplaced henumerable
  have hup : v.upTo v = true := Version.upTo_iff.mpr (Nat.le_refl _)
  have hpast : ∃ past, s.loadUpTo (files.without (s.locationOf dir v)) v = .ok past := by
    obtain ⟨past, hpast⟩ := exists_loadUpTo hreadable
    rcases h.keeps_before hproper hplaced henumerable with hnone | hkeeps
    · rw [FileTree.without_of_none hnone]
      exact ⟨past, hpast⟩
    · exact loadUpTo_remove hplace hsdk hproper hkeeps hpast
  obtain ⟨past, hpast⟩ := hpast
  refine ⟨s.locationOf dir v, past, h.keeps.located, hpast, ?_, ?_, ?_⟩
  · exact loadUpTo_insert hplace hsdk hproper' h.keeps hup (read_of_store hback hsound hstored)
      ((hwithout v).trans hpast)
  · intro u hu
    have hnewer : v.upTo u = false := by
      rw [Version.compare_eq, Nat.compare_eq_lt] at hu
      rw [Bool.eq_false_iff, Ne, Version.upTo_iff, Nat.not_le]
      exact hu
    rw [loadUpTo_newer hplace hsdk hproper' h.keeps hnewer, hwithout u]
    rcases h.keeps_before hproper hplaced henumerable with hnone | hkeeps
    · rw [FileTree.without_of_none hnone]
    · exact (loadUpTo_newer hplace hsdk hproper hkeeps hnewer).symm
  · intro others hback' hsound'
    have hagain := store_again hplace hsdk h.keeps others
    obtain ⟨content, hnode⟩ := h.keeps.file
    have hkeeps := keeps_put h.keeps.directory h.keeps.located (by simp [hnode])
      (Text.bytesOf (fileText others))
    obtain ⟨loaded, hloaded, hsame⟩ := loadUpTo_insert hplace hsdk
      (proper_of_store hproper' hagain) hkeeps hup (read_of_store hback' hsound' hagain)
      (by rw [FileTree.without_put, hwithout, hpast])
    exact ⟨_, loaded, hagain, hloaded, hsame⟩

/-- Histories of a version with a suffix are stored where nothing is. They are loaded again, and
nothing else is. -/
theorem load_of_first_store :
    let s : FixtureStore := ⟨"f", "rust"⟩
    let v : Version := ⟨1, 0, 0, true⟩
    let histories : List History := [⟨[⟨1, .workflowExecutionStarted, .obj []⟩]⟩]
    ∃ files', s.store {} v.text histories = (.ok "f/history.rust.1.0.0-extra.json", files') ∧
      ∃ loaded, s.loadUpTo files' v = .ok loaded ∧ SameBut v [(v, histories)] loaded := by
  obtain ⟨ready, hready⟩ : ∃ ready : FileTree,
    ready = { nodes := ⟨[([Text.bytesOf "f"], .directory)]⟩ } := ⟨_, rfl⟩
  have hmade : ({} : FileTree).makeAll (Text.bytesOf "f") = (.ok (), ready) := by
    rw [hready]
    decide +kernel
  intro s v histories
  have hforward : [0x2E, 0x2E] ∉ Path.parts (Text.bytesOf s.dir) := by decide +kernel
  have hmissing : ({} : FileTree).list (Text.bytesOf s.dir) = .error .notFound := by decide +kernel
  have hnone : ∀ raw, ¬ s.Holds {} raw := by
    rintro raw ⟨_, hlist, -⟩
    cases hmissing.symm.trans hlist
  have hreadable : s.Readable {} v :=
    ⟨.inl hmissing, fun raw h => absurd h (hnone raw), fun raw _ h => absurd h.1 (hnone raw)⟩
  have hback : ReadsBack histories := by decide +kernel
  have hsound : ∀ h ∈ histories, h.Sound := by
    simp only [histories, History.Sound, List.forall_mem_singleton]
    exact ⟨⟨by decide, by decide⟩, rfl⟩
  have hpath : s.pathOf v.text = "f/history.rust.1.0.0-extra.json" := by decide +kernel
  have htarget : ready.target (Text.bytesOf (s.pathOf v.text)) =
      .ok [Text.bytesOf "f", Text.bytesOf "history.rust.1.0.0-extra.json"] := by
    rw [hpath, hready]
    decide +kernel
  have hstored := store_of_target hmade htarget histories
  rw [hpath] at hstored
  have hplaced := placed_of_forward FileTree.proper_empty (show s.dir ≠ "" by decide +kernel)
    hforward
  obtain ⟨loc, past, -, hpast, hloaded, -⟩ := load_of_store FileTree.proper_empty hplaced
    (by decide +kernel) hreadable hback hsound hstored
  have hempty : ({} : FileTree).without loc = {} := rfl
  rw [hempty, loadUpTo, discover_of_missing hmissing] at hpast
  cases hpast
  exact ⟨_, hstored, hloaded⟩

end Conformance.FixtureStore
