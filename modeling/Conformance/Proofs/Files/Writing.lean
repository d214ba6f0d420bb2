import Conformance.Files.Tree
import Conformance.Proofs.Failing

/-!
# What writing a file does

A file that has been written is read back as it was written, and no other file changes. What is
appended to a file comes after what it held. Making directories adds directories where nothing was, so
no file changes at all.

## Main definitions

- `FileTree.content?` — the content of the file at a location
- `FileTree.stepTo` — where one name of a path leads to
- `FileTree.Writable` — where a file can be written
- `FileTree.Holds` — a path leads to a file with some content
- `FileTree.Grown` — directories have been added

## Main statements

- `FileTree.walk_cons_eq_ok_iff` — how a path leads on
- `FileTree.read_of_write`, `FileTree.content?_of_write` — what writing a file does
- `FileTree.openToAppend_of_target`, `FileTree.Holds.append` — what appending to a file does
- `FileTree.makeAll_induction` — what making one directory keeps, making several keeps
- `FileTree.grown_makeAll`, `FileTree.makeAll_of_directory` — what making directories does
-/

namespace Conformance

namespace Table

variable {κ α : Type} [DecidableEq κ]

theorem find?_append (entries added : List (κ × α)) (key : κ) :
    find? key (entries ++ added) = (find? key entries).or (find? key added) := by
  induction entries with
  | nil => rfl
  | cons e rest ih =>
    obtain ⟨k, v⟩ := e
    by_cases hk : k = key <;> simp [find?, hk, ih]

theorem mem_of_find? {entries : List (κ × α)} {key : κ} {value : α}
    (h : find? key entries = some value) : (key, value) ∈ entries := by
  induction entries with
  | nil => cases h
  | cons e rest ih =>
    obtain ⟨k, v⟩ := e
    rw [find?] at h
    split at h
    · rename_i hk
      cases h
      rw [hk]
      exact List.mem_cons_self
    · exact List.mem_cons_of_mem _ (ih h)

end Table

namespace FileTree

variable {t t' t'' : FileTree} {path : RawPath} {loc : Location}

/-! ## Entries -/

/-- The content of the file at a location, if there is a file. -/
def content? (t : FileTree) (loc : Location) : Option (List UInt8) :=
  match t.node? loc with
  | some (.file content) => some content
  | _ => none

theorem node?_put (t : FileTree) {loc : Location} (hloc : loc ≠ []) (node : FileNode)
    (l : Location) : (t.put loc node).node? l = if loc = l then some node else t.node? l := by
  unfold node? put
  by_cases hl : l = []
  · rw [if_pos hl, if_pos hl, if_neg (hl ▸ hloc)]
  · rw [if_neg hl, if_neg hl]
    exact Table.get?_insert t.nodes loc l node

/-! ## Ways -/

/-- Where a name leads to from a directory: nowhere, one directory up, or to an entry. -/
def stepTo (loc : Location) (name : FileName) : Location :=
  if name = [0x2E] then loc else if name = [0x2E, 0x2E] then loc.dropLast else loc ++ [name]

theorem walk_cons (t : FileTree) (start : Location) (name : FileName) (rest : List FileName) :
    t.walk start (name :: rest) = match t.node? start with
      | none => .error .notFound
      | some (.file _) => .error .notDirectory
      | some .directory =>
        if 255 < name.length then .error .nameTooLong else t.walk (stepTo start name) rest := by
  have hstep : t.walk (stepTo start name) rest = if name = [0x2E] then t.walk start rest
      else if name = [0x2E, 0x2E] then t.walk start.dropLast rest
      else t.walk (start ++ [name]) rest := by
    unfold stepTo
    split
    · rfl
    · split <;> rfl
  rw [hstep]
  rfl

/-- A way leads on from a directory, by a name that is not too long. -/
theorem walk_cons_eq_ok_iff {start : Location} {name : FileName} {rest : List FileName} :
    t.walk start (name :: rest) = .ok loc ↔ t.node? start = some .directory ∧ name.length ≤ 255 ∧
      t.walk (stepTo start name) rest = .ok loc := by
  rw [walk_cons]
  split
  · rename_i hnode
    simp [hnode]
  · rename_i hnode
    simp [hnode]
  · rename_i hnode
    by_cases hlong : 255 < name.length
    · simp [hlong, Nat.not_le.mpr hlong]
    · simp [hnode, hlong, Nat.not_lt.mp hlong]

/-- Where all directories are still there, every way leads where it did. -/
theorem walk_of_directories
    (hdirs : ∀ l, t.node? l = some .directory → t'.node? l = some .directory)
    {names : List FileName} {start : Location} (h : t.walk start names = .ok loc) :
    t'.walk start names = .ok loc := by
  induction names generalizing start with
  | nil => exact h
  | cons name rest ih =>
    obtain ⟨hnode, hshort, hrest⟩ := walk_cons_eq_ok_iff.mp h
    exact walk_cons_eq_ok_iff.mpr ⟨hdirs start hnode, hshort, ih hrest⟩

theorem locate_eq_ok_iff : t.locate path = .ok loc ↔
    path.contains 0 = false ∧ path.isEmpty = false ∧ path.length ≤ 4095 ∧
      t.walk (if Path.isAbsolute path then [] else t.current) (Path.parts path) = .ok loc := by
  unfold locate
  cases path.contains 0 with
  | true => simp
  | false =>
    cases path.isEmpty with
    | true => simp
    | false =>
      by_cases hlong : 4095 < path.length
      · simp [hlong, Nat.not_le.mpr hlong]
      · simp [hlong, Nat.not_lt.mp hlong]

theorem locate_of_directories
    (hdirs : ∀ l, t.node? l = some .directory → t'.node? l = some .directory)
    (hcurrent : t'.current = t.current) (h : t.locate path = .ok loc) :
    t'.locate path = .ok loc := by
  rw [locate_eq_ok_iff] at h ⊢
  rw [hcurrent]
  exact ⟨h.1, h.2.1, h.2.2.1, walk_of_directories hdirs h.2.2.2⟩

theorem find_eq_directory_iff : t.find path = .ok (loc, .directory) ↔
    t.locate path = .ok loc ∧ t.node? loc = some .directory := by
  unfold find
  constructor
  · intro h
    obtain ⟨l, hlocate, h⟩ := bind_eq_ok h
    split at h
    · cases h
    · rename_i hnode
      cases h
      exact ⟨hlocate, hnode⟩
    · dsimp only at h
      split at h <;> cases h
  · rintro ⟨hlocate, hnode⟩
    simp only [hlocate, hnode, bind, Except.bind]
    rfl

/-! ## Writing -/

/-- A file can be written at the location: no directory is there, and if nothing is there, it is in a
directory. -/
structure Writable (t : FileTree) (loc : Location) : Prop where
  free : t.node? loc ≠ some .directory
  parent : t.node? loc = none → t.node? loc.dropLast = some .directory

/-- A file is written where its path leads, if the path may denote a file. -/
theorem target_eq_ok_iff : t.target path = .ok loc ↔
    t.locate path = .ok loc ∧ t.Writable loc ∧ Path.wantsDirectory path = false := by
  unfold target
  constructor
  · intro h
    obtain ⟨l, hlocate, h⟩ := bind_eq_ok h
    split at h
    · cases h
    · rename_i content hnode
      split at h
      · cases h
      · rename_i hwants
        cases h
        exact ⟨hlocate, ⟨by simp [hnode], by simp [hnode]⟩, Bool.eq_false_iff.mpr hwants⟩
    · rename_i hnode
      split at h
      · rename_i hparent
        split at h
        · cases h
        · rename_i hwants
          cases h
          exact ⟨hlocate, ⟨by simp [hnode], fun _ => hparent⟩, Bool.eq_false_iff.mpr hwants⟩
      · cases h
      · cases h
  · rintro ⟨hlocate, ⟨hfree, hparent⟩, hwants⟩
    simp only [hlocate, hwants, bind, Except.bind]
    split
    · exact absurd ‹_› hfree
    · rfl
    · rw [hparent ‹_›]
      rfl

theorem write_eq_ok {content : List UInt8} (h : t.write path content = .ok t') :
    ∃ loc, t.target path = .ok loc ∧ t' = t.put loc (.file content) := by
  obtain ⟨loc, htarget, h⟩ := bind_eq_ok h
  cases h
  exact ⟨loc, htarget, rfl⟩

theorem ne_nil_of_node? (h : t.node? loc ≠ some .directory) : loc ≠ [] := by
  rintro rfl
  exact h rfl

/-- A file that is put where no directory is leaves all directories where they are. -/
theorem directory_put_file (hloc : t.node? loc ≠ some .directory) (content : List UInt8)
    {l : Location} (hl : t.node? l = some .directory) :
    (t.put loc (.file content)).node? l = some .directory := by
  have hne : loc ≠ l := by
    rintro rfl
    exact hloc hl
  rw [node?_put t (ne_nil_of_node? hloc), if_neg hne, hl]

/-- A file that has been written is where its path leads, and no other file has changed. -/
theorem content?_of_write {content : List UInt8} (h : t.write path content = .ok t') :
    ∃ loc, t'.locate path = .ok loc ∧ t'.content? loc = some content ∧
      ∀ l, l ≠ loc → t'.content? l = t.content? l := by
  obtain ⟨loc, htarget, rfl⟩ := write_eq_ok h
  obtain ⟨hlocate, ⟨hnode, -⟩, -⟩ := target_eq_ok_iff.mp htarget
  have hput := t.node?_put (ne_nil_of_node? hnode) (.file content)
  refine ⟨loc, locate_of_directories (fun l => directory_put_file hnode content) rfl hlocate, ?_, ?_⟩
  · rw [content?, hput, if_pos rfl]
  · intro l hl
    rw [content?, content?, hput, if_neg (Ne.symm hl)]

/-- The path leads to a file with the content. -/
structure Holds (t : FileTree) (path : RawPath) (loc : Location) (content : List UInt8) : Prop where
  locate : t.locate path = .ok loc
  node : t.node? loc = some (.file content)
  denotes : Path.wantsDirectory path = false

theorem Holds.read {content : List UInt8} (h : t.Holds path loc content) :
    t.read path = .ok content := by
  unfold FileTree.read find
  simp only [h.locate, h.node, h.denotes, bind, Except.bind]
  rfl

theorem Holds.target {content : List UInt8} (h : t.Holds path loc content) :
    t.target path = .ok loc :=
  target_eq_ok_iff.mpr ⟨h.locate, ⟨by simp [h.node], by simp [h.node]⟩, h.denotes⟩

/-- Where a file may be written, it is what has been put there. -/
theorem holds_put (htarget : t.target path = .ok loc) (content : List UInt8) :
    (t.put loc (.file content)).Holds path loc content := by
  obtain ⟨hlocate, ⟨hnode, -⟩, hwants⟩ := target_eq_ok_iff.mp htarget
  refine ⟨locate_of_directories (fun l => directory_put_file hnode content) rfl hlocate, ?_, hwants⟩
  rw [node?_put t (ne_nil_of_node? hnode), if_pos rfl]

/-- A file that has been written is read back. -/
theorem read_of_write {content : List UInt8} (h : t.write path content = .ok t') :
    t'.read path = .ok content := by
  obtain ⟨loc, htarget, rfl⟩ := write_eq_ok h
  exact (holds_put htarget content).read

/-! ## Appending -/

/-- A file that is opened holds what it held before, and nothing if it was not there. -/
theorem openToAppend_of_target (htarget : t.target path = .ok loc) :
    ∃ t', t.openToAppend path = .ok t' ∧ t'.Holds path loc ((t.content? loc).getD []) := by
  obtain ⟨hlocate, ⟨hnode, -⟩, hwants⟩ := target_eq_ok_iff.mp htarget
  unfold openToAppend content?
  simp only [htarget, bind, Except.bind]
  cases hfound : t.node? loc with
  | none => exact ⟨_, rfl, holds_put htarget []⟩
  | some node =>
    cases node with
    | directory => exact absurd hfound hnode
    | file content => exact ⟨t, rfl, hlocate, hfound, hwants⟩

/-- What is appended comes after what is there. -/
theorem Holds.append {content : List UInt8} (h : t.Holds path loc content) (bytes : List UInt8) :
    ∃ t', t.append path bytes = .ok t' ∧ t'.Holds path loc (content ++ bytes) := by
  refine ⟨t.put loc (.file (content ++ bytes)), ?_, holds_put h.target _⟩
  unfold FileTree.append
  simp only [h.target, h.node, bind, Except.bind]
  rfl

/-! ## Making directories -/

/-- Directories have been added where nothing was. -/
structure Grown (t t' : FileTree) : Prop where
  entries : ∃ added, t'.nodes.entries = t.nodes.entries ++ added ∧ ∀ e ∈ added, e.2 = .directory
  current : t'.current = t.current

theorem Grown.refl (t : FileTree) : t.Grown t := ⟨⟨[], (List.append_nil _).symm, nofun⟩, rfl⟩

theorem Grown.trans (h : t.Grown t') (h' : t'.Grown t'') : t.Grown t'' := by
  obtain ⟨⟨added, hadded, hdirs⟩, hcurrent⟩ := h
  obtain ⟨⟨added', hadded', hdirs'⟩, hcurrent'⟩ := h'
  refine ⟨⟨added ++ added', by rw [hadded', hadded, List.append_assoc], ?_⟩,
    hcurrent'.trans hcurrent⟩
  intro e he
  exact (List.mem_append.mp he).elim (hdirs e) (hdirs' e)

/-- What was there is still there, and what is new is a directory. -/
theorem Grown.node? (h : t.Grown t') (l : Location) : t'.node? l = t.node? l ∨
    t.node? l = none ∧ t'.node? l = some .directory := by
  obtain ⟨⟨added, hadded, hdirs⟩, -⟩ := h
  unfold FileTree.node? Table.get?
  by_cases hl : l = []
  · exact .inl (by rw [if_pos hl, if_pos hl])
  · rw [if_neg hl, if_neg hl, hadded, Table.find?_append]
    cases hfind : Table.find? l t.nodes.entries with
    | some node => exact .inl rfl
    | none =>
      cases hnew : Table.find? l added with
      | none => exact .inl rfl
      | some node =>
        obtain rfl : node = .directory := hdirs _ (Table.mem_of_find? hnew)
        exact .inr ⟨rfl, rfl⟩

theorem Grown.directory (h : t.Grown t') (l : Location) (hl : t.node? l = some .directory) :
    t'.node? l = some .directory := by
  rcases h.node? l with hsame | ⟨hnone, -⟩
  · rw [hsame, hl]
  · rw [hnone] at hl
    cases hl

theorem Grown.content? (h : t.Grown t') (l : Location) : t'.content? l = t.content? l := by
  unfold FileTree.content?
  rcases h.node? l with hsame | ⟨hnone, hnew⟩
  · rw [hsame]
  · rw [hnone, hnew]

/-- A directory is made where nothing is, in a directory. -/
theorem make_eq_ok (h : t.make path = .ok t') : ∃ loc, t.locate path = .ok loc ∧
    t.node? loc = none ∧ t.node? loc.dropLast = some .directory ∧ t' = t.put loc .directory := by
  unfold make at h
  obtain ⟨loc, hlocate, h⟩ := bind_eq_ok h
  split at h
  · cases h
  · rename_i hnode
    split at h
    · rename_i hparent
      cases h
      exact ⟨loc, hlocate, hnode, hparent, rfl⟩
    · cases h
    · cases h

section

variable {P : FileTree → Prop} (hmake : ∀ {t t' : FileTree} {path : RawPath},
  P t → t.make path = .ok t' → P t')

include hmake

theorem reach_induction {paths missing : List RawPath} (ht : P t)
    (h : t.reach paths = .ok (missing, t')) : P t' := by
  induction paths generalizing missing with
  | nil =>
    cases h
    exact ht
  | cons path above ih =>
    rw [reach] at h
    split at h
    · rename_i hmade
      cases h
      exact hmake ht hmade
    · obtain ⟨found, hrest, h⟩ := bind_eq_ok h
      cases h
      exact ih hrest
    · split at h
      · cases h
        exact ht
      · cases h

theorem makeEach_induction {t : FileTree} (ht : P t) (paths : List RawPath) :
    P (t.makeEach paths).2 := by
  induction paths generalizing t with
  | nil => exact ht
  | cons path rest ih =>
    rw [makeEach]
    split
    · rename_i hmade
      exact ih (hmake ht hmade)
    · split
      · exact ih ht
      · exact ht

/-- Whether it succeeds or not, making directories keeps what making one directory keeps. -/
theorem makeAll_induction {t : FileTree} (ht : P t) (path : RawPath) : P (t.makeAll path).2 := by
  unfold makeAll
  dsimp only
  split
  · exact ht
  · split
    · exact ht
    · split
      · rename_i hreach
        exact makeEach_induction hmake (reach_induction hmake ht hreach) _
      · exact ht

end

theorem grown_make (h : t.make path = .ok t') : t.Grown t' := by
  obtain ⟨loc, -, hnode, -, rfl⟩ := make_eq_ok h
  have hnone : Table.find? loc t.nodes.entries = none := by
    unfold FileTree.node? at hnode
    split at hnode
    · cases hnode
    · exact hnode
  exact ⟨⟨[(loc, .directory)], Table.put_of_none hnone _, by simp⟩, rfl⟩

/-- Making directories adds directories and changes nothing else. -/
theorem grown_makeAll (t : FileTree) (path : RawPath) : t.Grown (t.makeAll path).2 :=
  makeAll_induction (fun hgrown hmake => hgrown.trans (grown_make hmake)) (.refl t) path

/-- Nothing is made where the directory is there already. -/
theorem makeAll_of_directory (h : t.find path = .ok (loc, .directory)) :
    t.makeAll path = (.ok (), t) := by
  obtain ⟨hlocate, hnode⟩ := find_eq_directory_iff.mp h
  have hmake : t.make path = .error .alreadyExists := by
    unfold make
    simp only [hlocate, hnode, bind, Except.bind]
    rfl
  have hdirectory : t.isDirectory path = true := by
    unfold isDirectory
    rw [h]
  have hreach : ∀ above, t.reach (path :: above) = .ok ([], t) := by
    intro above
    rw [reach, hmake]
    simp [hdirectory]
  unfold makeAll
  dsimp only
  rw [(locate_eq_ok_iff.mp hlocate).1, if_neg Bool.false_ne_true, hreach]
  split <;> rfl

end FileTree

end Conformance
