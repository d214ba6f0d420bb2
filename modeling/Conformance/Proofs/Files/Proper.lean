import Mathlib.Data.List.Induction
import Conformance.Proofs.Files.Paths
import Conformance.Proofs.Files.Writing

/-!
# Trees of a file system

In a file system every entry is in a directory that is there, and no name contains a slash. Making
directories and writing files keep it so. In such a tree a path leads to an entry of a directory
exactly if the directory has the entry, and nothing is below what is no directory.

## Main definitions

- `FileTree.Proper` — the tree is one of a file system
- `FileTree.without` — the tree without one entry

## Main statements

- `FileTree.Proper.makeAll`, `FileTree.Proper.write` — trees stay proper
- `FileTree.find_of_enters` — where the path of an entry leads
- `FileTree.Proper.directory_of_made` — what is in a directory that has been made
- `FileTree.list_split` — the entries of a directory, with and without one of them
-/

namespace Conformance

namespace Table

variable {κ α : Type} [DecidableEq κ]

theorem mem_put {key : κ} {value : α} {entries : List (κ × α)} {e : κ × α}
    (h : e ∈ put key value entries) : e = (key, value) ∨ e ∈ entries := by
  induction entries with
  | nil => exact .inl (List.mem_singleton.mp h)
  | cons e₁ rest ih =>
    obtain ⟨k, v⟩ := e₁
    rw [put] at h
    split at h
    · rename_i hk
      rcases List.mem_cons.mp h with rfl | h
      · exact .inl (by rw [hk])
      · exact .inr (List.mem_cons_of_mem _ h)
    · rcases List.mem_cons.mp h with rfl | h
      · exact .inr List.mem_cons_self
      · exact (ih h).imp_right (List.mem_cons_of_mem _)

theorem nodup_put {key : κ} {value : α} {entries : List (κ × α)}
    (h : (entries.map (·.1)).Nodup) : ((put key value entries).map (·.1)).Nodup := by
  induction entries with
  | nil => exact List.nodup_cons.mpr ⟨List.not_mem_nil, List.nodup_nil⟩
  | cons e rest ih =>
    obtain ⟨k, v⟩ := e
    rw [List.map_cons, List.nodup_cons] at h
    rw [put]
    split
    · exact List.nodup_cons.mpr h
    · rename_i hk
      refine List.nodup_cons.mpr ⟨fun hmem => ?_, ih h.2⟩
      obtain ⟨e, he, rfl⟩ := List.mem_map.mp hmem
      rcases mem_put he with rfl | he
      · exact hk rfl
      · exact h.1 (List.mem_map.mpr ⟨e, he, rfl⟩)

/-- What has been stored under a key leaves with the key. -/
theorem erase_insert (t : Table κ α) (key : κ) (value : α) :
    (t.insert key value).erase key = t.erase key := by
  have hput : ∀ entries : List (κ × α), (put key value entries).filter (fun e => e.1 ≠ key) =
      entries.filter fun e => e.1 ≠ key := by
    intro entries
    induction entries with
    | nil => simp [put]
    | cons e rest ih =>
      obtain ⟨k, v⟩ := e
      rw [put]
      split
      · rename_i hk
        simp [hk]
      · rw [List.filter_cons, List.filter_cons, ih]
  exact congrArg Table.mk (hput t.entries)

theorem ne_of_find?_eq_none {key : κ} {entries : List (κ × α)} (h : find? key entries = none)
    {e : κ × α} (he : e ∈ entries) : e.1 ≠ key := by
  induction entries with
  | nil => cases he
  | cons e₁ rest ih =>
    obtain ⟨k, v⟩ := e₁
    rw [find?] at h
    split at h
    · cases h
    · rename_i hk
      rcases List.mem_cons.mp he with rfl | he
      · exact hk
      · exact ih h he

theorem erase_of_get?_eq_none {t : Table κ α} {key : κ} (h : t.get? key = none) :
    t.erase key = t :=
  congrArg Table.mk (List.filter_eq_self.mpr fun _ he => decide_eq_true (ne_of_find?_eq_none h he))

/-- An entry has its place among the entries, and all others have other keys. -/
theorem split_of_get? {t : Table κ α} (hnodup : t.keys.Nodup) {key : κ} {value : α}
    (h : t.get? key = some value) : ∃ before after, t.entries = before ++ (key, value) :: after ∧
      (t.erase key).entries = before ++ after ∧ ∀ e ∈ before ++ after, e.1 ≠ key := by
  obtain ⟨before, after, hsplit⟩ := List.append_of_mem (mem_of_find? h)
  have hothers : ∀ e ∈ before ++ after, e.1 ≠ key := by
    rw [keys, hsplit, List.map_append, List.map_cons, List.perm_middle.nodup_iff] at hnodup
    rintro e he rfl
    refine (List.nodup_cons.mp hnodup).1 ?_
    rw [← List.map_append]
    exact List.mem_map.mpr ⟨e, he, rfl⟩
  refine ⟨before, after, hsplit, ?_, hothers⟩
  have hkept : (before ++ after).filter (fun e => e.1 ≠ key) = before ++ after :=
    List.filter_eq_self.mpr fun e he => decide_eq_true (hothers e he)
  show t.entries.filter (fun e => e.1 ≠ key) = _
  rw [hsplit, List.filter_append, List.filter_cons_of_neg (by simp), ← List.filter_append, hkept]

end Table

namespace FileTree

variable {t t' : FileTree} {path dirPath : RawPath} {loc dir : Location} {name : FileName}
  {node : FileNode}

/-! ## Proper trees -/

theorem mem_of_node? (hloc : loc ≠ []) (h : t.node? loc = some node) :
    (loc, node) ∈ t.nodes.entries := by
  rw [node?, if_neg hloc] at h
  exact Table.mem_of_find? h

/-- The tree is one of a file system. -/
structure Proper (t : FileTree) : Prop where
  nodup : t.nodes.keys.Nodup
  parent : ∀ e ∈ t.nodes.entries, t.node? e.1.dropLast = some .directory
  noSlash : ∀ e ∈ t.nodes.entries, ∀ name ∈ e.1, Path.slash ∉ name
  current : ∀ name ∈ t.current, Path.slash ∉ name

theorem proper_empty : Proper {} := ⟨List.nodup_nil, nofun, nofun, nofun⟩

/-- An entry may be stored in a directory, unless it replaces a directory. -/
theorem Proper.put (h : t.Proper) (hloc : loc ≠ [])
    (hparent : t.node? loc.dropLast = some .directory) (hnode : t.node? loc ≠ some .directory)
    (hnames : ∀ name ∈ loc, Path.slash ∉ name) : (t.put loc node).Proper where
  nodup := Table.nodup_put h.nodup
  parent := by
    have hkept : ∀ l, t.node? l = some .directory → (t.put loc node).node? l = some .directory := by
      intro l hl
      rw [node?_put t hloc, if_neg, hl]
      rintro rfl
      exact hnode hl
    intro e he
    rcases Table.mem_put he with rfl | he
    · exact hkept _ hparent
    · exact hkept _ (h.parent e he)
  noSlash := by
    intro e he
    rcases Table.mem_put he with rfl | he
    · exact hnames
    · exact h.noSlash e he
  current := h.current

/-- Every directory above an entry is there. -/
theorem Proper.directory_of_prefix (h : t.Proper) {l : Location} (hnode : t.node? loc ≠ none)
    (hl : l <+: loc) (hne : l ≠ loc) : t.node? l = some .directory := by
  induction loc using List.reverseRecOn with
  | nil => exact absurd (List.prefix_nil.mp hl) hne
  | append_singleton above name ih =>
    obtain ⟨node, hsome⟩ := Option.ne_none_iff_exists'.mp hnode
    have habove : t.node? above = some .directory := by
      have hparent := h.parent _ (mem_of_node? (by simp) hsome)
      rwa [List.dropLast_concat] at hparent
    rcases List.prefix_concat_iff.mp hl with rfl | hl
    · exact absurd rfl hne
    · by_cases hsame : l = above
      · rw [hsame, habove]
      · exact ih (by simp [habove]) hl hsame

/-! ## Where paths lead -/

theorem mem_stepTo {start : Location} {n : FileName} (h : n ∈ stepTo start name) :
    n ∈ start ∨ n = name := by
  unfold stepTo at h
  split at h
  · exact .inl h
  · split at h
    · exact .inl (List.dropLast_subset start h)
    · exact (List.mem_append.mp h).imp_right List.mem_singleton.mp

theorem noSlash_of_walk {names : List FileName} {start : Location}
    (hstart : ∀ name ∈ start, Path.slash ∉ name) (hnames : ∀ name ∈ names, Path.slash ∉ name)
    (h : t.walk start names = .ok loc) : ∀ name ∈ loc, Path.slash ∉ name := by
  induction names generalizing start with
  | nil =>
    cases h
    exact hstart
  | cons name rest ih =>
    obtain ⟨hname, hrest⟩ := List.forall_mem_cons.mp hnames
    obtain ⟨-, -, hwalk⟩ := walk_cons_eq_ok_iff.mp h
    refine ih (fun n hn => ?_) hrest hwalk
    rcases mem_stepTo hn with hn | rfl
    · exact hstart n hn
    · exact hname

theorem Proper.noSlash_of_locate (h : t.Proper) (hlocate : t.locate path = .ok loc) :
    ∀ name ∈ loc, Path.slash ∉ name := by
  refine noSlash_of_walk ?_ (fun _ => Path.slash_not_mem_parts) (locate_eq_ok_iff.mp hlocate).2.2.2
  split
  · nofun
  · exact h.current

theorem Proper.make (h : t.Proper) (hmake : t.make path = .ok t') : t'.Proper := by
  obtain ⟨loc, hlocate, hnode, hparent, rfl⟩ := make_eq_ok hmake
  have hnode' : t.node? loc ≠ some .directory := by simp [hnode]
  exact h.put (ne_nil_of_node? hnode') hparent hnode' (h.noSlash_of_locate hlocate)

theorem Proper.makeAll (h : t.Proper) (path : RawPath) : (t.makeAll path).2.Proper :=
  makeAll_induction Proper.make h path

theorem Proper.write (h : t.Proper) {content : List UInt8} (hwrite : t.write path content = .ok t') :
    t'.Proper := by
  obtain ⟨loc, htarget, rfl⟩ := write_eq_ok hwrite
  obtain ⟨hlocate, hwritable, -⟩ := target_eq_ok_iff.mp htarget
  have hloc := ne_nil_of_node? hwritable.free
  refine h.put hloc ?_ hwritable.free (h.noSlash_of_locate hlocate)
  cases hthere : t.node? loc with
  | some node => exact h.parent _ (mem_of_node? hloc hthere)
  | none => exact hwritable.parent hthere

theorem walk_append (t : FileTree) (start : Location) (names more : List FileName) :
    t.walk start (names ++ more) = (t.walk start names).bind fun l => t.walk l more := by
  induction names generalizing start with
  | nil => rfl
  | cons name rest ih =>
    rw [List.cons_append, walk_cons, walk_cons]
    split
    · rfl
    · rfl
    · split
      · rfl
      · exact ih _

theorem stepTo_name (hname : Path.IsName name) (dir : Location) : stepTo dir name = dir ++ [name] := by
  rw [stepTo, if_neg hname.dot, if_neg hname.dots]

theorem walk_name (hname : Path.IsName name) (hdir : t.node? dir = some .directory) :
    t.walk dir [name] = if 255 < name.length then .error .nameTooLong else .ok (dir ++ [name]) := by
  rw [walk_cons, hdir, stepTo_name hname]
  rfl

/-- Where the path of an entry leads, if that of its directory leads to a directory. -/
theorem locate_of_enters (henters : Path.Enters path dirPath name) (hname : Path.IsName name)
    (hdir : t.find dirPath = .ok (dir, .directory)) : t.locate path =
      if path.contains 0 then .error .nulByte
      else if 4095 < path.length then .error .nameTooLong
      else if 255 < name.length then .error .nameTooLong
      else .ok (dir ++ [name]) := by
  obtain ⟨hlocate, hnode⟩ := find_eq_directory_iff.mp hdir
  obtain ⟨-, hempty, -, hwalk⟩ := locate_eq_ok_iff.mp hlocate
  have hempty' : path.isEmpty = false := by
    obtain ⟨rest, rfl⟩ := henters.initial
    cases dirPath with
    | nil => cases hempty
    | cons _ _ => rfl
  unfold locate
  rw [hempty', henters.isAbsolute, henters.parts, walk_append, hwalk, Except.bind,
    walk_name hname hnode]
  rfl

/-- What is found by the path of an entry is what its directory has under its name. -/
theorem find_of_enters (henters : Path.Enters path dirPath name) (hname : Path.IsName name)
    (hdir : t.find dirPath = .ok (dir, .directory)) : t.find path =
      (t.locate path).bind fun loc => match t.node? (dir ++ [name]) with
        | some node => .ok (loc, node)
        | none => .error .notFound := by
  have hlocate := locate_of_enters henters hname hdir
  unfold find
  simp only [hlocate, henters.wantsDirectory]
  split
  · rfl
  · split
    · rfl
    · split
      · rfl
      · simp only [bind, Except.bind]
        cases t.node? (dir ++ [name]) with
        | none => rfl
        | some node => cases node <;> rfl

theorem node?_of_find (henters : Path.Enters path dirPath name) (hname : Path.IsName name)
    (hdir : t.find dirPath = .ok (dir, .directory)) (h : t.find path = .ok (loc, node)) :
    t.node? (dir ++ [name]) = some node := by
  rw [find_of_enters henters hname hdir] at h
  obtain ⟨l, -, h⟩ := bind_eq_ok h
  split at h
  · cases h
    assumption
  · cases h

/-- Two trees that have the same entry in a directory have it under the same path. -/
theorem find_congr (henters : Path.Enters path dirPath name) (hname : Path.IsName name)
    (hdir : t.find dirPath = .ok (dir, .directory))
    (hdir' : t'.find dirPath = .ok (dir, .directory))
    (hnode : t'.node? (dir ++ [name]) = t.node? (dir ++ [name])) : t'.find path = t.find path := by
  rw [find_of_enters henters hname hdir, find_of_enters henters hname hdir', hnode,
    locate_of_enters henters hname hdir, locate_of_enters henters hname hdir']

/-- Who gets to an entry has come by its directory. -/
theorem find_directory_of_enters (henters : Path.Enters path dirPath name)
    (hname : Path.IsName name) (hdir : dirPath ≠ []) (h : t.locate path = .ok loc) :
    ∃ dir, t.find dirPath = .ok (dir, .directory) ∧ loc = dir ++ [name] := by
  obtain ⟨hnul, -, hlength, hwalk⟩ := locate_eq_ok_iff.mp h
  rw [henters.isAbsolute, henters.parts, walk_append] at hwalk
  obtain ⟨dir, hbefore, hlast⟩ := bind_eq_ok hwalk
  obtain ⟨hnode, -, hname'⟩ := walk_cons_eq_ok_iff.mp hlast
  rw [stepTo_name hname] at hname'
  obtain ⟨rest, hrest⟩ := henters.initial
  refine ⟨dir, find_eq_directory_iff.mpr ⟨locate_eq_ok_iff.mpr ⟨?_, ?_, ?_, hbefore⟩, hnode⟩,
    (Except.ok.inj hname').symm⟩
  · rw [← hrest] at hnul
    simp at hnul ⊢
    exact hnul.1
  · rw [List.isEmpty_eq_false_iff]
    exact hdir
  · rw [← hrest, List.length_append] at hlength
    exact Nat.le_trans (Nat.le_add_right _ _) hlength

/-! ## Directories that have been made -/

/-- A way that never leads back leads on from where it starts, and can be gone in every tree that has
the directories on it. -/
theorem walk_of_forward {names : List FileName} (hforward : [0x2E, 0x2E] ∉ names) {start : Location}
    (h : t'.walk start names = .ok loc) : start <+: loc ∧
      ((∀ l, l <+: loc → t.node? l = some .directory) → t.walk start names = .ok loc) := by
  induction names generalizing start with
  | nil =>
    cases h
    exact ⟨List.prefix_rfl, fun _ => rfl⟩
  | cons name rest ih =>
    obtain ⟨hname, hrest⟩ := not_or.mp (mt List.mem_cons.mpr hforward)
    obtain ⟨-, hshort, hwalk⟩ := walk_cons_eq_ok_iff.mp h
    -- every directory on the way is a prefix of where the way leads
    obtain ⟨hbegins, hgo⟩ := ih hrest hwalk
    have hstep : start <+: stepTo start name := by
      unfold stepTo
      split
      · exact List.prefix_rfl
      · rw [if_neg (Ne.symm hname)]
        exact List.prefix_append _ _
    have hstart := hstep.trans hbegins
    exact ⟨hstart, fun hdirs => walk_cons_eq_ok_iff.mpr ⟨hdirs start hstart, hshort, hgo hdirs⟩⟩

/-- A missing directory whose path never leads back is made where no directory is. -/
theorem Proper.node?_of_missing (h : t.Proper) (hgrown : t.Grown t')
    (hforward : [0x2E, 0x2E] ∉ Path.parts path) (hmissing : ∀ loc, t.find path ≠ .ok (loc, .directory))
    (hmade : t'.find path = .ok (loc, .directory)) : t.node? loc ≠ some .directory := by
  intro hnode
  obtain ⟨hlocate, -⟩ := find_eq_directory_iff.mp hmade
  obtain ⟨hnul, hempty, hlength, hwalk⟩ := locate_eq_ok_iff.mp hlocate
  have hdirs : ∀ l, l <+: loc → t.node? l = some .directory := by
    intro l hl
    by_cases hsame : l = loc
    · rw [hsame, hnode]
    · exact h.directory_of_prefix (by simp [hnode]) hl hsame
  rw [hgrown.current] at hwalk
  refine hmissing loc (find_eq_directory_iff.mpr ⟨?_, hnode⟩)
  exact locate_eq_ok_iff.mpr ⟨hnul, hempty, hlength, (walk_of_forward hforward hwalk).2 hdirs⟩

/-- What is in a directory that was not there has been made with it. -/
theorem Proper.directory_of_made (h : t.Proper) (hgrown : t.Grown t')
    (hdir : t.node? dir ≠ some .directory) (hentry : (dir ++ [name], node) ∈ t'.nodes.entries) :
    node = .directory := by
  obtain ⟨⟨added, hadded, hdirs⟩, -⟩ := hgrown
  rw [hadded] at hentry
  rcases List.mem_append.mp hentry with hold | hnew
  · have hparent := h.parent _ hold
    rw [List.dropLast_concat] at hparent
    exact absurd hparent hdir
  · exact hdirs _ hnew

/-! ## Trees without one entry -/

/-- The tree without the entry at a location. -/
def without (t : FileTree) (loc : Location) : FileTree := { t with nodes := t.nodes.erase loc }

theorem node?_without (t : FileTree) (hloc : loc ≠ []) (l : Location) :
    (t.without loc).node? l = if loc = l then none else t.node? l := by
  unfold node? without
  by_cases hl : l = []
  · rw [if_pos hl, if_pos hl, if_neg (hl ▸ hloc)]
  · rw [if_neg hl, if_neg hl]
    exact Table.get?_erase t.nodes loc l

theorem without_put (t : FileTree) (loc : Location) (node : FileNode) :
    (t.put loc node).without loc = t.without loc := by
  unfold without put
  rw [Table.erase_insert]

theorem without_of_none (h : t.node? loc = none) : t.without loc = t := by
  have hnone : t.nodes.get? loc = none := by
    unfold node? at h
    split at h
    · cases h
    · exact h
  unfold without
  rw [Table.erase_of_get?_eq_none hnone]

/-- Directories are found whether or not a file is there. -/
theorem find_directory_without (hloc : t.node? loc ≠ some .directory) :
    (t.without loc).find path = .ok (dir, .directory) ↔ t.find path = .ok (dir, .directory) := by
  have hdirs : ∀ l, (t.without loc).node? l = some .directory ↔ t.node? l = some .directory := by
    intro l
    rw [node?_without t (ne_nil_of_node? hloc)]
    split
    · rename_i hl
      exact ⟨nofun, fun h => absurd (hl ▸ h) hloc⟩
    · exact Iff.rfl
  rw [find_eq_directory_iff, find_eq_directory_iff, hdirs]
  refine and_congr_left fun _ => ⟨?_, ?_⟩
  · exact locate_of_directories (fun l => (hdirs l).mp) rfl
  · exact locate_of_directories (fun l => (hdirs l).mpr) rfl

/-! ## Lists of entries -/

/-- The name that an entry has in a directory, if it is in it. -/
def nameIn? (dir : Location) (e : Location × FileNode) : Option (FileName × FileNode) :=
  match e.1.getLast? with
  | some name => if e.1.dropLast = dir then some (name, e.2) else none
  | none => none

theorem list_of_directory (hdir : t.find path = .ok (dir, .directory)) :
    t.list path = .ok (t.nodes.entries.filterMap (nameIn? dir)) := by
  unfold list
  rw [hdir]
  rfl

theorem directory_of_list {entries : List (FileName × FileNode)} (h : t.list path = .ok entries) :
    ∃ dir, t.find path = .ok (dir, .directory) := by
  unfold list at h
  obtain ⟨⟨dir, node⟩, hfind, h⟩ := bind_eq_ok h
  cases node with
  | directory => exact ⟨dir, hfind⟩
  | file content => cases h

theorem nameIn?_eq_some_iff {e : Location × FileNode} :
    nameIn? dir e = some (name, node) ↔ e = (dir ++ [name], node) := by
  obtain ⟨loc, node'⟩ := e
  unfold nameIn?
  induction loc using List.reverseRecOn with
  | nil => simp
  | append_singleton above last _ =>
    simp only [List.getLast?_concat, List.dropLast_concat, Prod.mk.injEq]
    constructor
    · intro h
      split at h
      · rename_i habove
        cases h
        exact ⟨by rw [habove], rfl⟩
      · cases h
    · rintro ⟨hloc, rfl⟩
      obtain ⟨rfl, hlast⟩ := List.append_inj' hloc rfl
      rw [if_pos rfl, List.singleton_inj.mp hlast]

/-- The entries of a directory, with and without one of them. All others have other names. -/
theorem list_split (h : t.Proper) (hdir : t.find path = .ok (dir, .directory))
    (hnode : t.node? (dir ++ [name]) = some node) (hfile : node ≠ .directory) :
    ∃ before after, t.list path = .ok (before ++ (name, node) :: after) ∧
      (t.without (dir ++ [name])).list path = .ok (before ++ after) ∧
      ∀ e ∈ before ++ after, e.1 ≠ name ∧ Path.slash ∉ e.1 := by
  have hloc : dir ++ [name] ≠ [] := by simp
  have hget : t.nodes.get? (dir ++ [name]) = some node := by
    rwa [node?, if_neg hloc] at hnode
  obtain ⟨before, after, hentries, herased, hothers⟩ := Table.split_of_get? h.nodup hget
  have hdir' : (t.without (dir ++ [name])).find path = .ok (dir, .directory) :=
    (find_directory_without (by simpa [hnode] using hfile)).mpr hdir
  refine ⟨before.filterMap (nameIn? dir), after.filterMap (nameIn? dir), ?_, ?_, ?_⟩
  · rw [list_of_directory hdir, hentries, List.filterMap_append,
      List.filterMap_cons_some (nameIn?_eq_some_iff.mpr rfl)]
  · rw [list_of_directory hdir', ← List.filterMap_append, ← herased]
    rfl
  · rw [← List.filterMap_append]
    rintro ⟨n, node'⟩ he
    obtain ⟨e, he, hname⟩ := List.mem_filterMap.mp he
    obtain rfl := nameIn?_eq_some_iff.mp hname
    have hmem : (dir ++ [n], node') ∈ t.nodes.entries := by
      rw [hentries]
      exact List.perm_middle.mem_iff.mpr (List.mem_cons_of_mem _ he)
    refine ⟨?_, h.noSlash _ hmem n (by simp)⟩
    rintro rfl
    exact hothers _ he rfl

end FileTree

end Conformance
