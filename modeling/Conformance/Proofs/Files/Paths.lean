import Conformance.Files.Path
import Conformance.Proofs.Text.Bytes

/-!
# Entering a directory

The path of an entry is the path of its directory, extended by the name of the entry. Where the path
of the directory leads, one more step leads to the entry.

## Main definitions

- `Path.IsName` — what an entry may be called
- `Path.Enters` — a path that leads one step further than another one

## Main statements

- `Text.slash_of_mem_bytesOf` — the byte of a slash stands for a slash
- `Path.enters_push` — extending a path by a name
-/

namespace Conformance

namespace Text

/-- The byte of a slash stands for nothing else. -/
theorem slash_of_mem_bytesOf {s : String} (h : Path.slash ∈ bytesOf s) : '/' ∈ s.toList :=
  mem_of_mem_bytesOf (by decide) h

end Text

namespace Path

/-! ## The names in a path -/

theorem pieces_ne_nil (path : RawPath) : pieces path ≠ [] := by
  induction path with
  | nil => exact List.cons_ne_nil _ _
  | cons b rest ih =>
    rw [pieces]
    split
    · exact List.cons_ne_nil _ _
    · split <;> exact List.cons_ne_nil _ _

theorem pieces_append_slash (before after : RawPath) :
    pieces (before ++ slash :: after) = pieces before ++ pieces after := by
  induction before with
  | nil => simp [pieces]
  | cons b rest ih =>
    rw [List.cons_append, pieces, pieces, ih]
    split
    · rfl
    · cases hpieces : pieces rest with
      | nil => exact absurd hpieces (pieces_ne_nil rest)
      | cons piece others => rfl

theorem pieces_of_not_mem {name : FileName} (h : slash ∉ name) : pieces name = [name] := by
  induction name with
  | nil => rfl
  | cons b rest ih =>
    have hne : b ≠ slash := fun hb => h (hb ▸ List.mem_cons_self)
    rw [pieces, if_neg hne, ih fun hmem => h (List.mem_cons_of_mem _ hmem)]

theorem slash_not_mem_pieces {path : RawPath} {name : FileName} (h : name ∈ pieces path) :
    slash ∉ name := by
  induction path generalizing name with
  | nil =>
    rw [List.mem_singleton.mp h]
    exact List.not_mem_nil
  | cons b rest ih =>
    rw [pieces] at h
    split at h
    · rcases List.mem_cons.mp h with rfl | h
      · exact List.not_mem_nil
      · exact ih h
    · rename_i hb
      cases hpieces : pieces rest with
      | nil => exact absurd hpieces (pieces_ne_nil rest)
      | cons piece others =>
        rw [hpieces] at h ih
        rcases List.mem_cons.mp h with rfl | h
        · rw [List.mem_cons, not_or]
          exact ⟨Ne.symm hb, ih List.mem_cons_self⟩
        · exact ih (List.mem_cons_of_mem _ h)

theorem slash_not_mem_parts {path : RawPath} {name : FileName} (h : name ∈ parts path) :
    slash ∉ name :=
  slash_not_mem_pieces (List.mem_filter.mp h).1

/-- What a directory may call an entry. -/
structure IsName (name : FileName) : Prop where
  noSlash : slash ∉ name
  nonempty : name ≠ []
  dot : name ≠ [0x2E]
  dots : name ≠ [0x2E, 0x2E]

variable {name : FileName}

theorem IsName.parts (h : IsName name) : parts name = [name] := by
  rw [Path.parts, pieces_of_not_mem h.noSlash]
  simp [h.nonempty]

theorem parts_append_slash (before after : RawPath) :
    parts (before ++ slash :: after) = parts before ++ parts after := by
  rw [parts, pieces_append_slash, List.filter_append]
  rfl

theorem IsName.wantsDirectory (h : IsName name) (before : RawPath) :
    wantsDirectory (before ++ slash :: name) = false := by
  rw [Path.wantsDirectory, pieces_append_slash, pieces_of_not_mem h.noSlash, List.getLast?_concat]
  simp [h.nonempty, h.dot, h.dots]

/-- The path leads to an entry of a directory. -/
structure Enters (path dir : RawPath) (name : FileName) : Prop where
  parts : parts path = Path.parts dir ++ [name]
  isAbsolute : isAbsolute path = Path.isAbsolute dir
  wantsDirectory : wantsDirectory path = false
  initial : dir <+: path

theorem enters_slash (h : IsName name) {dir : RawPath} (hdir : dir ≠ []) :
    Enters (dir ++ slash :: name) dir name where
  parts := by rw [parts_append_slash, h.parts]
  isAbsolute := by
    obtain ⟨b, rest, rfl⟩ := List.exists_cons_of_ne_nil hdir
    rfl
  wantsDirectory := h.wantsDirectory dir
  initial := List.prefix_append ..

/-- A slash at the end of the path of a directory is not doubled. -/
theorem enters_of_slash (h : IsName name) (dir : RawPath) :
    Enters (dir ++ slash :: name) (dir ++ [slash]) name where
  parts := by rw [parts_append_slash, parts_append_slash, h.parts]; simp [Path.parts, pieces]
  isAbsolute := by cases dir <;> rfl
  wantsDirectory := h.wantsDirectory dir
  initial := ⟨name, by rw [List.append_assoc]; rfl⟩

theorem bytesOf_slash : Text.bytesOf "/" = [slash] := by decide +kernel

/-- A directory is extended by the name of an entry. -/
theorem enters_push {dir name : String} (hdir : dir ≠ "") (h : IsName (Text.bytesOf name)) :
    Enters (Text.bytesOf (push dir name)) (Text.bytesOf dir) (Text.bytesOf name) := by
  have hstart : name.startsWith "/" = false := by
    refine Bool.eq_false_iff.mpr fun hstart => h.noSlash ?_
    obtain ⟨rest, hrest⟩ := String.startsWith_string_iff.mp hstart
    have hname : name = "/" ++ String.ofList rest := by
      rw [← String.toList_inj, String.toList_append, @String.toList_ofList rest, hrest]
    rw [hname, Text.bytesOf_append, bytesOf_slash]
    exact List.mem_cons_self
  have hempty : dir.isEmpty = false := Bool.eq_false_iff.mpr fun h => hdir (String.isEmpty_iff.mp h)
  unfold push
  rw [hstart, if_neg Bool.false_ne_true, hempty, Bool.false_or]
  split
  · rename_i hend
    rw [String.endsWith_eq_endsWith_toSlice, String.Slice.endsWith_string_iff,
      String.copy_toSlice] at hend
    obtain ⟨before, hbefore⟩ := hend
    have hdir' : dir = String.ofList before ++ "/" := by
      rw [← String.toList_inj, String.toList_append, @String.toList_ofList before, hbefore]
    rw [hdir', Text.bytesOf_append, Text.bytesOf_append, bytesOf_slash, List.append_assoc]
    exact enters_of_slash h _
  · rw [Text.bytesOf_append, Text.bytesOf_append, bytesOf_slash, List.append_assoc]
    exact enters_slash h (Text.bytesOf_ne_nil hdir)

end Path

end Conformance
