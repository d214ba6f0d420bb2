import Conformance.Proofs.Text.Bytes
import Conformance.Proofs.Text.Marks
import Conformance.Url.Basic

/-!
# The parameters of a query

Parameters are written into a query in encoded form, with `=` in each of them and `&` between them. Names
and values hold neither of these in encoded form, so what was written is read back, whatever the
characters are.

## Main definitions

- `Url.pairsOf` — the parameters of a query by its characters

## Main statements

- `Encode.formDecode_form` — reading undoes writing, for one name or value
- `Encode.of_mem_form` — the characters of an encoded text
- `Url.pairs_appendPairs` — parameters that are added come after those that are there
-/

namespace Conformance

namespace Encode

/-! ## Encoded bytes -/

theorem hexValue?_upperHex {n : Nat} (h : n < 16) : hexValue? (upperHex n) = some n := by
  revert n
  decide

theorem formKept_upperHex {n : Nat} (h : n < 16) : formKept (upperHex n) = true := by
  revert n
  decide

theorem percentDecode_cons {c : Char} (h : c ≠ '%') (rest : List Char) :
    percentDecode (c :: rest) = Text.bytesOf c.toString ++ percentDecode rest := by
  rw [percentDecode]
  rintro a b rest rfl
  exact absurd rfl h

theorem percentDecode_byte (b : UInt8) (rest : List Char) :
    percentDecode (byte b ++ rest) = b :: percentDecode rest := by
  have hb : b.toNat < 256 := b.toNat_lt
  have hhigh : hexValue? (upperHex (b.toNat / 16)) = some (b.toNat / 16) :=
    hexValue?_upperHex (by omega)
  have hlow : hexValue? (upperHex (b.toNat % 16)) = some (b.toNat % 16) :=
    hexValue?_upperHex (by omega)
  have hvalue : UInt8.ofNat (16 * (b.toNat / 16) + b.toNat % 16) = b := by
    rw [Nat.div_add_mod, UInt8.ofNat_toNat]
  show percentDecode ('%' :: upperHex (b.toNat / 16) :: upperHex (b.toNat % 16) :: rest) = _
  rw [percentDecode, hhigh, hlow]
  exact congrArg (· :: percentDecode rest) hvalue

theorem percentDecode_bytes (c : Char) (rest : List Char) :
    percentDecode (bytes c ++ rest) = Text.bytesOf c.toString ++ percentDecode rest := by
  unfold bytes
  generalize Text.bytesOf c.toString = bs
  induction bs with
  | nil => rfl
  | cons b bs ih =>
    rw [List.flatMap_cons, List.append_assoc, percentDecode_byte, ih, List.cons_append]

theorem of_mem_bytes {c d : Char} (h : d ∈ bytes c) : formKept d = true ∨ d = '%' := by
  obtain ⟨b, -, hb⟩ := List.mem_flatMap.mp h
  have hlt : b.toNat < 256 := b.toNat_lt
  simp only [byte, List.mem_cons, List.not_mem_nil, or_false] at hb
  rcases hb with rfl | rfl | rfl
  · exact .inr rfl
  · exact .inl (formKept_upperHex (by omega))
  · exact .inl (formKept_upperHex (by omega))

/-! ## Names and values -/

/-- An encoded text holds only characters that are kept, signs for blanks, and percent signs. -/
theorem of_mem_form {cs : List Char} {c : Char} (h : c ∈ form cs) :
    formKept c = true ∨ c = '+' ∨ c = '%' := by
  obtain ⟨d, -, hd⟩ := List.mem_flatMap.mp h
  split at hd
  · rename_i hkept
    rw [List.mem_singleton.mp hd]
    exact .inl hkept
  split at hd
  · exact .inr (.inl (List.mem_singleton.mp hd))
  · exact (of_mem_bytes hd).imp_right .inr

theorem not_mem_form {c : Char} (hkept : formKept c = false) (hblank : c ≠ '+')
    (hpercent : c ≠ '%') (cs : List Char) : c ∉ form cs := by
  intro h
  rcases of_mem_form h with h | h | h
  · rw [hkept] at h
    cases h
  · exact hblank h
  · exact hpercent h

/-- A sign for a blank as the blank. -/
def blankFor (c : Char) : Char := if c = '+' then ' ' else c

theorem map_blankFor_bytes (c : Char) : (bytes c).map blankFor = bytes c := by
  conv_rhs => rw [← List.map_id (bytes c)]
  refine List.map_congr_left fun d hd => if_neg ?_
  rintro rfl
  exact (of_mem_bytes hd).elim (by decide) (by decide)

/-- The bytes behind an encoded text are those of the text. -/
theorem percentDecode_form (cs : List Char) :
    percentDecode ((form cs).map blankFor) = Text.bytesOf (String.ofList cs) := by
  rw [Text.bytesOf_ofList]
  induction cs with
  | nil => rfl
  | cons c rest ih =>
    have hform : form (c :: rest) =
        (if formKept c then [c] else if c = ' ' then ['+'] else bytes c) ++ form rest := rfl
    have hbytes : Text.bytesOf c.toString = String.utf8EncodeChar c := by
      rw [Text.bytesOf_eq_flatMap]
      simp
    rw [hform, List.map_append, List.flatMap_cons, ← ih, ← hbytes]
    split
    · rename_i hkept
      have hplus : c ≠ '+' := by
        rintro rfl
        exact absurd hkept (by decide)
      have hpercent : c ≠ '%' := by
        rintro rfl
        exact absurd hkept (by decide)
      rw [List.map_singleton, blankFor, if_neg hplus, List.singleton_append, percentDecode_cons hpercent]
    split
    · rename_i hblank
      subst hblank
      exact percentDecode_cons (by decide) _
    · rw [map_blankFor_bytes, percentDecode_bytes]

/-- What was written is read back. -/
theorem formDecode_form (cs : List Char) : formDecode (form cs) = String.ofList cs := by
  show Text.ofBytesLossy (percentDecode ((form cs).map blankFor)) = _
  rw [percentDecode_form, Text.ofBytesLossy_bytesOf]

end Encode

namespace Url

/-! ## Parameters -/

/-- The parameters of a query by its characters. -/
def pairsOf (cs : List Char) : List (String × String) :=
  ((Text.splitAll (· = '&') cs).filter (!·.isEmpty)).map fun cs =>
    let (k, v) := cs.span (· ≠ '=')
    (Encode.formDecode k, Encode.formDecode (v.drop 1))

theorem pairs_eq (u : Url) : u.pairs = pairsOf (u.query.getD "").toList := by
  unfold pairs
  cases u.query <;> rfl

theorem pairsOf_append (before after : List Char) :
    pairsOf (before ++ '&' :: after) = pairsOf before ++ pairsOf after := by
  unfold pairsOf
  rw [Text.splitAll_append rfl, List.filter_append, List.map_append]

/-- A parameter that is written is read back. -/
theorem pairsOf_encodePair (p : String × String) : pairsOf (encodePair p).toList = [p] := by
  obtain ⟨k, v⟩ := p
  have hamp : ∀ cs, '&' ∉ Encode.form cs :=
    Encode.not_mem_form (by decide) (by decide) (by decide)
  have heq : '=' ∉ Encode.form k.toList :=
    Encode.not_mem_form (by decide) (by decide) (by decide) _
  have hsplit : Text.splitAll (· = '&') (encodePair (k, v)).toList =
      [Encode.form k.toList ++ '=' :: Encode.form v.toList] := by
    rw [encodePair, String.toList_ofList]
    refine Text.splitAll_of_forall_not fun c hc => decide_eq_false ?_
    rintro rfl
    rcases List.mem_append.mp hc with hc | hc
    · exact hamp _ hc
    · exact hamp _ (List.mem_of_ne_of_mem (by decide) hc)
  unfold pairsOf
  rw [hsplit, List.filter_cons_of_pos (by simp), List.filter_nil, List.map_singleton,
    Text.span_append_marker heq]
  simp only [List.drop_one, List.tail_cons, Encode.formDecode_form, String.ofList_toList]

/-- Texts with `&` between them hold the parameters of all of them. -/
theorem pairsOf_intercalate (texts : List String) :
    pairsOf ("&".intercalate texts).toList = texts.flatMap fun text => pairsOf text.toList := by
  rw [String.toList_intercalate]
  induction texts with
  | nil => rfl
  | cons text rest ih =>
    cases rest with
    | nil =>
      rw [List.map_singleton, List.intercalate_singleton, List.flatMap_singleton]
    | cons next others =>
      rw [List.map_cons, List.map_cons, List.intercalate_cons_cons, List.append_assoc,
        List.flatMap_cons, ← ih, List.map_cons]
      exact pairsOf_append _ _

/-- The parameters that are added come after those that are there. -/
theorem pairs_appendPairs (u : Url) (added : List (String × String)) :
    (u.appendPairs added).pairs = u.pairs ++ added := by
  unfold appendPairs
  split
  · rename_i hnone
    rw [List.isEmpty_iff.mp hnone, List.append_nil]
  · have hwritten : (added.map encodePair).flatMap (fun text => pairsOf text.toList) = added := by
      rw [List.flatMap_map]
      simp only [pairsOf_encodePair, List.flatMap_singleton']
    rw [pairs_eq, Option.getD_some, pairsOf_intercalate, List.flatMap_append, hwritten, pairs_eq]
    cases u.query with
    | none => rfl
    | some q =>
      dsimp only
      split
      · rename_i hempty
        rw [String.isEmpty_iff.mp hempty]
        rfl
      · rw [List.flatMap_singleton]
        rfl

end Url

end Conformance
