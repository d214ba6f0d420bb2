import Conformance.Json.Draft

/-!
# Values, drafts and canonical values

A value that is taken as a draft has no marked parts, so it can be read as a value again. What is
read is canonical: of the fields with one key only the last one counts.

## Main definitions

- `Json.field?` — the field of an object that counts
- `Json.Settled` — fields in key order, with canonical values

## Main statements

- `Json.value?_draft` — a draft of a value is read as the canonical value
- `Json.get?_canonical` — a field of a canonical value
- `Json.canonical_of_value?` — what is read from a draft is canonical
-/

namespace Conformance

namespace Json

theorem draftItems_eq_map (items : List Json) : draftItems items = items.map draft := by
  induction items with
  | nil => rfl
  | cons v rest ih => rw [draftItems, ih, List.map_cons]

theorem draftFields_eq_map (fields : List (String × Json)) :
    draftFields fields = fields.map fun f => (f.1, f.2.draft) := by
  induction fields with
  | nil => rfl
  | cons f rest ih => rw [draftFields, ih, List.map_cons]

theorem canonicalItems_eq_map (items : List Json) :
    canonicalItems items = items.map canonical := by
  induction items with
  | nil => rfl
  | cons v rest ih => rw [canonicalItems, ih, List.map_cons]

mutual

/-- A draft of a value can be read. -/
theorem value?_draft : ∀ v : Json, v.draft.value? = some v.canonical
  | null => by simp only [draft, Draft.value?, canonical]
  | bool b => by simp only [draft, Draft.value?, canonical]
  | int n => by simp only [draft, Draft.value?, canonical]
  | float x => by simp only [draft, Draft.value?, canonical]
  | str s => by simp only [draft, Draft.value?, canonical]
  | arr items => by
    rw [draft, Draft.value?, itemValues?_draftItems items, canonical, Option.map_some]
  | obj fields => by
    rw [draft, Draft.value?, fieldValues?_draftFields fields [], canonical, Option.map_some]

theorem itemValues?_draftItems : ∀ items : List Json,
    Draft.itemValues? (draftItems items) = some (canonicalItems items)
  | [] => rfl
  | v :: rest => by
    rw [draftItems, Draft.itemValues?, value?_draft v, itemValues?_draftItems rest, canonicalItems]

theorem fieldValues?_draftFields : ∀ (fields done : List (String × Json)),
    Draft.fieldValues? (draftFields fields) done = some (canonicalFields fields done)
  | [], done => rfl
  | (k, v) :: rest, done => by
    rw [draftFields, Draft.fieldValues?, value?_draft v, canonicalFields]
    exact fieldValues?_draftFields rest _

end

/-- The field of an object that counts, if a key is repeated: the last one. -/
def field? : Json → String → Option Json
  | obj fields, key => findField key fields.reverse
  | _, _ => none

theorem findField_canonicalFields (key : String) (fields done : List (String × Json)) :
    findField key (canonicalFields fields done) =
      ((findField key fields.reverse).map canonical).or (findField key done) := by
  induction fields generalizing done with
  | nil => rfl
  | cons f rest ih =>
    obtain ⟨k, v⟩ := f
    rw [canonicalFields, ih, findField_put, List.reverse_cons, findField_append]
    by_cases hk : k = key
    · cases findField key rest.reverse <;> simp [findField, hk]
    · simp [findField, hk]

/-- A field of a canonical value is the canonical value of the field that counts. -/
theorem get?_canonical (v : Json) (key : String) :
    v.canonical.get? key = (v.field? key).map canonical := by
  cases v with
  | obj fields =>
    rw [canonical, get?, findField_canonicalFields, field?, findField, Option.or_none]
  | _ => rfl

/-! ## What is canonical already -/

variable {key : String} {value : Json} {fields done : List (String × Json)}

/-- The keys are in order, none is there twice, and the values are canonical. -/
structure Settled (fields : List (String × Json)) : Prop where
  ordered : fields.Pairwise fun a b => a.1 < b.1
  values : ∀ f ∈ fields, f.2.canonical = f.2

theorem settled_nil : Settled [] := ⟨.nil, fun _ h => nomatch h⟩

/-- A key that comes after all others is stored at the end. -/
theorem put_of_forall_lt (h : ∀ f ∈ fields, f.1 < key) :
    put key value fields = fields ++ [(key, value)] := by
  induction fields with
  | nil => rfl
  | cons f rest ih =>
    obtain ⟨k, v⟩ := f
    have hk : k < key := h (k, v) List.mem_cons_self
    have hne : key ≠ k := fun heq => String.lt_irrefl k (heq ▸ hk)
    rw [put, if_neg hne, if_neg (String.lt_asymm hk), ih fun f hf => h f (List.mem_cons_of_mem _ hf),
      List.cons_append]

theorem mem_put {f : String × Json} (h : f ∈ put key value fields) : f = (key, value) ∨ f ∈ fields := by
  induction fields with
  | nil => exact .inl (List.mem_singleton.mp h)
  | cons g rest ih =>
    obtain ⟨k, v⟩ := g
    rw [put] at h
    split at h
    · exact (List.mem_cons.mp h).imp_right (List.mem_cons_of_mem _)
    · split at h
      · exact List.mem_cons.mp h
      · obtain rfl | hrest := List.mem_cons.mp h
        · exact .inr List.mem_cons_self
        · exact (ih hrest).imp_right (List.mem_cons_of_mem _)

theorem ordered_put (h : fields.Pairwise fun a b => a.1 < b.1) :
    (put key value fields).Pairwise fun a b => a.1 < b.1 := by
  induction fields with
  | nil => exact List.pairwise_singleton _ _
  | cons f rest ih =>
    obtain ⟨k, v⟩ := f
    obtain ⟨hfirst, hrest⟩ := List.pairwise_cons.mp h
    rw [put]
    split
    · rename_i heq
      exact List.pairwise_cons.mpr ⟨heq ▸ hfirst, hrest⟩
    · rename_i hne
      split
      · rename_i hlt
        refine List.pairwise_cons.mpr ⟨fun f hf => ?_, h⟩
        obtain rfl | hf := List.mem_cons.mp hf
        · exact hlt
        · exact String.lt_trans hlt (hfirst f hf)
      · rename_i hnot
        refine List.pairwise_cons.mpr ⟨fun f hf => ?_, ih hrest⟩
        obtain rfl | hf := mem_put hf
        · exact Std.lt_of_le_of_ne (String.not_lt.mp hnot) (Ne.symm hne)
        · exact hfirst f hf

theorem Settled.put (h : Settled fields) (hvalue : value.canonical = value) :
    Settled (put key value fields) where
  ordered := ordered_put h.ordered
  values := by
    intro f hf
    obtain rfl | hf := mem_put hf
    · exact hvalue
    · exact h.values f hf

/-- Storing fields in order puts each of them at the end. -/
theorem canonicalFields_of_settled (h : Settled (done ++ fields)) :
    canonicalFields fields done = done ++ fields := by
  induction fields generalizing done with
  | nil => rw [canonicalFields, List.append_nil]
  | cons f rest ih =>
    obtain ⟨k, v⟩ := f
    have hlast : ∀ f ∈ done, f.1 < k := fun f hf =>
      (List.pairwise_append.mp h.ordered).2.2 f hf (k, v) List.mem_cons_self
    have hvalue : v.canonical = v := h.values (k, v) (by simp)
    rw [canonicalFields, hvalue, put_of_forall_lt hlast, ih (by simpa using h)]
    simp

mutual

/-- What is read from a draft is canonical. -/
theorem canonical_of_value? : ∀ (d : Draft) {v : Json}, d.value? = some v → v.canonical = v
  | .unreadable, v, h => by
    rw [Draft.value?] at h
    cases h
  | .null, v, h | .bool _, v, h | .int _, v, h | .float _, v, h | .str _, v, h => by
    rw [Draft.value?] at h
    cases h
    rw [canonical]
    all_goals exact fun _ h => nomatch h
  | .arr items, v, h => by
    rw [Draft.value?] at h
    obtain ⟨values, hvalues, rfl⟩ := Option.map_eq_some_iff.mp h
    rw [canonical, canonicalItems_of_itemValues? items hvalues]
  | .obj fields, v, h => by
    rw [Draft.value?] at h
    obtain ⟨values, hvalues, rfl⟩ := Option.map_eq_some_iff.mp h
    have hsettled : Settled ([] ++ values) := settled_of_fieldValues? fields settled_nil hvalues
    rw [canonical, canonicalFields_of_settled hsettled, List.nil_append]

theorem canonicalItems_of_itemValues? : ∀ (items : List Draft) {values : List Json},
    Draft.itemValues? items = some values → canonicalItems values = values
  | [], values, h => by
    rw [Draft.itemValues?] at h
    cases h
    rfl
  | d :: rest, values, h => by
    rw [Draft.itemValues?] at h
    split at h
    · rename_i v vs hv hvs
      cases h
      rw [canonicalItems, canonical_of_value? d hv, canonicalItems_of_itemValues? rest hvs]
    · cases h

theorem settled_of_fieldValues? : ∀ (fields : List (String × Draft))
    {done values : List (String × Json)},
    Settled done → Draft.fieldValues? fields done = some values → Settled values
  | [], done, values, hdone, h => by
    rw [Draft.fieldValues?] at h
    cases h
    exact hdone
  | (k, d) :: rest, done, values, hdone, h => by
    rw [Draft.fieldValues?] at h
    split at h
    · rename_i v hv
      exact settled_of_fieldValues? rest (hdone.put (canonical_of_value? d hv)) h
    · cases h

end

end Json

end Conformance
