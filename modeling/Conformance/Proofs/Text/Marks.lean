import Mathlib.Data.List.TakeDrop
import Mathlib.Data.List.TakeWhile
import Conformance.Text.Split

/-!
# Texts with a mark in them

A text is cut at the first place of a character, or at all of them.

## Main statements

- `span_append_marker`, `eq_append_of_span` — a cut at the first place
- `splitAll_append` — cuts at all places, in front of one of them and behind it
-/

namespace Conformance.Text

/-! ## The first place -/

theorem all_ne_of_not_mem {marker : Char} {cs : List Char} (h : marker ∉ cs) :
    ∀ c ∈ cs, decide (c ≠ marker) = true := by
  intro c hc
  have : c ≠ marker := by
    rintro rfl
    exact h hc
  simpa using this

theorem span_append_marker {marker : Char} {before after : List Char} (h : marker ∉ before) :
    (before ++ marker :: after).span (· ≠ marker) = (before, marker :: after) := by
  rw [List.span_eq_takeWhile_dropWhile, List.takeWhile_append_of_pos (all_ne_of_not_mem h),
    List.dropWhile_append_of_pos (all_ne_of_not_mem h)]
  simp

theorem eq_append_of_span {marker c : Char} {cs before after : List Char}
    (h : cs.span (· ≠ marker) = (before, c :: after)) :
    cs = before ++ marker :: after ∧ marker ∉ before := by
  rw [List.span_eq_takeWhile_dropWhile, Prod.mk.injEq] at h
  obtain ⟨rfl, hdrop⟩ := h
  have hc : c = marker := by
    have := List.head?_dropWhile_not (fun x => decide (x ≠ marker)) cs
    rw [hdrop] at this
    simpa using this
  subst hc
  constructor
  · rw [← hdrop, List.takeWhile_append_dropWhile]
  · intro hmem
    simpa using List.mem_takeWhile_imp hmem

/-! ## All places -/

theorem splitAll_cons {separator : Char → Bool} {c : Char} (h : separator c = true) (cs : List Char) :
    splitAll separator (c :: cs) = [] :: splitAll separator cs := by
  simp [splitAll, h]

theorem splitAll_cons_of_not {separator : Char → Bool} {c : Char} (h : separator c = false)
    {cs piece : List Char} {others : List (List Char)}
    (hpieces : splitAll separator cs = piece :: others) :
    splitAll separator (c :: cs) = (c :: piece) :: others := by
  simp only [splitAll, List.foldr_cons] at hpieces ⊢
  rw [h, hpieces]
  rfl

/-- The pieces in front of a separator, and those behind it. -/
theorem splitAll_append {separator : Char → Bool} {c : Char} (h : separator c = true)
    (before after : List Char) :
    splitAll separator (before ++ c :: after) =
      splitAll separator before ++ splitAll separator after := by
  induction before with
  | nil => exact splitAll_cons h after
  | cons d rest ih =>
    cases hd : separator d with
    | true => rw [List.cons_append, splitAll_cons hd, splitAll_cons hd, ih, List.cons_append]
    | false =>
      obtain ⟨piece, others, hpieces⟩ := List.exists_cons_of_ne_nil (splitAll_ne_nil separator rest)
      rw [List.cons_append, splitAll_cons_of_not hd hpieces,
        splitAll_cons_of_not hd (by rw [ih, hpieces, List.cons_append]), List.cons_append]

/-- A text without separators is one piece. -/
theorem splitAll_of_forall_not {separator : Char → Bool} {cs : List Char}
    (h : ∀ c ∈ cs, separator c = false) : splitAll separator cs = [cs] := by
  induction cs with
  | nil => rfl
  | cons c rest ih =>
    exact splitAll_cons_of_not (h c List.mem_cons_self)
      (ih fun d hd => h d (List.mem_cons_of_mem _ hd))

end Conformance.Text
