/-!
# Descending pools

A pool is a list whose order does not matter. It goes down when one of its elements is replaced by
a smaller one or removed. If the order of the elements is well-founded, then no pool goes down for
ever; this is why the tasks of a server come to rest.

## Main statements

- `Descent.wellFounded` — the order on pools is well-founded
- `Descent.of_replace`, `Descent.of_remove` — replacing and removing an element go down, wherever
  the elements stand afterwards
-/

namespace Conformance

/-- `Descent r l' l` says that `l'` is `l` with one element removed or replaced by a smaller one, in
any order. -/
inductive Descent {α : Type} (r : α → α → Prop) (l' l : List α) : Prop
  | replace {x' x : α} {rest : List α} : r x' x → l.Perm (x :: rest) → l'.Perm (x' :: rest) →
      Descent r l' l
  | remove {x : α} {rest : List α} : l.Perm (x :: rest) → l'.Perm rest → Descent r l' l

namespace Descent

variable {α : Type} {r : α → α → Prop}

/-- What is below a pool is below it in any order. -/
theorem of_perm {l' l k : List α} (h : Descent r l' k) (hp : l.Perm k) : Descent r l' l := by
  cases h with
  | replace hr hk hl => exact replace hr (hp.trans hk) hl
  | remove hk hl => exact remove (hp.trans hk) hl

theorem acc_of_perm {l k : List α} (h : Acc (Descent r) k) (hp : l.Perm k) :
    Acc (Descent r) l :=
  Acc.intro _ fun _ h' => h.inv (h'.of_perm hp.symm)

theorem acc_nil : Acc (Descent r) [] := by
  refine Acc.intro _ fun l h => ?_
  cases h with
  | replace _ hk _ => simp at hk
  | remove hk _ => simp at hk

/-- An element of a pool is its first one or stands in the rest of it. -/
theorem perm_cons_cases {x y : α} {rest rest' : List α} (h : (x :: rest).Perm (y :: rest')) :
    (y = x ∧ rest.Perm rest') ∨
      ∃ others, rest.Perm (y :: others) ∧ rest'.Perm (x :: others) := by
  have hy : y ∈ x :: rest := h.mem_iff.mpr (by simp)
  rcases List.mem_cons.mp hy with rfl | hy
  · exact Or.inl ⟨rfl, h.cons_inv⟩
  · obtain ⟨a, b, rfl⟩ := List.append_of_mem hy
    refine Or.inr ⟨a ++ b, List.perm_middle, ?_⟩
    have hxy : (x :: (a ++ y :: b)).Perm (y :: x :: (a ++ b)) :=
      (List.perm_middle.cons x).trans (List.Perm.swap y x (a ++ b))
    exact (h.symm.trans hxy).cons_inv

theorem acc_cons {x : α} (hx : Acc r x) {rest : List α} (hrest : Acc (Descent r) rest) :
    Acc (Descent r) (x :: rest) := by
  induction hx generalizing rest with
  | intro x _ ihx =>
    induction hrest with
    | intro rest hacc ihrest =>
      refine Acc.intro _ fun l h => ?_
      cases h with
      | replace hr hk hl =>
        rename_i y' y k
        rcases perm_cons_cases hk with ⟨rfl, hp⟩ | ⟨others, hp, hk'⟩
        · exact acc_of_perm (ihx _ hr (Acc.intro _ hacc)) (hl.trans (hp.symm.cons y'))
        · refine acc_of_perm (ihrest (y' :: others) (replace hr hp (.refl _))) ?_
          exact hl.trans ((hk'.cons y').trans (List.Perm.swap x y' others))
      | remove hk hl =>
        rcases perm_cons_cases hk with ⟨rfl, hp⟩ | ⟨others, hp, hk'⟩
        · exact acc_of_perm (Acc.intro _ hacc) (hl.trans hp.symm)
        · exact acc_of_perm (ihrest others (remove hp (.refl _))) (hl.trans hk')

/-- No pool goes down for ever. -/
theorem wellFounded (h : WellFounded r) : WellFounded (Descent r) :=
  ⟨fun l => by
    induction l with
    | nil => exact acc_nil
    | cons x rest ih => exact acc_cons (h.apply x) ih⟩

/-- Replacing an element by a smaller one goes down. -/
theorem of_replace {l' : List α} {x' x : α} {before after : List α} (h : r x' x)
    (hp : l'.Perm (x' :: (before ++ after))) : Descent r l' (before ++ x :: after) :=
  replace h List.perm_middle hp

/-- Removing an element goes down. -/
theorem of_remove {l' : List α} {x : α} {before after : List α}
    (hp : l'.Perm (before ++ after)) : Descent r l' (before ++ x :: after) :=
  remove List.perm_middle hp

end Descent

end Conformance
