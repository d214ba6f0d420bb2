import Mathlib.Data.List.Forall2
import Conformance.Proofs.History.PastReplays

/-!
# One file more

Fixtures are read in the order of their versions, and files of equal versions in the order of their
names. With one file more this order stays as it is, and what is loaded differs in the histories of
the version of that file only.

## Main definitions

- `PastHistories.SameBut` — the same histories, but for their order under one version

## Main statements

- `mergeSort_insert` — sorting with one element more
- `PastHistories.add_comm` — in which order files are joined
- `FixtureStore.loadFiles_insert` — what one file more adds
- `FixtureStore.loadFiles_newer` — a file of a newer version adds nothing
-/

namespace Conformance

/-! ## Sorting with one element more -/

section

variable {α : Type} {le : α → α → Bool} (trans : ∀ a b c, le a b → le b c → le a c)
  (total : ∀ a b, (le a b || le b a) = true)

theorem takeWhile_append_of_split {p : α → Bool} {l₁ l₂ : List α} (h₁ : ∀ b ∈ l₁, p b = true)
    (h₂ : ∀ b ∈ l₂, p b = false) : (l₁ ++ l₂).takeWhile p = l₁ := by
  rw [List.takeWhile_append_of_pos h₁]
  cases l₂ with
  | nil => simp
  | cons b rest => simp [h₂ b List.mem_cons_self]

include trans total

/-- An element is sorted in before all that are not less. -/
theorem exists_mergeSort_cons (a : α) (l : List α) : ∃ l₁ l₂,
    (a :: l).mergeSort le = l₁ ++ a :: l₂ ∧ l.mergeSort le = l₁ ++ l₂ ∧
      (∀ b ∈ l₁, le a b = false) ∧ ∀ b ∈ l₂, le a b = true := by
  obtain ⟨l₁, l₂, hsorted, hrest, hless⟩ := List.mergeSort_cons trans total a l
  have hpairwise := List.pairwise_mergeSort trans total (a :: l)
  rw [hsorted] at hpairwise
  refine ⟨l₁, l₂, hsorted, hrest, fun b hb => by simpa using hless b hb, ?_⟩
  exact (List.pairwise_cons.mp (List.pairwise_append.mp hpairwise).2.1).1

theorem mergeSort_cons_of_split {a : α} {l l₁ l₂ : List α} (h : l.mergeSort le = l₁ ++ l₂)
    (h₁ : ∀ b ∈ l₁, le a b = false) (h₂ : ∀ b ∈ l₂, le a b = true) :
    (a :: l).mergeSort le = l₁ ++ a :: l₂ := by
  obtain ⟨m₁, m₂, hsorted, hrest, hm₁, hm₂⟩ := exists_mergeSort_cons trans total a l
  have hsame : m₁ ++ m₂ = l₁ ++ l₂ := hrest.symm.trans h
  have hcut : (m₁ ++ m₂).takeWhile (fun b => !le a b) = m₁ :=
    takeWhile_append_of_split (by simpa using hm₁) (by simpa using hm₂)
  have hcut' : (l₁ ++ l₂).takeWhile (fun b => !le a b) = l₁ :=
    takeWhile_append_of_split (by simpa using h₁) (by simpa using h₂)
  obtain rfl : m₁ = l₁ := by rw [← hcut, hsame, hcut']
  rw [hsorted, List.append_cancel_left hsame]

/-- With one element more a list is sorted in the same order. -/
theorem mergeSort_insert (a : α) (before after : List α) : ∃ l₁ l₂,
    (before ++ a :: after).mergeSort le = l₁ ++ a :: l₂ ∧
      (before ++ after).mergeSort le = l₁ ++ l₂ := by
  induction before with
  | nil =>
    obtain ⟨l₁, l₂, hsorted, hrest, -⟩ := List.mergeSort_cons trans total a after
    exact ⟨l₁, l₂, hsorted, hrest⟩
  | cons x before ih =>
    obtain ⟨l₁, l₂, hwith, hwithout⟩ := ih
    obtain ⟨m₁, m₂, hsorted, hrest, hless, hmore⟩ :=
      exists_mergeSort_cons trans total x (before ++ a :: after)
    -- the first element goes before the one more, or after it
    have hplace : (∃ middle, l₁ = m₁ ++ middle ∧ m₂ = middle ++ a :: l₂) ∨
        ∃ middle, m₁ = l₁ ++ a :: middle ∧ l₂ = middle ++ m₂ := by
      rcases List.append_eq_append_iff.mp (hrest.symm.trans hwith) with
        ⟨middle, hl₁, hm₂⟩ | ⟨middle, hm₁, hmiddle⟩
      · exact .inl ⟨middle, hl₁, hm₂⟩
      · cases middle with
        | nil => exact .inl ⟨[], by rw [hm₁, List.append_nil, List.append_nil], hmiddle.symm⟩
        | cons b middle =>
          obtain ⟨rfl, hl₂⟩ := List.cons.inj hmiddle
          exact .inr ⟨middle, hm₁, hl₂⟩
    rcases hplace with ⟨middle, rfl, rfl⟩ | ⟨middle, rfl, rfl⟩
    · refine ⟨m₁ ++ x :: middle, l₂, by rw [List.cons_append, hsorted]; simp, ?_⟩
      rw [List.append_assoc] at hwithout
      rw [List.cons_append, mergeSort_cons_of_split trans total hwithout hless]
      · simp
      · simp only [List.mem_append, List.mem_cons] at hmore ⊢
        exact fun b hb => hmore b (hb.imp_right .inr)
    · refine ⟨l₁, middle ++ x :: m₂, by rw [List.cons_append, hsorted]; simp, ?_⟩
      rw [← List.append_assoc] at hwithout
      rw [List.cons_append, mergeSort_cons_of_split trans total hwithout _ hmore]
      · simp
      · simp only [List.mem_append, List.mem_cons] at hless ⊢
        exact fun b hb => hless b (hb.imp_right .inr)

end

/-! ## Joining in another order -/

/-- A version comes before another one, is the same, or comes after it. -/
theorem Version.rank_cases (v u : Version) : v.rank < u.rank ∨ v = u ∨ u.rank < v.rank := by
  rw [← rank_inj]
  exact Nat.lt_trichotomy v.rank u.rank

namespace PastHistories

variable {v u : Version} {past past' : PastHistories}

/-- Under this version the order of the histories is free. -/
structure SameEntry (v : Version) (e e' : Version × List History) : Prop where
  version : e'.1 = e.1
  perm : e'.2.Perm e.2
  others : e.1 ≠ v → e'.2 = e.2

/-- The same histories under the same versions, but for their order under one version. -/
abbrev SameBut (v : Version) : PastHistories → PastHistories → Prop := List.Forall₂ (SameEntry v)

theorem SameEntry.refl (v : Version) (e : Version × List History) : SameEntry v e e :=
  ⟨rfl, .refl _, fun _ => rfl⟩

theorem SameEntry.trans {e e' e'' : Version × List History} (h : SameEntry v e e')
    (h' : SameEntry v e' e'') : SameEntry v e e'' where
  version := h'.version.trans h.version
  perm := h'.perm.trans h.perm
  others hv := (h'.others (h.version ▸ hv)).trans (h.others hv)

theorem SameBut.refl (v : Version) (past : PastHistories) : SameBut v past past := by
  induction past with
  | nil => exact .nil
  | cons e past ih => exact .cons (.refl v e) ih

theorem SameBut.trans {past'' : PastHistories} (h : SameBut v past past')
    (h' : SameBut v past' past'') : SameBut v past past'' := by
  induction h generalizing past'' with
  | nil => exact h'
  | cons he _ ih =>
    cases h' with
    | cons he' h' => exact .cons (he.trans he') (ih h')

variable {w : Version} {histories more there : List History}

theorem add_of_lt (h : v.rank < w.rank) :
    add v histories ((w, there) :: past) = (v, histories) :: (w, there) :: past := by
  rw [add, Version.compare_eq, Nat.compare_eq_lt.mpr h]

theorem add_self (v : Version) (there histories : List History) (past : PastHistories) :
    add v histories ((v, there) :: past) = (v, there ++ histories) :: past := by
  rw [add, Version.compare_eq, Nat.compare_eq_eq.mpr rfl]

theorem add_of_gt (h : w.rank < v.rank) :
    add v histories ((w, there) :: past) = (w, there) :: add v histories past := by
  rw [add, Version.compare_eq, Nat.compare_eq_gt.mpr h]

/-- The same is added on both sides. -/
theorem SameBut.add (h : SameBut v past past') (u : Version) (more : List History) :
    SameBut v (add u more past) (add u more past') := by
  induction h with
  | nil => exact .refl v _
  | @cons e e' past past' he hrest ih =>
    obtain ⟨w, there⟩ := e
    obtain ⟨w', there'⟩ := e'
    obtain rfl : w' = w := he.version
    rcases Version.rank_cases u w' with hu | rfl | hu
    · rw [add_of_lt hu, add_of_lt hu]
      exact .cons (.refl v _) (.cons he hrest)
    · rw [add_self, add_self]
      refine .cons ⟨rfl, he.perm.append_right more, fun hv => ?_⟩ hrest
      exact congrArg (· ++ more) (he.others hv)
    · rw [add_of_gt hu, add_of_gt hu]
      exact .cons he ih

/-- Two files that come first are joined in either order. -/
theorem add_comm_of_first (hv : PastHistories.add v histories past = (v, histories) :: past)
    (hu : PastHistories.add u more past = (u, more) :: past) :
    SameBut v (PastHistories.add v histories ((u, more) :: past))
      (PastHistories.add u more ((v, histories) :: past)) := by
  rcases Version.rank_cases v u with hlt | rfl | hgt
  · rw [add_of_lt hlt, add_of_gt hlt, hu]
    exact .refl v _
  · rw [add_self, add_self]
    exact .cons ⟨rfl, List.perm_append_comm, fun hne => absurd rfl hne⟩ (SameBut.refl v past)
  · rw [add_of_gt hgt, add_of_lt hgt, hv]
    exact .refl v _

/-- Files are joined in either order, but for the order of histories of one version. -/
theorem add_comm (v u : Version) (histories more : List History) (past : PastHistories) :
    SameBut v (PastHistories.add v histories (PastHistories.add u more past))
      (PastHistories.add u more (PastHistories.add v histories past)) := by
  induction past with
  | nil => exact add_comm_of_first rfl rfl
  | cons e past ih =>
    obtain ⟨w, there⟩ := e
    -- where each of the two versions goes, seen from that of the first entry
    rcases Version.rank_cases v w with hv | rfl | hv
    · rcases Version.rank_cases u w with hu | rfl | hu
      · rw [add_of_lt hv, add_of_lt hu]
        exact add_comm_of_first (add_of_lt hv) (add_of_lt hu)
      · rw [add_self, add_of_lt hv, add_of_lt hv, add_of_gt hv, add_self]
        exact .refl v _
      · rw [add_of_gt hu, add_of_lt hv, add_of_lt hv, add_of_gt (Nat.lt_trans hv hu), add_of_gt hu]
        exact .refl v _
    · rcases Version.rank_cases u v with hu | rfl | hu
      · rw [add_of_lt hu, add_of_gt hu, add_self, add_of_lt hu]
        exact .refl v _
      · rw [add_self, add_self, add_self, add_self, List.append_assoc, List.append_assoc]
        refine .cons ⟨rfl, ?_, fun hne => absurd rfl hne⟩ (SameBut.refl u past)
        exact List.perm_append_comm.append_left there
      · rw [add_of_gt hu, add_self, add_self, add_of_gt hu]
        exact .refl v _
    · rcases Version.rank_cases u w with hu | rfl | hu
      · rw [add_of_lt hu, add_of_gt (Nat.lt_trans hu hv), add_of_gt hv, add_of_lt hu]
        exact .refl v _
      · rw [add_self, add_of_gt hv, add_of_gt hv, add_self]
        exact .refl v _
      · rw [add_of_gt hu, add_of_gt hv, add_of_gt hv, add_of_gt hu]
        exact .cons (.refl v _) ih

end PastHistories

/-! ## Loading one file more -/

namespace FixtureStore

open PastHistories (SameBut)

variable {files files' : FileTree} {current : Version} {past past' joined : PastHistories}
  {f : FixtureFile} {found before after : List FixtureFile} {histories : List History}

theorem loadFiles_cons_ok (hup : f.version.upTo current = true)
    (hread : read files f.path = .ok histories) (past : PastHistories) (rest : List FixtureFile) :
    loadFiles files current past (f :: rest) =
      loadFiles files current (PastHistories.add f.version histories past) rest := by
  rw [loadFiles, if_pos hup, hread]
  rfl

theorem loadFiles_append (files : FileTree) (current : Version) (past : PastHistories)
    (before after : List FixtureFile) : loadFiles files current past (before ++ after) =
      (loadFiles files current past before).bind fun past => loadFiles files current past after := by
  induction before generalizing past with
  | nil => rfl
  | cons f before ih =>
    rw [List.cons_append, loadFiles, loadFiles]
    split
    · cases read files f.path with
      | error e => rfl
      | ok histories => exact ih _
    · exact ih past

/-- What is loaded depends on what is read from the files that are found. -/
theorem loadFiles_congr (h : ∀ f ∈ found, read files' f.path = read files f.path)
    (current : Version) (past : PastHistories) :
    loadFiles files' current past found = loadFiles files current past found := by
  induction found generalizing past with
  | nil => rfl
  | cons f found ih =>
    rw [loadFiles, loadFiles, h f List.mem_cons_self]
    simp only [ih fun g hg => h g (List.mem_cons_of_mem _ hg)]

/-- A file of a newer version adds nothing. -/
theorem loadFiles_newer (hnewer : f.version.upTo current = false) (past : PastHistories) :
    loadFiles files current past (before ++ f :: after) =
      loadFiles files current past (before ++ after) := by
  rw [loadFiles_append, loadFiles_append]
  congr 1
  funext past
  rw [loadFiles, hnewer, if_neg Bool.false_ne_true]

/-- What has been joined before keeps its place. -/
theorem loadFiles_sameBut {v : Version} (h : SameBut v (PastHistories.add v histories past) past')
    (hload : loadFiles files current past found = .ok joined) :
    ∃ joined', loadFiles files current past' found = .ok joined' ∧
      SameBut v (PastHistories.add v histories joined) joined' := by
  induction found generalizing past past' with
  | nil =>
    cases hload
    exact ⟨past', rfl, h⟩
  | cons f found ih =>
    by_cases hup : f.version.upTo current = true
    · cases hread : read files f.path with
      | error e =>
        rw [loadFiles, if_pos hup, hread] at hload
        cases hload
      | ok more =>
        rw [loadFiles_cons_ok hup hread] at hload ⊢
        exact ih ((PastHistories.add_comm v f.version histories more past).trans (h.add _ _)) hload
    · rw [loadFiles, if_neg hup] at hload ⊢
      exact ih h hload

/-- One file more adds its histories under its version. -/
theorem loadFiles_insert (hup : f.version.upTo current = true)
    (hread : read files f.path = .ok histories)
    (hload : loadFiles files current past (before ++ after) = .ok joined) :
    ∃ joined', loadFiles files current past (before ++ f :: after) = .ok joined' ∧
      SameBut f.version (PastHistories.add f.version histories joined) joined' := by
  rw [loadFiles_append] at hload ⊢
  cases hbefore : loadFiles files current past before with
  | error e =>
    rw [hbefore] at hload
    cases hload
  | ok past =>
    rw [hbefore] at hload
    rw [Except.bind, loadFiles_cons_ok hup hread]
    exact loadFiles_sameBut (.refl _ _) hload

/-- Without one file still everything can be loaded. -/
theorem loadFiles_remove (hload : loadFiles files current past (before ++ f :: after) = .ok joined) :
    ∃ joined', loadFiles files current past (before ++ after) = .ok joined' := by
  rcases loadFiles_cases files current past (before ++ f :: after) with
    ⟨-, -, -, hreads, -⟩ | ⟨⟨_, _, herror⟩, -⟩
  · rcases loadFiles_cases files current past (before ++ after) with
      ⟨joined', hjoined', -⟩ | ⟨-, g, hg, hup, hbad⟩
    · exact ⟨joined', hjoined'⟩
    · have hmem : g ∈ before ++ f :: after := List.perm_middle.mem_iff.mpr (List.mem_cons_of_mem _ hg)
      obtain ⟨histories, hread⟩ := hreads g hmem hup
      exact absurd hread (hbad histories)
  · exact nomatch hload.symm.trans herror

end FixtureStore

end Conformance
