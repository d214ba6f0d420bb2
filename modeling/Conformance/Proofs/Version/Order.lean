import Mathlib.Algebra.Group.Nat.Defs
import Conformance.Proofs.Version.Writing

/-!
# The order of versions

All versions stand in one line: every version has a number, its rank, and versions are compared as
their ranks are. A version with a suffix comes right before the release with the same numbers. The
order can be told from the texts of versions, and it does not matter whether these are the texts that
have been given or those that are written for them.

## Main definitions

- `Version.rank` — versions as numbers
- `Version.Older` — a version comes before another
- `Version.textUpTo` — the order of texts, by the versions that they are
- `Version.rewritten` — a text as it is written for its version

## Main statements

- `Version.upTo_iff` — a version is not newer than another if its rank is not greater
- `Version.older_iff` — the order by the parts of the versions
- `Version.order_of_versions` — the laws of the order, also for texts
-/

namespace Conformance

namespace Version

/-! ## Versions as numbers -/

/-- The place of a version among all versions. -/
def rank (v : Version) : Nat :=
  ((v.major.toNat * 2 ^ 32 + v.minor.toNat) * 2 ^ 32 + v.patch.toNat) * 2 + (!v.hasExtra).toNat

theorem compare_toNat (a b : UInt32) : Ord.compare a b = Ord.compare a.toNat b.toNat := by
  simp only [Ord.compare, compareOfLessAndEq, UInt32.lt_iff_toNat_lt, UInt32.toNat_inj]

/-- Numbers are compared by their digits, from the highest on. -/
theorem compare_digit {base x y c d : Nat} (hc : c < base) (hd : d < base) :
    Ord.compare (x * base + c) (y * base + d) = (Ord.compare x y).then (Ord.compare c d) := by
  rcases Nat.lt_trichotomy x y with hxy | rfl | hxy
  · have := Nat.mul_le_mul_right base hxy
    rw [Nat.succ_mul] at this
    rw [Nat.compare_eq_lt.mpr hxy, Nat.compare_eq_lt.mpr (by omega)]
    rfl
  · rw [Nat.compare_eq_eq.mpr rfl, Ordering.eq_then]
    simp only [Nat.compare_eq_ite_lt, Nat.add_lt_add_iff_left]
  · have := Nat.mul_le_mul_right base hxy
    rw [Nat.succ_mul] at this
    rw [Nat.compare_eq_gt.mpr hxy, Nat.compare_eq_gt.mpr (by omega)]
    rfl

theorem compare_eq (a b : Version) : a.compare b = Ord.compare a.rank b.rank := by
  have hextra : Ord.compare b.hasExtra a.hasExtra =
      Ord.compare (!a.hasExtra).toNat (!b.hasExtra).toNat := by
    cases a.hasExtra <;> cases b.hasExtra <;> rfl
  unfold rank
  rw [compare_digit (Bool.toNat_lt _) (Bool.toNat_lt _),
    compare_digit a.patch.toNat_lt b.patch.toNat_lt,
    compare_digit a.minor.toNat_lt b.minor.toNat_lt, ← compare_toNat, ← compare_toNat,
    ← compare_toNat, ← hextra, Ordering.then_assoc, Ordering.then_assoc]
  rfl

theorem upTo_iff {a b : Version} : a.upTo b = true ↔ a.rank ≤ b.rank := by
  unfold upTo
  rw [decide_eq_true_iff, compare_eq, Ne, Nat.compare_eq_gt, Nat.not_lt]

theorem rank_inj {a b : Version} : a.rank = b.rank ↔ a = b := by
  refine ⟨fun h => ?_, fun h => h ▸ rfl⟩
  have heq : a.compare b = .eq := by rw [compare_eq, Nat.compare_eq_eq.mpr h]
  obtain ⟨hmajor, hrest⟩ := Ordering.then_eq_eq.mp heq
  obtain ⟨hminor, hrest⟩ := Ordering.then_eq_eq.mp hrest
  obtain ⟨hpatch, hextra⟩ := Ordering.then_eq_eq.mp hrest
  rw [compare_toNat, Nat.compare_eq_eq, UInt32.toNat_inj] at hmajor hminor hpatch
  obtain ⟨_, _, _, extra⟩ := a
  obtain ⟨_, _, _, extra'⟩ := b
  dsimp only at hmajor hminor hpatch hextra
  subst hmajor hminor hpatch
  cases extra <;> cases extra' <;> first | rfl | cases hextra

/-- Between a version with a suffix and its release there is no other. -/
theorem rank_release (major minor patch : UInt32) :
    rank ⟨major, minor, patch, false⟩ = rank ⟨major, minor, patch, true⟩ + 1 := by
  have hrelease : (!false).toNat = 1 := rfl
  have hsuffix : (!true).toNat = 0 := rfl
  unfold rank
  dsimp only
  omega

attribute [irreducible] rank

/-! ## The order by parts -/

/-- A version comes before another one. -/
def Older (a b : Version) : Prop := a.compare b = .lt

/-- The numbers of a version come before those of another one: the first that differ decide. -/
def NumbersBefore (a b : Version) : Prop :=
  a.major < b.major ∨ a.major = b.major ∧
    (a.minor < b.minor ∨ a.minor = b.minor ∧ a.patch < b.patch)

theorem older_iff_rank {a b : Version} : Older a b ↔ a.rank < b.rank := by
  rw [Older, compare_eq, Nat.compare_eq_lt]

theorem compare_eq_lt {a b : UInt32} : Ord.compare a b = .lt ↔ a < b := by
  rw [compare_toNat, Nat.compare_eq_lt, UInt32.lt_iff_toNat_lt]

theorem compare_eq_eq {a b : UInt32} : Ord.compare a b = .eq ↔ a = b := by
  rw [compare_toNat, Nat.compare_eq_eq, UInt32.toNat_inj]

/-- A version is older if its numbers come before, or if the numbers are the same and only this one
has a suffix. -/
theorem older_iff {a b : Version} : Older a b ↔ NumbersBefore a b ∨
    (a.major = b.major ∧ a.minor = b.minor ∧ a.patch = b.patch) ∧
      a.hasExtra = true ∧ b.hasExtra = false := by
  have hextra : Ord.compare b.hasExtra a.hasExtra = .lt ↔ a.hasExtra = true ∧ b.hasExtra = false := by
    cases a.hasExtra <;> cases b.hasExtra <;> decide
  unfold Older compare NumbersBefore
  simp only [Ordering.then_eq_lt, compare_eq_lt, compare_eq_eq, hextra]
  tauto

theorem compare_eq_iff {a b : Version} : a.compare b = .eq ↔
    a.major = b.major ∧ a.minor = b.minor ∧ a.patch = b.patch ∧ a.hasExtra = b.hasExtra := by
  rw [compare_eq, Nat.compare_eq_eq, rank_inj]
  cases a
  cases b
  exact iff_of_eq (mk.injEq ..)

theorem compare_swap (a b : Version) : b.compare a = (a.compare b).swap := by
  rw [compare_eq, compare_eq, Nat.compare_swap]

/-! ## The order of texts -/

/-- Compares two texts by the versions that they are. -/
def compareTexts (s t : String) : Except Error Ordering :=
  return (← parse s).compare (← parse t)

/-- Whether the first text does not come after the second one. -/
def textUpTo (s t : String) : Bool :=
  match compareTexts s t with
  | .ok o => o ≠ .gt
  | .error _ => true

/-- The text that is written for the version. What is no version stays as it is. -/
def rewritten (s : String) : String :=
  match parse s with
  | .ok v => v.text
  | .error _ => s

/-- A text that is rewritten is the same version. -/
theorem parse_rewritten (s : String) : parse (rewritten s) = parse s := by
  cases h : parse s with
  | ok v => rw [rewritten, h, parse_text]
  | error e => rw [rewritten, h, h]

theorem compareTexts_rewritten (s t : String) :
    compareTexts (rewritten s) (rewritten t) = compareTexts s t := by
  rw [compareTexts, parse_rewritten, parse_rewritten]
  rfl

theorem compareTexts_of_parse {s t : String} {a b : Version} (hs : parse s = .ok a)
    (ht : parse t = .ok b) : compareTexts s t = .ok (a.compare b) := by
  rw [compareTexts, hs, ht]
  rfl

/-- The order of versions is a strict total order: of two versions one comes before the other, or they
have the same parts. A version with a suffix comes right before the release with the same numbers and
after all versions with lower numbers. A version is read back from its text, so texts stand in the same
order as the texts that are written for their versions, by twos and when they are sorted. -/
theorem order_of_versions :
    (∀ a b : Version, (Older a b ∧ a ≠ b ∧ ¬Older b a) ∨ (¬Older a b ∧ a = b ∧ ¬Older b a) ∨
      (¬Older a b ∧ a ≠ b ∧ Older b a)) ∧
    (∀ a b c : Version, Older a b → Older b c → Older a c) ∧
    (∀ a b : Version, (a.compare b = .gt ↔ Older b a) ∧ (a.compare b = .eq ↔
      a.major = b.major ∧ a.minor = b.minor ∧ a.patch = b.patch ∧ a.hasExtra = b.hasExtra)) ∧
    (∀ major minor patch : UInt32,
      Older ⟨major, minor, patch, true⟩ ⟨major, minor, patch, false⟩ ∧
      (∀ c, ¬(Older ⟨major, minor, patch, true⟩ c ∧ Older c ⟨major, minor, patch, false⟩)) ∧
      ∀ c, NumbersBefore c ⟨major, minor, patch, true⟩ → Older c ⟨major, minor, patch, true⟩) ∧
    (∀ v : Version, parse v.text = .ok v) ∧
    (∀ s t a b, parse s = .ok a → parse t = .ok b →
      compareTexts s t = .ok (a.compare b) ∧ compareTexts a.text b.text = compareTexts s t) ∧
    (∀ texts : List String,
      (texts.mergeSort textUpTo).map rewritten = (texts.map rewritten).mergeSort textUpTo) := by
  refine ⟨?_, ?_, ?_, ?_, parse_text, ?_, ?_⟩
  · intro a b
    simp only [older_iff_rank, ← rank_inj, Ne]
    omega
  · intro a b c hab hbc
    rw [older_iff_rank] at hab hbc ⊢
    exact Nat.lt_trans hab hbc
  · intro a b
    refine ⟨?_, compare_eq_iff⟩
    rw [Older, compare_swap a b, Ordering.swap_eq_lt]
  · intro major minor patch
    refine ⟨?_, ?_, fun c hc => older_iff.mpr (.inl hc)⟩
    · rw [older_iff_rank, rank_release]
      exact Nat.lt_succ_self _
    · rintro c ⟨hlow, hhigh⟩
      rw [older_iff_rank] at hlow hhigh
      rw [rank_release] at hhigh
      omega
  · intro s t a b hs ht
    rw [compareTexts_of_parse hs ht, compareTexts_of_parse (parse_text a) (parse_text b)]
    exact ⟨rfl, rfl⟩
  · intro texts
    refine List.map_mergeSort fun s _ t _ => ?_
    rw [textUpTo, textUpTo, compareTexts_rewritten]

end Version

end Conformance
