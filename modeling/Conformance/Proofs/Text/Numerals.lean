import Conformance.Proofs.Version.Reading

/-!
# Numbers that are written and read back

The digits of a number are read back as the number, with or without a sign. A number has other decimal
texts besides, with leading zeros or a plus sign, and these are read as the number, too.

## Main definitions

- `Decimal` — the decimal texts of a whole number

## Main statements

- `natural?_toDigits` — digits
- `signed?_toString` — a signed number within bounds
- `signed?_eq_some_iff` — the decimal texts of a number are read as it, and no others
-/

namespace Conformance.Text

theorem isDigit_of_mem_toDigits {n : Nat} {c : Char} (h : c ∈ Nat.toDigits 10 n) :
    isDigit c = true := by
  have hdigit := Nat.isDigit_of_mem_toDigits (by decide) (by decide) h
  simp only [Char.isDigit, Bool.and_eq_true, decide_eq_true_eq] at hdigit
  simpa [isDigit, Char.le_def] using hdigit

theorem natural?_toDigits (n : Nat) : natural? (Nat.toDigits 10 n) = some n :=
  Version.natural?_eq_some_iff.mpr
    ⟨Nat.toDigits_ne_nil, fun _ => isDigit_of_mem_toDigits, Nat.ofDigitChars_ten_toDigits⟩

theorem dropPlus_toDigits (n : Nat) : dropPlus (Nat.toDigits 10 n) = Nat.toDigits 10 n :=
  Version.dropPlus_of_digits fun _ => isDigit_of_mem_toDigits

/-- A number within the bounds is read back from its decimal text. -/
theorem signed?_toString {low high n : Int} (hlow : low ≤ n) (hhigh : n ≤ high) :
    signed? low high (toString n) = some n := by
  have hbounds : (decide (low ≤ n) && decide (n ≤ high)) = true := by
    rw [decide_eq_true hlow, decide_eq_true hhigh]
    rfl
  unfold signed?
  cases n with
  | ofNat m =>
    have hlist : (toString (Int.ofNat m)).toList = Nat.toDigits 10 m := Nat.toList_repr
    have hminus : ∀ rest, (toString (Int.ofNat m)).toList ≠ '-' :: rest := by
      intro rest hrest
      rw [hlist] at hrest
      exact Version.isDigit_ne (isDigit_of_mem_toDigits (hrest ▸ List.mem_cons_self)) rfl rfl
    split
    · rename_i rest hrest
      exact absurd hrest (hminus rest)
    · rw [hlist, dropPlus_toDigits, natural?_toDigits]
      exact Option.filter_eq_some_iff.mpr ⟨rfl, hbounds⟩
  | negSucc m =>
    have hlist : (toString (Int.negSucc m)).toList = '-' :: Nat.toDigits 10 (m + 1) := by
      show ("-" ++ (m + 1).repr).toList = _
      rw [String.toList_append, Nat.toList_repr]
      rfl
    rw [hlist]
    simp only [natural?_toDigits]
    exact Option.filter_eq_some_iff.mpr ⟨rfl, hbounds⟩

/-! ## All decimal texts of a number -/

/-- Digits with this value. There may be leading zeros. -/
def Digits (cs : List Char) (n : Nat) : Prop :=
  cs ≠ [] ∧ (∀ c ∈ cs, isDigit c = true) ∧ Nat.ofDigitChars 10 cs 0 = n

/-- The decimal texts of a whole number: digits, after one sign or none. -/
inductive Decimal : List Char → Int → Prop
  | plain {cs : List Char} {n : Nat} (h : Digits cs n) : Decimal cs n
  | plus {cs : List Char} {n : Nat} (h : Digits cs n) : Decimal ('+' :: cs) n
  | minus {cs : List Char} {n : Nat} (h : Digits cs n) : Decimal ('-' :: cs) (-n)

theorem Digits.head_ne {c : Char} {cs : List Char} {n : Nat} (h : Digits (c :: cs) n)
    {sign : Char} (hsign : isDigit sign = false) : c ≠ sign :=
  Version.isDigit_ne (h.2.1 c List.mem_cons_self) hsign

theorem Digits.dropPlus {cs : List Char} {n : Nat} (h : Digits cs n) : dropPlus cs = cs :=
  Version.dropPlus_of_digits h.2.1

theorem natural?_dropPlus_eq_some_iff {cs : List Char} {n : Nat} :
    natural? (dropPlus cs) = some n ↔ Digits cs n ∨ ∃ rest, cs = '+' :: rest ∧ Digits rest n := by
  rw [Version.natural?_eq_some_iff]
  constructor
  · intro h
    unfold Text.dropPlus at h
    split at h
    · exact .inr ⟨_, rfl, h⟩
    · exact .inl h
  · rintro (h | ⟨rest, rfl, h⟩)
    · rw [h.dropPlus]
      exact h
    · exact h

/-- A natural number is taken as a whole number. -/
theorem whole_eq_some_iff {o : Option Nat} {n : Int} :
    (do let m ← o; pure (m : Int)) = some n ↔ ∃ m : Nat, o = some m ∧ (m : Int) = n := by
  cases o with
  | none => simp
  | some m => simp

/-- A number between two bounds is read from its decimal texts and from nothing else. -/
theorem signed?_eq_some_iff {low high n : Int} {s : String} :
    signed? low high s = some n ↔ Decimal s.toList n ∧ low ≤ n ∧ n ≤ high := by
  unfold signed?
  generalize s.toList = cs
  rw [Option.filter_eq_some_iff, Bool.and_eq_true, decide_eq_true_iff, decide_eq_true_iff]
  refine and_congr_left fun _ => ?_
  constructor
  · intro h
    split at h
    · obtain ⟨_, hwhole, rfl⟩ := Option.map_eq_some_iff.mp h
      obtain ⟨m, hm, rfl⟩ := whole_eq_some_iff.mp hwhole
      exact .minus (Version.natural?_eq_some_iff.mp hm)
    · obtain ⟨_, hwhole, rfl⟩ := Option.map_eq_some_iff.mp h
      obtain ⟨m, hm, rfl⟩ := whole_eq_some_iff.mp hwhole
      obtain hdigits | ⟨rest, rfl, hdigits⟩ := natural?_dropPlus_eq_some_iff.mp hm
      · exact .plain hdigits
      · exact .plus hdigits
  · intro h
    cases h with
    | @plain _ m hdigits =>
      split
      · have hminus : isDigit '-' = false := rfl
        exact absurd rfl (hdigits.head_ne hminus)
      · exact Option.map_eq_some_iff.mpr ⟨m, whole_eq_some_iff.mpr
          ⟨m, natural?_dropPlus_eq_some_iff.mpr (.inl hdigits), rfl⟩, rfl⟩
    | @plus rest m hdigits =>
      exact Option.map_eq_some_iff.mpr ⟨m, whole_eq_some_iff.mpr
        ⟨m, natural?_dropPlus_eq_some_iff.mpr (.inr ⟨rest, rfl, hdigits⟩), rfl⟩, rfl⟩
    | @minus rest m hdigits =>
      exact Option.map_eq_some_iff.mpr
        ⟨m, whole_eq_some_iff.mpr ⟨m, Version.natural?_eq_some_iff.mpr hdigits, rfl⟩, rfl⟩

end Conformance.Text
