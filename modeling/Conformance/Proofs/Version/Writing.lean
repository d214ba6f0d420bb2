import Conformance.Proofs.Text.Numerals

/-!
# Versions are read as they are written

A version is written with its numbers in decimal digits, and with one suffix for all suffixes. The
reader takes this suffix off and finds the version again.

## Main statements

- `Version.parse_text` — a version is read back from its text
-/

namespace Conformance.Version

open Text

/-- The suffix that is written. -/
def suffix (v : Version) : List Char := if v.hasExtra then "-extra".toList else []

theorem toList_text (v : Version) : v.text.toList = Nat.toDigits 10 v.major.toNat ++
    '.' :: (Nat.toDigits 10 v.minor.toNat ++ '.' :: (Nat.toDigits 10 v.patch.toNat ++ v.suffix)) := by
  unfold text suffix
  cases v.hasExtra <;> simp [String.toList_append]

/-- Digits are a number. -/
theorem numeral_toDigits (n : UInt32) : Numeral (Nat.toDigits 10 n.toNat) n :=
  ⟨_, .inl rfl, Nat.toDigits_ne_nil, fun _ => isDigit_of_mem_toDigits,
    Nat.ofDigitChars_ten_toDigits⟩

/-- A version is read back from its text. -/
theorem parse_text (v : Version) : parse v.text = .ok v := by
  have hcut : cut (Nat.toDigits 10 v.patch.toNat ++ v.suffix) =
      (Nat.toDigits 10 v.patch.toNat, v.hasExtra) := by
    unfold suffix
    cases v.hasExtra with
    | false => exact cut_of_whole (numeral_toDigits _) .none .none
    | true => exact cut_of_whole (numeral_toDigits _) (.dash (by decide)) (.dash _)
  exact parse_eq_ok_iff.mpr (parse?_eq_some_iff.mpr ⟨_, _, _, _, v.toList_text, hcut,
    numeral_toDigits _, numeral_toDigits _, numeral_toDigits _⟩)

/-- The text of a version can be part of a name. -/
theorem slash_not_mem_text (v : Version) : '/' ∉ v.text.toList := by
  have hdigits : ∀ n : Nat, '/' ∉ Nat.toDigits 10 n := fun n hn =>
    isDigit_ne (isDigit_of_mem_toDigits hn) (by decide) rfl
  have hsuffix : '/' ∉ v.suffix := by
    unfold suffix
    split <;> decide
  rw [toList_text]
  simp [hdigits, hsuffix]

end Conformance.Version
