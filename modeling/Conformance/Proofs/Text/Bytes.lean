import Conformance.Text.Utf8

/-!
# The bytes of a text

The bytes of a text are those of its characters, one after another. The reader that puts a stand-in
for every piece that belongs to no character puts none where the bytes are those of a text.

## Main statements

- `bytesOf_eq_flatMap` — the bytes of a text by its characters
- `mem_of_mem_bytesOf` — a byte below 128 stands for a character of its own
- `ofBytesLossy_bytesOf` — the text behind its own bytes
-/

namespace Conformance.Text

theorem bytesOf_append (s t : String) : bytesOf (s ++ t) = bytesOf s ++ bytesOf t := by
  rw [bytesOf_eq, bytesOf_eq, bytesOf_eq, String.toByteArray_append, ByteArray.data_append,
    Array.toList_append]

theorem bytesOf_eq_flatMap (s : String) : bytesOf s = s.toList.flatMap String.utf8EncodeChar := by
  have hbytes : s.toByteArray = s.toList.utf8Encode := by
    rw [← String.toByteArray_ofList, String.ofList_toList]
  rw [bytesOf_eq, hbytes, List.utf8Encode, List.data_toByteArray, List.toList_toArray]

theorem bytesOf_ofList (cs : List Char) :
    bytesOf (String.ofList cs) = cs.flatMap String.utf8EncodeChar := by
  rw [bytesOf_eq_flatMap, String.toList_ofList]

theorem bytesOf_ne_nil {s : String} (h : s ≠ "") : bytesOf s ≠ [] := by
  have hnil : bytesOf "" = [] := by decide +kernel
  rw [← hnil, Ne, bytesOf_inj]
  exact h

/-- A byte below 128 stands for a character of its own. -/
theorem val_of_mem_utf8EncodeChar {c : Char} {b : UInt8} (hb : b.toNat < 128)
    (h : b ∈ String.utf8EncodeChar c) : c.val.toNat = b.toNat := by
  have hnot : ∀ n, 128 ≤ n → n < 256 → b ≠ UInt8.ofNat n := by
    rintro n hlow hhigh rfl
    rw [UInt8.toNat_ofNat', Nat.mod_eq_of_lt hhigh] at hb
    exact Nat.not_le.mpr hb hlow
  rw [String.utf8EncodeChar.eq_1] at h
  split at h
  · rename_i hsmall
    rw [List.mem_singleton.mp h, UInt8.toNat_ofNat']
    exact (Nat.mod_eq_of_lt (Nat.lt_of_le_of_lt hsmall (by decide))).symm
  · -- all bytes of longer characters are larger
    exfalso
    split at h
    · simp only [List.mem_cons, List.not_mem_nil, or_false] at h
      rcases h with h | h <;> exact hnot _ (by omega) (by omega) h
    · split at h <;> simp only [List.mem_cons, List.not_mem_nil, or_false] at h
      · rcases h with h | h | h <;> exact hnot _ (by omega) (by omega) h
      · rcases h with h | h | h | h <;> exact hnot _ (by omega) (by omega) h

theorem mem_of_mem_bytesOf {s : String} {c : Char} (hc : c.toNat < 128)
    (h : UInt8.ofNat c.toNat ∈ bytesOf s) : c ∈ s.toList := by
  have hbyte : (UInt8.ofNat c.toNat).toNat = c.toNat := by
    rw [UInt8.toNat_ofNat', Nat.mod_eq_of_lt (by omega)]
  rw [bytesOf_eq_flatMap] at h
  obtain ⟨d, hd, hmem⟩ := List.mem_flatMap.mp h
  have hval : d.val.toNat = c.val.toNat :=
    (val_of_mem_utf8EncodeChar (by rwa [hbyte]) hmem).trans hbyte
  have hsame : d = c := Char.ext (UInt32.toNat_inj.mp hval)
  exact hsame ▸ hd

/-! ## Reading the bytes of one character -/

theorem lossyFrom_ascii {n : Nat} (h : n < 0x80) (rest : List UInt8) :
    lossyFrom none (UInt8.ofNat n :: rest) = Char.ofNat n :: lossyFrom none rest := by
  have hbyte : (UInt8.ofNat n).toNat = n := by
    rw [UInt8.toNat_ofNat', Nat.mod_eq_of_lt (by omega)]
  rw [lossyFrom, hbyte, startChar, if_pos h]
  rfl

theorem lossyFrom_lead {n owed low high : Nat} (hn : 0x80 ≤ n) (hn' : n < 0x100)
    (h : continuation? n = some (owed, low, high)) (rest : List UInt8) :
    lossyFrom none (UInt8.ofNat n :: rest) =
      lossyFrom (some ⟨leadBits n owed, owed, low, high⟩) rest := by
  have hbyte : (UInt8.ofNat n).toNat = n := by rw [UInt8.toNat_ofNat', Nat.mod_eq_of_lt hn']
  rw [lossyFrom, hbyte, startChar, if_neg (Nat.not_lt.mpr hn), h]
  rfl

section

variable {value n low high : Nat} (hn : n < 0x40) (hlow : low ≤ n + 0x80) (hhigh : n + 0x80 ≤ high)
include hn hlow hhigh

/-- A continuation byte adds six bits to the value of the character. -/
theorem lossyFrom_continue (owed : Nat) (rest : List UInt8) :
    lossyFrom (some ⟨value, owed, low, high⟩) (UInt8.ofNat (n + 0x80) :: rest) =
      if owed ≤ 1 then Char.ofNat (value * 0x40 + n) :: lossyFrom none rest
      else lossyFrom (some ⟨value * 0x40 + n, owed - 1, 0x80, 0xBF⟩) rest := by
  have hbyte : (UInt8.ofNat (n + 0x80)).toNat = n + 0x80 := by
    rw [UInt8.toNat_ofNat', Nat.mod_eq_of_lt (by omega)]
  have hbits : (n + 0x80) % 0x40 = n := by omega
  rw [lossyFrom, hbyte, hbits]
  simp only [hlow, hhigh, decide_true, Bool.and_self, if_true]

theorem lossyFrom_last (rest : List UInt8) :
    lossyFrom (some ⟨value, 1, low, high⟩) (UInt8.ofNat (n + 0x80) :: rest) =
      Char.ofNat (value * 0x40 + n) :: lossyFrom none rest := by
  rw [lossyFrom_continue hn hlow hhigh, if_pos (Nat.le_refl 1)]

theorem lossyFrom_more (owed : Nat) (rest : List UInt8) :
    lossyFrom (some ⟨value, owed + 2, low, high⟩) (UInt8.ofNat (n + 0x80) :: rest) =
      lossyFrom (some ⟨value * 0x40 + n, owed + 1, 0x80, 0xBF⟩) rest := by
  rw [lossyFrom_continue hn hlow hhigh, if_neg (by omega)]
  rfl

end

/-! First bytes by the length of the character. The second byte of a character that would be shorter,
or a surrogate, or too large, is out of the range. -/

theorem continuation?_two {a : Nat} (h : 2 ≤ a) (h' : a < 0x20) :
    continuation? (a + 0xC0) = some (1, 0x80, 0xBF) := by
  have hrange : 0xC2 ≤ a + 0xC0 ∧ a + 0xC0 ≤ 0xDF := by omega
  simp [continuation?, hrange]

theorem continuation?_three {a : Nat} (h : a < 0x10) :
    continuation? (a + 0xE0) =
      some (2, if a = 0 then 0xA0 else 0x80, if a = 0xD then 0x9F else 0xBF) := by
  revert a
  decide

theorem continuation?_four {a : Nat} (h : a < 5) :
    continuation? (a + 0xF0) =
      some (3, if a = 0 then 0x90 else 0x80, if a = 4 then 0x8F else 0xBF) := by
  revert a
  decide

theorem lossyFrom_char (c : Char) (rest : List UInt8) :
    lossyFrom none (String.utf8EncodeChar c ++ rest) = c :: lossyFrom none rest := by
  have hvalid : c.val.toNat < 0xD800 ∨ 0xDFFF < c.val.toNat ∧ c.val.toNat < 0x110000 := c.valid
  have hchar : ∀ n, n = c.val.toNat → Char.ofNat n = c := by
    rintro n rfl
    exact Char.ofNat_toNat c
  rw [String.utf8EncodeChar.eq_1]
  generalize c.val.toNat = n at hvalid hchar ⊢
  split
  · rw [List.singleton_append, lossyFrom_ascii (by omega), hchar n rfl]
  split
  · have hlead : leadBits (n / 64 % 32 + 192) 1 = n / 64 := by
      rw [leadBits, if_pos rfl]
      omega
    rw [List.cons_append, List.singleton_append,
      lossyFrom_lead (by omega) (by omega) (continuation?_two (by omega) (by omega)), hlead,
      lossyFrom_last (by omega) (by omega) (by omega), hchar _ (by omega)]
  split
  · have hlead : leadBits (n / 4096 % 16 + 224) 2 = n / 4096 := by
      rw [leadBits, if_neg (by decide), if_pos rfl]
      omega
    rw [List.cons_append, List.cons_append, List.singleton_append,
      lossyFrom_lead (by omega) (by omega) (continuation?_three (by omega)), hlead,
      lossyFrom_more (by omega) (by split <;> omega) (by split <;> omega) 0,
      lossyFrom_last (by omega) (by omega) (by omega), hchar _ (by omega)]
  · have hlead : leadBits (n / 262144 % 8 + 240) 3 = n / 262144 := by
      rw [leadBits, if_neg (by decide), if_neg (by decide)]
      omega
    rw [List.cons_append, List.cons_append, List.cons_append, List.singleton_append,
      lossyFrom_lead (by omega) (by omega) (continuation?_four (by omega)), hlead,
      lossyFrom_more (by omega) (by split <;> omega) (by split <;> omega) 1,
      lossyFrom_more (by omega) (by omega) (by omega) 0,
      lossyFrom_last (by omega) (by omega) (by omega), hchar _ (by omega)]

/-- The text behind its own bytes. -/
theorem ofBytesLossy_bytesOf (s : String) : ofBytesLossy (bytesOf s) = s := by
  have hread : ∀ cs : List Char, lossyFrom none (cs.flatMap String.utf8EncodeChar) = cs := by
    intro cs
    induction cs with
    | nil => rfl
    | cons c rest ih => rw [List.flatMap_cons, lossyFrom_char, ih]
  rw [ofBytesLossy, bytesOf_eq_flatMap, hread, String.ofList_toList]

end Conformance.Text
