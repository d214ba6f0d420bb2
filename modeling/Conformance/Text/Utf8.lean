/-!
# Text as bytes

The bytes of a text, the text of bytes that hold one, and a readable stand-in for bytes that do
not.

## Main definitions

- `bytesOf` — the UTF-8 form of a text
- `ofBytes?` — the text with this UTF-8 form, if there is one
- `ofBytesLossy` — the text with U+FFFD for every maximal piece that belongs to no character

## Main statements

- `ofBytes?_eq_some_iff` — reading undoes writing
-/

namespace Conformance.Text

/-- The UTF-8 form of a text. -/
def bytesOf (s : String) : List UInt8 := s.toByteArray.toList

/-- The text with this UTF-8 form. -/
def ofBytes? (bytes : List UInt8) : Option String := String.fromUTF8? ⟨bytes.toArray⟩

/-- How many continuation bytes a first byte asks for, and the range of the next one. -/
def continuation? (b : Nat) : Option (Nat × Nat × Nat) :=
  if 0xC2 ≤ b && b ≤ 0xDF then some (1, 0x80, 0xBF)
  else if b == 0xE0 then some (2, 0xA0, 0xBF)
  else if b == 0xED then some (2, 0x80, 0x9F)
  else if 0xE1 ≤ b && b ≤ 0xEF then some (2, 0x80, 0xBF)
  else if b == 0xF0 then some (3, 0x90, 0xBF)
  else if b == 0xF4 then some (3, 0x80, 0x8F)
  else if 0xF1 ≤ b && b ≤ 0xF3 then some (3, 0x80, 0xBF)
  else none

/-- A character that is only partly read: its value so far, the continuation bytes still owed
and the range of the next one. -/
structure Partial where
  value : Nat
  owed : Nat
  low : Nat
  high : Nat

/-- The payload bits of a first byte that asks for `owed` more. -/
def leadBits (b owed : Nat) : Nat :=
  if owed = 1 then b % 0x20 else if owed = 2 then b % 0x10 else b % 0x08

/-- Starts a character: either a whole one, one that is partly read, or a stand-in. -/
def startChar (b : Nat) : List Char × Option Partial :=
  if b < 0x80 then ([Char.ofNat b], none)
  else
    match continuation? b with
    | some (owed, low, high) => ([], some ⟨leadBits b owed, owed, low, high⟩)
    | none => (['\uFFFD'], none)

/-- Reads bytes from the given state on. A byte that cannot continue the current character puts
one stand-in and starts afresh. -/
def lossyFrom : Option Partial → List UInt8 → List Char
  | none, [] => []
  | some _, [] => ['\uFFFD']
  | none, b :: rest =>
    let (out, state) := startChar b.toNat
    out ++ lossyFrom state rest
  | some p, b :: rest =>
    let n := b.toNat
    if p.low ≤ n && n ≤ p.high then
      let value := p.value * 0x40 + n % 0x40
      if p.owed ≤ 1 then Char.ofNat value :: lossyFrom none rest
      else lossyFrom (some ⟨value, p.owed - 1, 0x80, 0xBF⟩) rest
    else
      let (out, state) := startChar n
      '\uFFFD' :: (out ++ lossyFrom state rest)

/-- The text that stands for bytes which may not be UTF-8. -/
def ofBytesLossy (bytes : List UInt8) : String := String.ofList (lossyFrom none bytes)

/-! ## Laws -/

theorem toList_loop (bytes : ByteArray) (i : Nat) (before : List UInt8) :
    ByteArray.toList.loop bytes i before = before.reverse ++ bytes.data.toList.drop i := by
  induction i, before using ByteArray.toList.loop.induct bytes with
  | case1 i before hi ih =>
    have hi' : i < bytes.data.toList.length := hi
    rw [ByteArray.toList.loop, if_pos hi, ih, List.drop_eq_getElem_cons hi', List.reverse_cons,
      List.append_assoc]
    have hget : bytes.get! i = bytes.data.toList[i] := getElem!_pos bytes.data i hi
    rw [hget]
    rfl
  | case2 i before hi =>
    have hi' : bytes.data.toList.length ≤ i := Nat.le_of_not_lt hi
    rw [ByteArray.toList.loop, if_neg hi, List.drop_of_length_le hi', List.append_nil]

theorem bytesOf_eq (s : String) : bytesOf s = s.toByteArray.data.toList := by
  rw [bytesOf, ByteArray.toList, toList_loop]
  rfl

theorem ofBytes?_eq_some_iff {bytes : List UInt8} {s : String} :
    ofBytes? bytes = some s ↔ bytes = bytesOf s := by
  rw [bytesOf_eq]
  unfold ofBytes? String.fromUTF8?
  constructor
  · intro h
    split at h
    · cases h
      rfl
    · cases h
  · rintro rfl
    rw [dif_pos s.isValidUTF8]
    rfl

theorem bytesOf_inj {s t : String} : bytesOf s = bytesOf t ↔ s = t := by
  constructor
  · intro h
    have hs := ofBytes?_eq_some_iff.mpr (rfl : bytesOf s = bytesOf s)
    rw [h, ofBytes?_eq_some_iff.mpr rfl] at hs
    exact (Option.some.inj hs).symm
  · rintro rfl
    rfl
end Conformance.Text
