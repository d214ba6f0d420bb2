import Conformance.Json.Print
import Conformance.Json.Read

/-!
# Records of texts

A record of texts is written in one line, whatever the texts are, and it is read back as it was.

## Main definitions

- `Json.ofTexts` — the record of some texts

## Main statements

- `Json.writeChar_cases` — how a character of a text is written
- `Reader.readString_writeString` — a text that is written is read back
- `Json.newline_not_mem_compact` — no line ends within a record of texts
- `Draft.ofText?_compact` — a record of texts that is written is read back
-/

namespace Conformance

/-! ## How texts are written -/

namespace Json

/-- A character of a text is written as a short escape, as a control character by its number, or as it
is. -/
theorem writeChar_cases (c : Char) (rest : List Char) :
    (∃ e, Reader.shortEscape? e = some c ∧ writeChar c rest = '\\' :: e :: rest) ∨
    (c.toNat < 0x20 ∧ writeChar c rest = '\\' :: 'u' :: '0' :: '0' ::
      Nat.digitChar (c.toNat / 16) :: Nat.digitChar (c.toNat % 16) :: rest) ∨
    (c ≠ '"' ∧ c ≠ '\\' ∧ ¬ c.toNat < 0x20 ∧ writeChar c rest = c :: rest) := by
  have hchar : ∀ d : Char, c.toNat = d.toNat → c = d := fun d h => by
    rw [← Char.ofNat_toNat c, h, Char.ofNat_toNat]
  unfold writeChar
  split
  · rename_i hc
    exact .inl ⟨'"', by rw [hc]; rfl, rfl⟩
  split
  · rename_i hc
    exact .inl ⟨'\\', by rw [hc]; rfl, rfl⟩
  split
  · rename_i hcontrol
    split
    · rename_i hc
      exact .inl ⟨'b', by rw [hchar '\x08' hc]; rfl, rfl⟩
    split
    · rename_i hc
      exact .inl ⟨'f', by rw [hchar '\x0c' hc]; rfl, rfl⟩
    split
    · rename_i hc
      exact .inl ⟨'n', by rw [hc]; rfl, rfl⟩
    split
    · rename_i hc
      exact .inl ⟨'r', by rw [hc]; rfl, rfl⟩
    split
    · rename_i hc
      exact .inl ⟨'t', by rw [hc]; rfl, rfl⟩
    · exact .inr (.inl ⟨hcontrol, rfl⟩)
  · rename_i hquote hslash hplain
    exact .inr (.inr ⟨hquote, hslash, hplain, rfl⟩)

theorem writeChars_cons (c : Char) (cs rest : List Char) :
    writeChars (c :: cs) rest = writeChar c (writeChars cs rest) := rfl

theorem newline_of_mem_writeChar {c : Char} {rest : List Char} (h : '\n' ∈ writeChar c rest) :
    '\n' ∈ rest := by
  have hdigit : ∀ n, n < 16 → '\n' ≠ Nat.digitChar n := by decide
  rcases writeChar_cases c rest with ⟨e, he, hwrite⟩ | ⟨hcontrol, hwrite⟩ | ⟨-, -, hplain, hwrite⟩
  · have hne : '\n' ≠ e := by
      rintro rfl
      cases he
    rw [hwrite] at h
    exact List.mem_of_ne_of_mem hne (List.mem_of_ne_of_mem (by decide) h)
  · rw [hwrite] at h
    have h := List.mem_of_ne_of_mem (by decide) (List.mem_of_ne_of_mem (by decide)
      (List.mem_of_ne_of_mem (by decide) (List.mem_of_ne_of_mem (by decide) h)))
    exact List.mem_of_ne_of_mem (hdigit _ (by omega)) (List.mem_of_ne_of_mem (hdigit _ (by omega)) h)
  · have hne : '\n' ≠ c := by
      rintro rfl
      exact hplain (by decide)
    rw [hwrite] at h
    exact List.mem_of_ne_of_mem hne h

theorem newline_of_mem_writeString {s : String} {rest : List Char} (h : '\n' ∈ writeString s rest) :
    '\n' ∈ rest := by
  have hchars : ∀ cs : List Char, '\n' ∈ writeChars cs ('"' :: rest) → '\n' ∈ rest := by
    intro cs hcs
    induction cs with
    | nil => exact List.mem_of_ne_of_mem (by decide) hcs
    | cons c cs ih => exact ih (newline_of_mem_writeChar hcs)
  exact hchars _ (List.mem_of_ne_of_mem (by decide) h)

end Json

/-! ## How texts are read -/

namespace Reader

theorem hexValue?_digitChar {n : Nat} (h : n < 16) : hexValue? (Nat.digitChar n) = some n := by
  revert n
  decide

theorem readString_escape {e c : Char} (h : shortEscape? e = some c) (done rest : List Char) :
    readString done none true ('\\' :: e :: rest) = readString (c :: done) none true rest := by
  have he : e ≠ 'u' := by
    rintro rfl
    cases h
  rw [readString, h]
  · rfl
  · exact fun _ _ _ _ _ hu _ => he hu

theorem readString_control {c : Char} (h : c.toNat < 0x20) (done rest : List Char) :
    readString done none true ('\\' :: 'u' :: '0' :: '0' :: Nat.digitChar (c.toNat / 16) ::
      Nat.digitChar (c.toNat % 16) :: rest) = readString (c :: done) none true rest := by
  have hhigh : hexValue? (Nat.digitChar (c.toNat / 16)) = some (c.toNat / 16) :=
    hexValue?_digitChar (by omega)
  have hlow : hexValue? (Nat.digitChar (c.toNat % 16)) = some (c.toNat % 16) :=
    hexValue?_digitChar (by omega)
  have hzero : hexValue? '0' = some 0 := by decide
  have hvalue : ((0 * 16 + 0) * 16 + c.toNat / 16) * 16 + c.toNat % 16 = c.toNat := by omega
  have hhex : hex4? '0' '0' (Nat.digitChar (c.toNat / 16)) (Nat.digitChar (c.toNat % 16)) =
      some c.toNat := by
    simp only [hex4?, hzero, hhigh, hlow, bind, Option.bind, pure, hvalue]
  rw [readString, hhex]
  simp only [Char.ofNat_toNat]
  rw [if_neg (by omega), if_neg (by omega)]
  rfl

theorem readString_plain {c : Char} (hquote : c ≠ '"') (hslash : c ≠ '\\') (h : ¬ c.toNat < 0x20)
    (done rest : List Char) :
    readString done none true (c :: rest) = readString (c :: done) none true rest := by
  rw [readString, if_neg (not_or.mpr ⟨h, hslash⟩)]
  · rfl
  · exact hquote
  · exact fun _ _ _ _ _ hc _ => hslash hc
  · exact fun _ _ hc _ => hslash hc

/-- A character that is written is read back. -/
theorem readString_writeChar (c : Char) (done rest : List Char) :
    readString done none true (Json.writeChar c rest) = readString (c :: done) none true rest := by
  rcases Json.writeChar_cases c rest with ⟨e, he, hwrite⟩ | ⟨hcontrol, hwrite⟩ |
    ⟨hquote, hslash, hplain, hwrite⟩
  · rw [hwrite, readString_escape he]
  · rw [hwrite, readString_control hcontrol]
  · rw [hwrite, readString_plain hquote hslash hplain]

theorem readString_writeChars (cs done rest : List Char) :
    readString done none true (Json.writeChars cs ('"' :: rest)) =
      some (some (String.ofList (done.reverse ++ cs)), rest) := by
  induction cs generalizing done with
  | nil =>
    rw [List.append_nil]
    rfl
  | cons c cs ih =>
    rw [Json.writeChars_cons, readString_writeChar, ih, List.reverse_cons, List.append_assoc]
    rfl

/-- A text that is written is read back. -/
theorem readString_writeString (s : String) (rest : List Char) :
    readString [] none true (Json.writeChars s.toList ('"' :: rest)) = some (some s, rest) := by
  rw [readString_writeChars, List.reverse_nil, List.nil_append, String.ofList_toList]

/-- What does not start with a blank is read from its start. -/
theorem skipSpace_cons {c : Char} (h : isSpace c = false) (rest : List Char) :
    skipSpace (c :: rest) = c :: rest := by
  rw [skipSpace, List.dropWhile_cons_of_neg (by rw [h]; exact Bool.false_ne_true)]

/-! The steps of the reader that records need. -/

theorem readValue_quote (fuel depth : Nat) (cs : List Char) :
    readValue (fuel + 1) depth ('"' :: cs) = (readString [] none true cs).bind fun x =>
      some (match x.1 with | some s => .str s | none => .unreadable, x.2) := by
  rw [readValue, skipSpace_cons (by decide)]
  rfl

theorem readValue_brace (fuel depth : Nat) (cs : List Char) :
    readValue (fuel + 1) depth ('\x7b' :: '"' :: cs) =
      (readField fuel (depth + 1) ('"' :: cs)).bind fun f =>
        (readFields fuel (depth + 1) f.2).bind fun fs =>
          some (nested depth (objectOf (f.1 :: fs.1)), fs.2) := by
  rw [readValue, skipSpace_cons (by decide)]
  rfl

theorem readField_quote (fuel depth : Nat) (cs : List Char) :
    readField (fuel + 1) depth ('"' :: cs) = (readString [] none true cs).bind fun x =>
      match skipSpace x.2 with
      | ':' :: rest => (readValue fuel depth rest).bind fun y => some ((x.1, y.1), y.2)
      | _ => none := by
  rw [readField, skipSpace_cons (by decide)]
  rfl

theorem readFields_comma (fuel depth : Nat) (cs : List Char) :
    readFields (fuel + 1) depth (',' :: cs) = (readField fuel depth cs).bind fun f =>
      (readFields fuel depth f.2).bind fun fs => some (f.1 :: fs.1, fs.2) := by
  rw [readFields, skipSpace_cons (by decide)]
  rfl

theorem readFields_brace (fuel depth : Nat) (cs : List Char) :
    readFields (fuel + 1) depth ('\x7d' :: cs) = some ([], cs) := by
  rw [readFields, skipSpace_cons (by decide)]
  rfl

theorem readValue_writeString (s : String) (fuel depth : Nat) (rest : List Char) :
    readValue (fuel + 1) depth (Json.writeString s rest) = some (.str s, rest) := by
  rw [Json.writeString, readValue_quote, readString_writeString]
  rfl

theorem readField_writeString (k v : String) (fuel depth : Nat) (rest : List Char) :
    readField (fuel + 2) depth (Json.writeString k (':' :: Json.writeString v rest)) =
      some ((some k, .str v), rest) := by
  rw [Json.writeString, readField_quote, readString_writeString, Option.bind_some]
  dsimp only
  rw [skipSpace_cons (by decide)]
  simp only [readValue_writeString, Option.bind_some]

end Reader

/-! ## Records -/

namespace Json

/-- The record with the given texts. -/
def ofTexts (texts : List (String × String)) : Json := .obj (texts.map fun t => (t.1, .str t.2))

theorem write_str (s : String) (rest : List Char) : write (.str s) rest = writeString s rest := by
  simp only [write, writeScalar]

theorem writeFields_texts_cons (t : String × String) (texts : List (String × String))
    (rest : List Char) :
    writeFields ((t :: texts).map fun t => (t.1, .str t.2)) rest =
      ',' :: writeString t.1 (':' :: writeString t.2
        (writeFields (texts.map fun t => (t.1, .str t.2)) rest)) := by
  rw [List.map_cons, writeFields, write_str]

theorem write_ofTexts_cons (t : String × String) (texts : List (String × String))
    (rest : List Char) :
    write (ofTexts (t :: texts)) rest =
      '\x7b' :: writeString t.1 (':' :: writeString t.2
        (writeFields (texts.map fun t => (t.1, .str t.2)) rest)) := by
  rw [ofTexts, List.map_cons, write, write_str]

theorem length_writeString (s : String) (rest : List Char) :
    rest.length ≤ (writeString s rest).length := by
  have hchar : ∀ c rest, List.length rest ≤ (writeChar c rest).length := by
    intro c rest
    rcases writeChar_cases c rest with ⟨e, -, hwrite⟩ | ⟨-, hwrite⟩ | ⟨-, -, -, hwrite⟩ <;>
      rw [hwrite] <;> simp only [List.length_cons] <;> omega
  have hchars : ∀ cs rest, List.length rest ≤ (writeChars cs rest).length := by
    intro cs rest
    induction cs with
    | nil => exact Nat.le_refl _
    | cons c cs ih => exact Nat.le_trans ih (hchar c _)
  have hall := hchars s.toList ('"' :: rest)
  rw [writeString]
  simp only [List.length_cons] at hall ⊢
  omega

theorem length_writeFields (texts : List (String × String)) (rest : List Char) :
    texts.length < (writeFields (texts.map fun t => (t.1, .str t.2)) rest).length := by
  induction texts with
  | nil => exact Nat.zero_lt_succ _
  | cons t texts ih =>
    have hvalue := length_writeString t.2 (writeFields (texts.map fun t => (t.1, .str t.2)) rest)
    have hkey := length_writeString t.1
      (':' :: writeString t.2 (writeFields (texts.map fun t => (t.1, .str t.2)) rest))
    rw [writeFields_texts_cons]
    simp only [List.length_cons] at hkey ⊢
    omega

/-- A record is longer than the number of its texts. -/
theorem length_write_ofTexts (texts : List (String × String)) :
    texts.length < (write (ofTexts texts) []).length := by
  cases texts with
  | nil => decide
  | cons t texts =>
    have hfields := length_writeFields (t :: texts) []
    rw [writeFields_texts_cons] at hfields
    rw [write_ofTexts_cons]
    exact hfields

theorem newline_of_mem_writeFields {texts : List (String × String)} {rest : List Char}
    (h : '\n' ∈ writeFields (texts.map fun t => (t.1, .str t.2)) rest) : '\n' ∈ rest := by
  induction texts with
  | nil => exact List.mem_of_ne_of_mem (by decide) h
  | cons t texts ih =>
    rw [writeFields_texts_cons] at h
    have hkey := newline_of_mem_writeString (List.mem_of_ne_of_mem (by decide) h)
    exact ih (newline_of_mem_writeString (List.mem_of_ne_of_mem (by decide) hkey))

/-- No line ends within the text of such a record. -/
theorem newline_not_mem_compact (texts : List (String × String)) :
    '\n' ∉ (ofTexts texts).compact.toList := by
  rw [compact, String.toList_ofList]
  intro h
  cases texts with
  | nil => exact absurd h (by decide)
  | cons t texts =>
    rw [write_ofTexts_cons] at h
    have hkey := newline_of_mem_writeString (List.mem_of_ne_of_mem (by decide) h)
    have hvalue := newline_of_mem_writeString (List.mem_of_ne_of_mem (by decide) hkey)
    exact List.not_mem_nil (newline_of_mem_writeFields hvalue)

end Json

namespace Reader

theorem readFields_writeFields (texts : List (String × String)) {fuel : Nat}
    (hfuel : texts.length + 2 ≤ fuel) (depth : Nat) (rest : List Char) :
    readFields fuel depth (Json.writeFields (texts.map fun t => (t.1, .str t.2)) rest) =
      some (texts.map fun t => (some t.1, .str t.2), rest) := by
  induction texts generalizing fuel with
  | nil =>
    obtain ⟨fuel, rfl⟩ := Nat.exists_eq_add_of_le' (Nat.le_of_succ_le hfuel)
    exact readFields_brace fuel depth rest
  | cons t texts ih =>
    rw [List.length_cons] at hfuel
    obtain ⟨fuel, rfl⟩ : ∃ n, fuel = n + 3 := ⟨fuel - 3, by omega⟩
    rw [Json.writeFields_texts_cons, readFields_comma, readField_writeString, Option.bind_some,
      ih (by omega)]
    rfl

theorem objectOf_texts (texts : List (String × String)) :
    objectOf (texts.map fun t => (some t.1, .str t.2)) = .obj (texts.map fun t => (t.1, .str t.2)) := by
  have hkeys : (texts.map fun t => (some t.1, Draft.str t.2)).mapM
      (fun f => f.1.map fun k => (k, f.2)) = some (texts.map fun t => (t.1, .str t.2)) := by
    induction texts with
    | nil => rfl
    | cons t texts ih =>
      rw [List.map_cons, List.mapM_cons, ih]
      rfl
  rw [objectOf, hkeys]

/-- A record of texts is read back. -/
theorem readValue_ofTexts (texts : List (String × String)) {fuel : Nat}
    (hfuel : texts.length + 2 ≤ fuel) (rest : List Char) :
    readValue (fuel + 1) 0 (Json.write (Json.ofTexts texts) rest) =
      some (.obj (texts.map fun t => (t.1, .str t.2)), rest) := by
  cases texts with
  | nil =>
    rw [Json.ofTexts, List.map_nil, Json.write, readValue, skipSpace_cons (by decide)]
    rfl
  | cons t texts =>
    rw [List.length_cons] at hfuel
    obtain ⟨fuel, rfl⟩ : ∃ n, fuel = n + 2 := ⟨fuel - 2, by omega⟩
    have hfield := readField_writeString t.1 t.2 fuel 1
      (Json.writeFields (texts.map fun t => (t.1, .str t.2)) rest)
    have hfields : readFields (fuel + 2) 1
        (Json.writeFields (texts.map fun t => (t.1, .str t.2)) rest) = _ :=
      readFields_writeFields texts (by omega) 1 rest
    rw [Json.write_ofTexts_cons, Json.writeString, readValue_brace, ← Json.writeString, hfield,
      Option.bind_some, hfields, Option.bind_some]
    exact congrArg (fun d => some (d, rest)) (objectOf_texts (t :: texts))

end Reader

/-- A record of texts that is written is read back. -/
theorem Draft.ofText?_compact (texts : List (String × String)) :
    ofText? (Json.ofTexts texts).compact = some (.obj (texts.map fun t => (t.1, .str t.2))) := by
  have hlength := Json.length_write_ofTexts texts
  unfold ofText? Json.compact
  rw [String.toList_ofList]
  dsimp only
  rw [Reader.readValue_ofTexts texts (by omega)]
  rfl

end Conformance
