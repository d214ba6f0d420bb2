import Conformance.Json.Draft
import Conformance.Text.Numeral

/-!
# Reading JSON

A reader for JSON text. Arrays and objects may be nested 127 deep. A numeral without point and
exponent that fits in 64 bits is a whole number, any other numeral a floating-point number. Of
such a numeral only as many leading digits count as fit in 64 bits; the number is then scaled by
a rounded power of ten.

## Main definitions

- `Draft.ofText?` — the draft of a text
- `Json.ofText?` — the canonical value of a text
-/

namespace Conformance

namespace Reader

/-- The blanks that may stand between tokens. -/
def isSpace (c : Char) : Bool := c = ' ' || c = '\t' || c = '\n' || c = '\r'

/-- A text without its leading blanks. -/
def skipSpace (cs : List Char) : List Char := cs.dropWhile isSpace

/-- How deep arrays and objects may be nested. -/
def maxDepth : Nat := 127

/-! ## Numbers -/

/-- Appends decimal digits to a number while it fits in 64 bits; the second part counts the
digits left over. -/
def accumulate (significand : Nat) : List Char → Nat × Nat
  | [] => (significand, 0)
  | d :: ds =>
    let next := significand * 10 + (d.toNat - '0'.toNat)
    if next ≤ Text.maxUnsigned64 then accumulate next ds else (significand, ds.length + 1)

/-- Scales a magnitude by a power of ten. Powers below `10 ^ -308` are applied in steps. -/
def scale : (steps : Nat) → Binary64 → Int → Option Binary64
  | 0, _, _ => some Binary64.zero
  | steps + 1, x, power =>
    if power.natAbs ≤ 308 then
      (Binary64.powerOfTen? power.natAbs).bind fun p =>
        if 0 ≤ power then x.mul? p else x.div? p
    else if x.magnitude = 0 then some x
    else if 0 ≤ power then none
    else (Binary64.powerOfTen? 308).bind fun p => (x.div? p).bind fun y => scale steps y (power + 308)

/-- The floating-point number `significand * 10 ^ power` with a sign. -/
def floatOf (negative : Bool) (significand : Nat) (power : Int) : Draft :=
  match (Binary64.ofNat? significand).bind fun x => scale 8 x power with
  | some x => .float ⟨negative, x.magnitude⟩
  | none => .unreadable

/-- The whole number with a sign, if it fits in 64 bits. Minus zero is a floating-point number. -/
def intOf (negative : Bool) (significand : Nat) : Draft :=
  if negative then
    if significand = 0 ∨ 9223372036854775808 < significand then floatOf true significand 0
    else .int (-(significand : Int))
  else .int significand

/-- One or more leading digits and the rest. -/
def digits? (cs : List Char) : Option (List Char × List Char) :=
  let (ds, rest) := cs.span Text.isDigit
  if ds.isEmpty then none else some (ds, rest)

/-- Reads the exponent of a numeral, after its mark, and scales the number. -/
def readExponent (negative : Bool) (significand : Nat) (power : Int) (cs : List Char) :
    Option (Draft × List Char) := do
  let (minus, cs) := match cs with
    | '+' :: rest => (false, rest)
    | '-' :: rest => (true, rest)
    | _ => (false, cs)
  let (ds, rest) ← digits? cs
  let size := Nat.ofDigitChars 10 ds 0
  if 2147483647 < size then
    if significand ≠ 0 ∧ !minus then return (.unreadable, rest)
    return (.float ⟨negative, 0⟩, rest)
  return (floatOf negative significand (if minus then power - size else power + size), rest)

/-- Reads what follows the whole part of a numeral: a fraction, an exponent, both or neither. -/
def readFraction (negative : Bool) (significand leftOver : Nat) (cs : List Char) :
    Option (Draft × List Char) :=
  match cs with
  | '.' :: rest => do
    let (ds, rest) ← digits? rest
    let (significand, unused) := accumulate significand ds
    let power : Int := (leftOver : Int) - ((ds.length - unused : Nat) : Int)
    match rest with
    | 'e' :: rest => readExponent negative significand power rest
    | 'E' :: rest => readExponent negative significand power rest
    | _ => return (floatOf negative significand power, rest)
  | 'e' :: rest => readExponent negative significand leftOver rest
  | 'E' :: rest => readExponent negative significand leftOver rest
  | _ =>
    if leftOver = 0 then some (intOf negative significand, cs)
    else some (floatOf negative significand leftOver, cs)

/-- Reads a numeral. A leading zero stands alone. -/
def readNumber (cs : List Char) : Option (Draft × List Char) := do
  let (negative, cs) := match cs with
    | '-' :: rest => (true, rest)
    | _ => (false, cs)
  let (ds, rest) ← digits? cs
  if ds.head? = some '0' ∧ 1 < ds.length then none
  else
    let (significand, leftOver) := accumulate 0 ds
    readFraction negative significand leftOver rest

/-! ## Strings -/

/-- The value of a hexadecimal digit. -/
def hexValue? (c : Char) : Option Nat :=
  if '0' ≤ c ∧ c ≤ '9' then some (c.toNat - '0'.toNat)
  else if 'a' ≤ c ∧ c ≤ 'f' then some (c.toNat - 'a'.toNat + 10)
  else if 'A' ≤ c ∧ c ≤ 'F' then some (c.toNat - 'A'.toNat + 10)
  else none

/-- The value of four hexadecimal digits. -/
def hex4? (a b c d : Char) : Option Nat := do
  return (((← hexValue? a) * 16 + (← hexValue? b)) * 16 + (← hexValue? c)) * 16 + (← hexValue? d)

/-- The character behind a backslash in a short escape. -/
def shortEscape? : Char → Option Char
  | '"' => some '"'
  | '\\' => some '\\'
  | '/' => some '/'
  | 'b' => some '\x08'
  | 'f' => some '\x0c'
  | 'n' => some '\n'
  | 'r' => some '\r'
  | 't' => some '\t'
  | _ => none

/-- Reads a string after its opening quote. `done` holds the characters so far, last one first;
`high` is the first half of a surrogate pair that was read just before; `good` says that all
halves so far have been paired. -/
def readString (done : List Char) (high : Option Nat) (good : Bool) :
    List Char → Option (Option String × List Char)
  | '"' :: rest =>
    some (if good && high.isNone then some (String.ofList done.reverse) else none, rest)
  | '\\' :: 'u' :: a :: b :: c :: d :: rest =>
    match hex4? a b c d with
    | none => none
    | some n =>
      if 0xDC00 ≤ n ∧ n ≤ 0xDFFF then
        match high with
        | some h =>
          let char := Char.ofNat (0x10000 + (h - 0xD800) * 0x400 + (n - 0xDC00))
          readString (char :: done) none good rest
        | none => readString done none false rest
      else if 0xD800 ≤ n ∧ n ≤ 0xDBFF then readString done (some n) (good && high.isNone) rest
      else readString (Char.ofNat n :: done) none (good && high.isNone) rest
  | '\\' :: e :: rest =>
    match shortEscape? e with
    | none => none
    | some c => readString (c :: done) none (good && high.isNone) rest
  | c :: rest =>
    if c.toNat < 0x20 ∨ c = '\\' then none
    else readString (c :: done) none (good && high.isNone) rest
  | [] => none

/-! ## Values -/

/-- An array or object that stands inside `depth` others. -/
def nested (depth : Nat) (d : Draft) : Draft := if depth < maxDepth then d else .unreadable

/-- The object with the given fields; an unreadable key spoils all of it. -/
def objectOf (fields : List (Option String × Draft)) : Draft :=
  match fields.mapM (fun f => f.1.map fun k => (k, f.2)) with
  | some fields => .obj fields
  | none => .unreadable

mutual

/-- Reads a value that stands inside `depth` arrays and objects. The fuel bounds the length of
the text. -/
def readValue : (fuel depth : Nat) → List Char → Option (Draft × List Char)
  | 0, _, _ => none
  | fuel + 1, depth, cs =>
    match skipSpace cs with
    | 'n' :: 'u' :: 'l' :: 'l' :: rest => some (.null, rest)
    | 't' :: 'r' :: 'u' :: 'e' :: rest => some (.bool true, rest)
    | 'f' :: 'a' :: 'l' :: 's' :: 'e' :: rest => some (.bool false, rest)
    | '"' :: rest => do
      let (s, rest) ← readString [] none true rest
      return (match s with | some s => .str s | none => .unreadable, rest)
    | '[' :: rest =>
      match skipSpace rest with
      | ']' :: rest => some (nested depth (.arr []), rest)
      | _ => do
        let (d, rest) ← readValue fuel (depth + 1) rest
        let (ds, rest) ← readItems fuel (depth + 1) rest
        return (nested depth (.arr (d :: ds)), rest)
    | '\x7b' :: rest =>
      match skipSpace rest with
      | '\x7d' :: rest => some (nested depth (.obj []), rest)
      | _ => do
        let (f, rest) ← readField fuel (depth + 1) rest
        let (fs, rest) ← readFields fuel (depth + 1) rest
        return (nested depth (objectOf (f :: fs)), rest)
    | rest => readNumber rest

/-- Reads the items after the first and the end of an array. -/
def readItems : (fuel depth : Nat) → List Char → Option (List Draft × List Char)
  | 0, _, _ => none
  | fuel + 1, depth, cs =>
    match skipSpace cs with
    | ']' :: rest => some ([], rest)
    | ',' :: rest => do
      let (d, rest) ← readValue fuel depth rest
      let (ds, rest) ← readItems fuel depth rest
      return (d :: ds, rest)
    | _ => none

/-- Reads a key, a colon and a value. -/
def readField : (fuel depth : Nat) → List Char → Option ((Option String × Draft) × List Char)
  | 0, _, _ => none
  | fuel + 1, depth, cs =>
    match skipSpace cs with
    | '"' :: rest => do
      let (k, rest) ← readString [] none true rest
      match skipSpace rest with
      | ':' :: rest =>
        let (d, rest) ← readValue fuel depth rest
        return ((k, d), rest)
      | _ => none
    | _ => none

/-- Reads the fields after the first and the end of an object. -/
def readFields : (fuel depth : Nat) → List Char → Option (List (Option String × Draft) × List Char)
  | 0, _, _ => none
  | fuel + 1, depth, cs =>
    match skipSpace cs with
    | '\x7d' :: rest => some ([], rest)
    | ',' :: rest => do
      let (f, rest) ← readField fuel depth rest
      let (fs, rest) ← readFields fuel depth rest
      return (f :: fs, rest)
    | _ => none

end

end Reader

/-- The draft of a JSON text; only blanks may follow the value. -/
def Draft.ofText? (text : String) : Option Draft :=
  let cs := text.toList
  match Reader.readValue (2 * cs.length + 2) 0 cs with
  | some (d, rest) => if (Reader.skipSpace rest).isEmpty then some d else none
  | none => none

/-- The canonical value of a JSON text. -/
def Json.ofText? (text : String) : Option Json := (Draft.ofText? text).bind Draft.value?

end Conformance
