import Conformance.Text.Utf8

/-!
# Percent encoding

Every part of a URL has its own set of characters that are written as `%` and two hexadecimal
digits per byte. Characters outside ASCII are always written like this.

## Main definitions

- `Encode.percent` — encodes with a set
- `Encode.percentDecode` — the bytes behind an encoded text
- `Encode.form`, `Encode.formDecode` — the encoding of query parameters
-/

namespace Conformance.Encode

/-- Control characters. -/
def controls (c : Char) : Bool := c.toNat < 0x20 || c.toNat = 0x7F

/-- The set for fragments. -/
def fragmentSet (c : Char) : Bool :=
  controls c || c = ' ' || c = '"' || c = '<' || c = '>' || c = '`'

/-- The set for paths. -/
def pathSet (c : Char) : Bool :=
  fragmentSet c || c = '#' || c = '?' || c = '\x7b' || c = '\x7d'

/-- The set for one segment of a path. -/
def segmentSet (c : Char) : Bool := pathSet c || c = '/' || c = '%'

/-- The set for one segment of the path of a special URL. -/
def specialSegmentSet (c : Char) : Bool := segmentSet c || c = '\\'

/-- The set for queries. -/
def querySet (c : Char) : Bool :=
  controls c || c = ' ' || c = '"' || c = '#' || c = '<' || c = '>'

/-- The set for queries of special URLs. -/
def specialQuerySet (c : Char) : Bool := querySet c || c = '\''

/-- The set for user names and passwords. -/
def userinfoSet (c : Char) : Bool :=
  pathSet c || c = '/' || c = ':' || c = ';' || c = '=' || c = '@' || c = '[' || c = '\\'
    || c = ']' || c = '^' || c = '|'

/-- A hexadecimal digit in upper case. -/
def upperHex (n : Nat) : Char := (Nat.digitChar n).toUpper

/-- One byte in encoded form. -/
def byte (b : UInt8) : List Char := ['%', upperHex (b.toNat / 16), upperHex (b.toNat % 16)]

/-- The bytes of a character in encoded form. -/
def bytes (c : Char) : List Char := (Text.bytesOf c.toString).flatMap byte

/-- Encodes the characters of a set and all characters outside ASCII. -/
def percent (set : Char → Bool) (cs : List Char) : List Char :=
  cs.flatMap fun c => if set c || 0x7F < c.toNat then bytes c else [c]

/-- The value of a hexadecimal digit. -/
def hexValue? (c : Char) : Option Nat :=
  if '0' ≤ c ∧ c ≤ '9' then some (c.toNat - '0'.toNat)
  else if 'a' ≤ c ∧ c ≤ 'f' then some (c.toNat - 'a'.toNat + 10)
  else if 'A' ≤ c ∧ c ≤ 'F' then some (c.toNat - 'A'.toNat + 10)
  else none

/-- The bytes behind an encoded text. A percent sign without two digits stands for itself. -/
def percentDecode : List Char → List UInt8
  | [] => []
  | '%' :: a :: b :: rest =>
    match hexValue? a, hexValue? b with
    | some x, some y => UInt8.ofNat (16 * x + y) :: percentDecode rest
    | _, _ => UInt8.ofNat '%'.toNat :: percentDecode (a :: b :: rest)
  | c :: rest => Text.bytesOf c.toString ++ percentDecode rest

/-- The characters that query parameters keep as they are. -/
def formKept (c : Char) : Bool :=
  c.isAlphanum || c = '*' || c = '-' || c = '.' || c = '_'

/-- Encodes a name or a value of a query parameter. -/
def form (cs : List Char) : List Char :=
  cs.flatMap fun c => if formKept c then [c] else if c = ' ' then ['+'] else bytes c

/-- The text behind the name or the value of a query parameter. -/
def formDecode (cs : List Char) : String :=
  Text.ofBytesLossy (percentDecode (cs.map fun c => if c = '+' then ' ' else c))

end Conformance.Encode
