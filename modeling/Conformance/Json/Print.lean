import Conformance.Json.Basic
import Conformance.Number.Shortest

/-!
# Writing JSON

The compact text of a value and the indented text of stored files. Both writers put their text
in front of a rest, so that nested values are written without copying.

## Main definitions

- `Json.compact` — no blanks at all
- `Json.pretty` — two blanks per level, empty containers closed at once
-/

namespace Conformance.Json

/-- Writes one character of a string: quotes, backslashes and control characters are escaped. -/
def writeChar (c : Char) (rest : List Char) : List Char :=
  if c = '"' then '\\' :: '"' :: rest
  else if c = '\\' then '\\' :: '\\' :: rest
  else if c.toNat < 0x20 then
    if c.toNat = 0x08 then '\\' :: 'b' :: rest
    else if c.toNat = 0x0C then '\\' :: 'f' :: rest
    else if c = '\n' then '\\' :: 'n' :: rest
    else if c = '\r' then '\\' :: 'r' :: rest
    else if c = '\t' then '\\' :: 't' :: rest
    else '\\' :: 'u' :: '0' :: '0' :: Nat.digitChar (c.toNat / 16) :: Nat.digitChar (c.toNat % 16) :: rest
  else c :: rest

/-- Writes the characters of a string. -/
def writeChars (cs rest : List Char) : List Char := cs.foldr writeChar rest

/-- Writes a string between quotes. -/
def writeString (s : String) (rest : List Char) : List Char :=
  '"' :: writeChars s.toList ('"' :: rest)

/-- Writes a whole number. -/
def writeInt (n : Int) (rest : List Char) : List Char :=
  let digits := Nat.toDigits 10 n.natAbs ++ rest
  if n < 0 then '-' :: digits else digits

/-- Writes a value that holds no other values. -/
def writeScalar : Json → List Char → List Char
  | null, rest => 'n' :: 'u' :: 'l' :: 'l' :: rest
  | bool true, rest => 't' :: 'r' :: 'u' :: 'e' :: rest
  | bool false, rest => 'f' :: 'a' :: 'l' :: 's' :: 'e' :: rest
  | int n, rest => writeInt n rest
  | float x, rest => Shortest.text x ++ rest
  | str s, rest => writeString s rest
  | _, rest => rest

mutual

/-- Writes a value without blanks. -/
def write : Json → List Char → List Char
  | arr [], rest => '[' :: ']' :: rest
  | arr (v :: vs), rest => '[' :: write v (writeItems vs rest)
  | obj [], rest => '\x7b' :: '\x7d' :: rest
  | obj ((k, v) :: fs), rest => '\x7b' :: writeString k (':' :: write v (writeFields fs rest))
  | v, rest => writeScalar v rest

/-- Writes the items after the first and the end of an array. -/
def writeItems : List Json → List Char → List Char
  | [], rest => ']' :: rest
  | v :: vs, rest => ',' :: write v (writeItems vs rest)

/-- Writes the fields after the first and the end of an object. -/
def writeFields : List (String × Json) → List Char → List Char
  | [], rest => '\x7d' :: rest
  | (k, v) :: fs, rest => ',' :: writeString k (':' :: write v (writeFields fs rest))

end

/-- A new line and the indentation of a level. -/
def newLine (level : Nat) (rest : List Char) : List Char :=
  '\n' :: (List.replicate (2 * level) ' ' ++ rest)

mutual

/-- Writes a value with its inner lines indented below `level`. -/
def writePretty (level : Nat) : Json → List Char → List Char
  | arr [], rest => '[' :: ']' :: rest
  | arr (v :: vs), rest =>
    '[' :: newLine (level + 1) (writePretty (level + 1) v (writePrettyItems level vs rest))
  | obj [], rest => '\x7b' :: '\x7d' :: rest
  | obj ((k, v) :: fs), rest =>
    '\x7b' :: newLine (level + 1) (writeString k
      (':' :: ' ' :: writePretty (level + 1) v (writePrettyFields level fs rest)))
  | v, rest => writeScalar v rest

/-- Writes the items after the first and the end of an array. -/
def writePrettyItems (level : Nat) : List Json → List Char → List Char
  | [], rest => newLine level (']' :: rest)
  | v :: vs, rest =>
    ',' :: newLine (level + 1) (writePretty (level + 1) v (writePrettyItems level vs rest))

/-- Writes the fields after the first and the end of an object. -/
def writePrettyFields (level : Nat) : List (String × Json) → List Char → List Char
  | [], rest => newLine level ('\x7d' :: rest)
  | (k, v) :: fs, rest =>
    ',' :: newLine (level + 1) (writeString k
      (':' :: ' ' :: writePretty (level + 1) v (writePrettyFields level fs rest)))

end

/-- The text of a value without blanks. -/
def compact (v : Json) : String := String.ofList (write v [])

/-- The text of a value with one line per item or field. -/
def pretty (v : Json) : String := String.ofList (writePretty 0 v [])

end Conformance.Json
