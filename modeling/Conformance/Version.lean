import Conformance.Text.Numeral

/-!
# Versions of an SDK

A version is `MAJOR.MINOR.PATCH` with an optional suffix after `-` or `+`. Of the suffix only
its presence is kept: a version with a suffix comes right before the release with the same
numbers.

## Main definitions

- `Version.parse?`, `Version.text` — read and write a version
- `Version.compare` — the order of versions
-/

namespace Conformance

/-- A version: three numbers and whether a suffix follows them. -/
structure Version where
  major : UInt32
  minor : UInt32
  patch : UInt32
  hasExtra : Bool := false
  deriving DecidableEq, Repr, Inhabited

namespace Version

/-- What stands before the last occurrence of a marker, unless it is missing or comes first. -/
def beforeLast (marker : Char) (cs : List Char) : Option (List Char) :=
  match cs.reverse.dropWhile (· ≠ marker) with
  | [] => none
  | [_] => none
  | _ :: before => some before.reverse

/-- Cuts a suffix off, at the last occurrence of its marker. -/
def trim (marker : Char) (piece : List Char × Bool) : List Char × Bool :=
  match beforeLast marker piece.1 with
  | some rest => (rest, true)
  | none => piece

/-- Splits at the first two points. -/
def pieces? (cs : List Char) : Option (List Char × List Char × List Char) :=
  match cs.span (· ≠ '.') with
  | (major, _ :: rest) =>
    match rest.span (· ≠ '.') with
    | (minor, _ :: patch) => some (major, minor, patch)
    | _ => none
  | _ => none

/-- A number of 32 bits. -/
def number? (cs : List Char) : Option UInt32 :=
  (Text.unsigned? Text.maxUnsigned32 (String.ofList cs)).map UInt32.ofNat

/-- Reads a version. -/
def parse? (s : String) : Option Version := do
  let (major, minor, patch) ← pieces? s.toList
  let (patch, hasExtra) := trim '+' (trim '-' (patch, false))
  return ⟨← number? major, ← number? minor, ← number? patch, hasExtra⟩

/-- Writes a version. A suffix is written in one way, whatever it was. -/
def text (v : Version) : String :=
  let numbers := toString v.major.toNat ++ "." ++ toString v.minor.toNat ++ "." ++
    toString v.patch.toNat
  if v.hasExtra then numbers ++ "-extra" else numbers

/-- The order of versions: by the numbers, and a suffix comes first among equal numbers. -/
def compare (a b : Version) : Ordering :=
  (Ord.compare a.major b.major).then <|
    (Ord.compare a.minor b.minor).then <|
      (Ord.compare a.patch b.patch).then (Ord.compare b.hasExtra a.hasExtra)

/-- Whether a version is not newer than another. -/
def upTo (a b : Version) : Bool := a.compare b ≠ .gt

/-- The newer of two versions, the second one if they are equal. -/
def newer (a b : Version) : Version := if a.compare b = .gt then a else b

end Version

end Conformance
