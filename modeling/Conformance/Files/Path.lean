import Conformance.Text.Utf8

/-!
# Paths

Paths are texts whose parts are separated by slashes. Names in the file system are bytes, since
not every name of a file is a text.

## Main definitions

- `Path.push` — a path extended by a relative or replaced by an absolute one
- `Path.parts` — the names in a path
- `FileName` — the name of one entry of a directory
-/

namespace Conformance

/-- The name of an entry of a directory. -/
abbrev FileName := List UInt8

/-- The bytes of a path. -/
abbrev RawPath := List UInt8

namespace Path

/-- The byte that separates names. -/
def slash : UInt8 := 0x2F

/-- Extends a path. An absolute extension replaces it, and no slash is doubled. -/
def push (base extension : String) : String :=
  if extension.startsWith "/" then extension
  else if base.isEmpty || base.endsWith "/" then base ++ extension
  else base ++ "/" ++ extension

/-- The pieces between the slashes of a path, empty ones included. -/
def pieces : RawPath → List FileName
  | [] => [[]]
  | b :: rest =>
    if b = slash then [] :: pieces rest
    else
      match pieces rest with
      | piece :: others => (b :: piece) :: others
      | [] => [[b]]

/-- The names in a path. -/
def parts (path : RawPath) : List FileName := (pieces path).filter (!·.isEmpty)

/-- Names without those for the current directory at the end. -/
def withoutDots (names : List FileName) : List FileName :=
  (names.reverse.dropWhile (· = [0x2E])).reverse

theorem length_withoutDots_le (names : List FileName) :
    (withoutDots names).length ≤ names.length := by
  have h := (List.dropWhile_sublist (· = [0x2E]) (l := names.reverse)).length_le
  simpa [withoutDots] using h

/-- Whether a path starts at the root. -/
def isAbsolute (path : RawPath) : Bool := path.head? = some slash

/-- Whether a path can only denote a directory. -/
def wantsDirectory (path : RawPath) : Bool :=
  match (pieces path).getLast? with
  | some last => last.isEmpty || last = [0x2E] || last = [0x2E, 0x2E]
  | none => false

/-- The nonempty pieces of a text between slashes. -/
def segments (path : String) : List String :=
  ((path.splitOn "/").filter fun s => !s.isEmpty)

end Path

end Conformance
