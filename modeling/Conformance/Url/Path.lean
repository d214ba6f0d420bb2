import Conformance.Url.Encode

/-!
# Paths of URLs

A path is a list of segments that each follow a slash, or a text without structure. Segments are
placed one after another: those for the current and for the parent directory are resolved, and in
the path of a file a drive letter has a place of its own.

## Main definitions

- `UrlPath`, `UrlPath.text` — a path and its text
- `PathRules` — what the segments of a path are read by
- `PathRules.place`, `PathRules.placeAll` — places segments behind those placed before
- `withoutTrailing`, `trimLeading` — drop empty segments at the ends
-/

namespace Conformance

/-- A path: segments that each follow a slash, or a text without structure. -/
inductive UrlPath where
  | segments (list : List String)
  | plain (text : String)
  deriving DecidableEq, Repr, Inhabited

namespace UrlPath

/-- The text of a path. -/
def text : UrlPath → String
  | segments list => String.join (list.map ("/" ++ ·))
  | plain text => text

/-- Whether the text of a path starts with two slashes. -/
def startsDouble : UrlPath → Bool
  | segments ("" :: _ :: _) => true
  | _ => false

/-! ## Kinds of segments -/

/-- The spellings of the segment for the current directory. -/
def isDot (segment : String) : Bool := [".", "%2e"].contains segment.toLower

/-- The spellings of the segment for the parent directory. -/
def isDotDot (segment : String) : Bool :=
  ["..", "%2e.", ".%2e", "%2e%2e"].contains segment.toLower

/-- Whether two characters are a drive letter and its mark. -/
def isDrivePair (letter mark : Char) : Bool := letter.isAlpha && (mark = ':' || mark = '|')

/-- A segment that is a drive letter with its mark. -/
def isDrive (segment : String) : Bool :=
  match segment.toList with
  | [letter, mark] => isDrivePair letter mark
  | _ => false

/-- Whether a segment is never dropped: a drive letter that ends it, or that comes before a
backslash. -/
def isFixed (segment : String) : Bool :=
  match segment.toList with
  | [letter, mark] => isDrivePair letter mark
  | letter :: mark :: '\\' :: _ => isDrivePair letter mark
  | _ => false

/-- A tab or a line end, which a URL may hold anywhere and which means nothing. -/
def isGap (c : Char) : Bool := c = '\t' || c = '\n' || c = '\r'

/-- A text without tabs and line ends. -/
def withoutGaps (cs : List Char) : List Char := cs.filter fun c => !isGap c

/-- Splits a drive letter off what follows it. There has to be a gap behind its colon. -/
def splitDrive? (raw : List Char) : Option (String × List Char) :=
  match raw.dropWhile isGap with
  | [] => none
  | letter :: rest =>
    match rest.dropWhile isGap with
    | ':' :: gap :: more =>
      if letter.isAlpha && isGap gap && more.any fun c => !isGap c then
        some (String.ofList [letter, ':'], more)
      else none
    | _ => none

/-! ## Empty segments at the ends -/

/-- Drops empty segments at the start of a path, but not the last one. -/
def trimLeading : List String → List String
  | "" :: s :: rest => trimLeading (s :: rest)
  | list => list

/-- A path without its last segment, if that is empty and not the only one. -/
def withoutTrailing (list : List String) : List String :=
  if list.getLast? = some "" ∧ 1 < list.length then list.dropLast else list

/-- Drops the last segment, unless it has to stay. -/
def dropSegment (placed : List String) : List String :=
  match placed.getLast? with
  | some last => if isFixed last then placed else placed.dropLast
  | none => placed

end UrlPath

open UrlPath

/-- What the segments of a path are read by: whether it is the path of a file, whether a host comes
before it, and which characters are encoded. -/
structure PathRules where
  file : Bool
  hosted : Bool
  set : Char → Bool

/-- The segments of a path that have been placed, and whether the first of them is a drive letter
that stands in the place of the host. -/
structure Placed where
  segments : List String := []
  onDrive : Bool := false

namespace PathRules

/-- A segment in encoded form. -/
def encode (rules : PathRules) (raw : List Char) : String :=
  String.ofList (Encode.percent rules.set (withoutGaps raw))

/-- Places a segment in encoded form. Where a segment for a directory comes last, the path ends
in a slash. A drive letter that comes first takes the place of the host. -/
def placeText (rules : PathRules) (p : Placed) (s : String) (isLast : Bool) : Placed :=
  let ending := if isLast then [""] else []
  if isDotDot s then { p with segments := dropSegment p.segments ++ ending }
  else if isDot s then { p with segments := p.segments ++ ending }
  else if rules.file && rules.hosted && p.segments.isEmpty && isDrive s then
    { segments := [String.ofList (s.toList.take 1 ++ [':'])], onDrive := true }
  else { p with segments := p.segments ++ [s] }

/-- Places a segment. -/
def place (rules : PathRules) (p : Placed) (raw : List Char) (isLast : Bool) : Placed :=
  match if rules.file && p.segments.isEmpty then splitDrive? raw else none with
  | some (drive, rest) => { p with segments := [drive, rules.encode rest] }
  | none => rules.placeText p (rules.encode raw) isLast

/-- Places the segments of a path. -/
def placeAll (rules : PathRules) (p : Placed) : List (List Char) → Placed
  | [] => p
  | raw :: rest => rules.placeAll (rules.place p raw rest.isEmpty) rest

/-- The path of the segments that have been placed. That of a file starts with one slash only. -/
def path (rules : PathRules) (p : Placed) : UrlPath :=
  .segments (if rules.file then trimLeading p.segments else p.segments)

end PathRules

end Conformance
