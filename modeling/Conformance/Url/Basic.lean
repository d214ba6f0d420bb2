import Conformance.Url.Host
import Conformance.Url.Path

/-!
# URLs

A URL in its parts, all of them in encoded form.

## Main definitions

- `Url` — scheme, authority, path, query and fragment
- `Url.text` — the text of a URL
- `Url.pushSegment?` — adds a segment to the path
- `Url.appendPairs` — adds parameters to the query
- `Url.filePath?` — the bytes of the file path that a URL denotes
-/

namespace Conformance

/-- Who is addressed: a host with an optional port, on behalf of an optional user. -/
structure Authority where
  username : String := ""
  password : Option String := none
  host : Host
  port : Option Nat := none
  deriving DecidableEq, Repr, Inhabited

/-- A URL. The text of a path that is `marked` has a dot in front of it, so that it cannot be taken
for an authority. -/
structure Url where
  scheme : String
  authority : Option Authority
  path : UrlPath
  marked : Bool := false
  query : Option String
  fragment : Option String
  deriving DecidableEq, Repr, Inhabited

/-- The text of an authority, after the two slashes. -/
def Authority.text (a : Authority) : String :=
  let user := a.username ++ (match a.password with | some p => ":" ++ p | none => "")
  let port := match a.port with | some p => ":" ++ toString p | none => ""
  (if user.isEmpty then "" else user ++ "@") ++ a.host.text ++ port

namespace Url

/-- The schemes of file paths and of the web, whose URLs are read more leniently. -/
def isSpecial (scheme : String) : Bool :=
  ["http", "https", "ws", "wss", "ftp", "file"].contains scheme

/-- The port that a scheme implies. -/
def defaultPort? (scheme : String) : Option Nat :=
  if scheme = "http" ∨ scheme = "ws" then some 80
  else if scheme = "https" ∨ scheme = "wss" then some 443
  else if scheme = "ftp" then some 21
  else none

/-- The text of a URL. -/
def text (u : Url) : String :=
  let authority := match u.authority with | some a => "//" ++ a.text | none => ""
  let path := (if u.marked then "/." else "") ++ u.path.text
  u.scheme ++ ":" ++ authority ++ path ++ (match u.query with | some q => "?" ++ q | none => "")
    ++ (match u.fragment with | some f => "#" ++ f | none => "")

/-- The text of the host, if there is one. -/
def hostText? (u : Url) : Option String :=
  (u.authority.map (·.host.text)).filter (· ≠ "")

/-- The port, unless it is the one that the scheme implies. -/
def port? (u : Url) : Option Nat := u.authority.bind (·.port)

/-! ## Segments of a path -/

/-- The rules for a segment that is added to the path of a URL. -/
def segmentRules (u : Url) : PathRules where
  file := u.scheme = "file"
  hosted := true
  set := if isSpecial u.scheme then Encode.specialSegmentSet else Encode.segmentSet

/-- Adds one segment to a path, after dropping an empty one at its end. The two segments for
directories are not added, but one that becomes such a segment without its gaps is resolved. A
path without structure has no segments. -/
def pushSegment? (u : Url) (segment : String) : Option Url :=
  match u.path with
  | .plain _ => none
  | .segments list =>
    let list := UrlPath.withoutTrailing list
    if segment = "." ∨ segment = ".." then some { u with path := .segments list }
    else
      let base := if list = [""] then [] else list
      let placed := u.segmentRules.place { segments := base } segment.toList true
      some { u with path := u.segmentRules.path placed }

/-! ## Parameters of a query -/

/-- A parameter in encoded form. -/
def encodePair (pair : String × String) : String :=
  String.ofList (Encode.form pair.1.toList ++ '=' :: Encode.form pair.2.toList)

/-- Adds parameters to a query. -/
def appendPairs (u : Url) (pairs : List (String × String)) : Url :=
  if pairs.isEmpty then u
  else
    let added := pairs.map encodePair
    let old := match u.query with | some q => if q.isEmpty then [] else [q] | none => []
    { u with query := some ("&".intercalate (old ++ added)) }

/-- The parameters of a query. -/
def pairs (u : Url) : List (String × String) :=
  match u.query with
  | none => []
  | some q =>
    ((Text.splitAll (· = '&') q.toList).filter (!·.isEmpty)).map fun cs =>
      let (k, v) := cs.span (· ≠ '=')
      (Encode.formDecode k, Encode.formDecode (v.drop 1))

/-! ## File paths -/

/-- Whether a path ends in a drive letter. -/
def endsInDrive (bytes : List UInt8) : Bool :=
  match bytes.reverse with
  | mark :: letter :: _ :: _ =>
    (mark = 0x3A || mark = 0x7C) && (Char.ofNat letter.toNat).isAlpha
  | _ => false

/-- The bytes of the file path that a URL without host denotes. -/
def filePath? (u : Url) : Option (List UInt8) :=
  match u.path, u.hostText? with
  | .segments list, none =>
    let bytes := list.flatMap fun s => 0x2F :: Encode.percentDecode s.toList
    some (if endsInDrive bytes then bytes ++ [0x2F] else bytes)
  | _, _ => none

end Url

end Conformance
