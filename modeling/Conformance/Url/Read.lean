import Conformance.Url.Basic

/-!
# Reading URLs

The reader accepts what browsers accept: blanks around the text, tabs and line ends anywhere,
any number of slashes or backslashes in front of the host of a special URL, dot segments in a
path. A relative reference is refused.

## Main definitions

- `Url.parse` — the URL of a text, or why there is none
-/

namespace Conformance.Url

/-- The characters that may follow the first letter of a scheme. -/
def isSchemeChar (c : Char) : Bool := c.isAlphanum || c = '+' || c = '-' || c = '.'

/-- A blank or control character, which is dropped at both ends. -/
def isTrimmed (c : Char) : Bool := c.toNat ≤ 0x20

/-- The text without blanks at its ends. -/
def trim (cs : List Char) : List Char :=
  ((cs.dropWhile isTrimmed).reverse.dropWhile isTrimmed).reverse

/-- The scheme in lower case and what follows its colon. -/
def splitScheme? (cs : List Char) : Option (String × List Char) :=
  match cs with
  | [] => none
  | c :: _ =>
    if !c.isAlpha then none
    else
      match cs.span isSchemeChar with
      | (scheme, ':' :: rest) => some (String.ofList (scheme.map Char.toLower), rest)
      | _ => none

/-- Whether a character separates the segments of a path. -/
def isSlash (special : Bool) (c : Char) : Bool := c = '/' || (special && c = '\\')

/-- Whether a character ends an authority. -/
def endsAuthority (special : Bool) (c : Char) : Bool := isSlash special c || c = '?' || c = '#'

/-- Splits off the query and the fragment. -/
def splitTail (cs : List Char) : List Char × Option (List Char) × Option (List Char) :=
  let (before, fragment) := cs.span (· ≠ '#')
  let fragment := match fragment with | _ :: f => some f | [] => none
  let (path, query) := before.span (· ≠ '?')
  (path, (match query with | _ :: q => some q | [] => none), fragment)

/-- The URL with the given parts and what comes after its path. -/
def assemble (scheme : String) (authority : Option Authority) (path : UrlPath)
    (query fragment : Option (List Char)) : Url :=
  let set := if isSpecial scheme then Encode.specialQuerySet else Encode.querySet
  let encode (set : Char → Bool) (cs : List Char) : String :=
    String.ofList (Encode.percent set (UrlPath.withoutGaps cs))
  { scheme, authority, path
    marked := authority.isNone && path.startsDouble
    query := query.map (encode set)
    fragment := fragment.map (encode Encode.fragmentSet) }

/-- The rules for the path of a URL with or without a host. -/
def pathRules (scheme : String) (hosted : Bool) : PathRules where
  file := scheme = "file"
  hosted := hosted
  set := Encode.pathSet

/-- Places the segments of a path without its first slash. -/
def pathSegments (scheme : String) (hosted : Bool) (cs : List Char) : Placed :=
  (pathRules scheme hosted).placeAll {} (Text.splitAll (isSlash (isSpecial scheme)) cs)

/-- The segments of the path after an authority. Only the path of a special URL is never empty. -/
def segmentsAfterAuthority (scheme : String) (hosted : Bool) (cs : List Char) : Placed :=
  let special := isSpecial scheme
  match cs.dropWhile UrlPath.isGap with
  | [] => { segments := if special then [""] else [] }
  | c :: rest => pathSegments scheme hosted (if isSlash special c then rest else cs)

/-- The position after the last `@` of an authority: the user part and the rest. -/
def splitUser (special : Bool) (cs : List Char) : Option (List Char × List Char) :=
  let (authority, rest) := cs.span (!endsAuthority special ·)
  match authority.reverse.span (· ≠ '@') with
  | (host, _ :: user) => some (user.reverse, host.reverse ++ rest)
  | _ => none

/-- The user name and the password of a user part; an empty password is none. -/
def userinfo (cs : List Char) : String × Option String :=
  let encode (part : List Char) := String.ofList (Encode.percent Encode.userinfoSet part)
  let (name, rest) := cs.span (· ≠ ':')
  match rest with
  | _ :: c :: more => (encode name, some (encode (c :: more)))
  | _ => (encode name, none)

/-- Splits the host off what follows it. Colons count only outside of brackets. -/
def splitHost (special bracketed : Bool) : List Char → List Char × List Char
  | [] => ([], [])
  | c :: rest =>
    if (c = ':' && !bracketed) || endsAuthority special c then ([], c :: rest)
    else
      let inside := if c = '[' then true else if c = ']' then false else bracketed
      let (host, more) := splitHost special inside rest
      (c :: host, more)

/-- Reads a port after its colon. -/
def readPort (scheme : String) (cs : List Char) : Except UrlError (Option Nat × List Char) :=
  let (digits, rest) := cs.span Text.isDigit
  let port := Nat.ofDigitChars 10 digits 0
  let ended := match rest with | [] => true | c :: _ => endsAuthority true c
  if 65535 < port ∨ !ended then .error .invalidPort
  else if digits.isEmpty ∨ some port = defaultPort? scheme then .ok (none, rest)
  else .ok (some port, rest)

/-- Reads what follows the two slashes of a URL that is no file path. -/
def parseAuthority (scheme : String) (cs : List Char) : Except UrlError Url := do
  let special := isSpecial scheme
  let (user, rest) := (splitUser special cs).getD ([], cs)
  let named := (splitUser special cs).isSome
  if named && user.isEmpty then
    match rest with
    | c :: _ => if endsAuthority special c then throw .emptyHost
    | [] => pure ()
  let (username, password) := userinfo user
  let (hostText, rest) := splitHost special false rest
  if special && hostText.isEmpty then throw .emptyHost
  let host ← if special then Host.ofDomain hostText else Host.ofName hostText
  let bare := host = .name ""
  if bare && rest.head? = some ':' then throw .emptyHost
  let (port, rest) ← match rest with
    | ':' :: more => readPort scheme more
    | _ => pure (none, rest)
  if bare && (username ≠ "" || password.isSome) then throw .emptyHost
  let (path, query, fragment) := splitTail rest
  let placed := segmentsAfterAuthority scheme true path
  return assemble scheme (some { username, password, host, port })
    ((pathRules scheme true).path placed) query fragment

/-- The URL of a file from its host and what comes after that. A drive letter takes the place of
the host. -/
def fileUrl (host : Host) (cs : List Char) : Url :=
  let (path, query, fragment) := splitTail cs
  let hosted := host ≠ .name ""
  let placed := segmentsAfterAuthority "file" hosted path
  let host := if placed.onDrive then .name "" else host
  assemble "file" (some { host }) ((pathRules "file" hosted).path placed) query fragment

/-- A text after its first slash, if it starts with one. -/
def afterSlash? (cs : List Char) : Option (List Char) :=
  match cs.dropWhile UrlPath.isGap with
  | c :: rest => if isSlash true c then some rest else none
  | [] => none

/-- Reads a file URL after its colon; gaps may be left in it. Without a host the authority is
empty. -/
def parseFile (cs : List Char) : Except UrlError Url := do
  match (afterSlash? cs).bind afterSlash? with
  | none => return fileUrl (.name "") cs
  | some rest =>
    let (host, more) := rest.span (!endsAuthority true ·)
    let host := UrlPath.withoutGaps host
    if host.isEmpty then return fileUrl (.name "") more
    else if UrlPath.isDrive (String.ofList host) then return fileUrl (.name "") rest
    else
      let parsed ← Host.ofDomain host
      return fileUrl (if parsed = .name "localhost" then .name "" else parsed) more

/-- Reads a URL. -/
def parse (s : String) : Except UrlError Url :=
  let cs := trim s.toList
  match splitScheme? (UrlPath.withoutGaps cs) with
  | none => .error .relativeWithoutBase
  | some (scheme, rest) =>
    if scheme = "file" then parseFile ((cs.dropWhile (· ≠ ':')).drop 1)
    else if isSpecial scheme then parseAuthority scheme (rest.dropWhile (isSlash true))
    else
      match rest with
      | '/' :: '/' :: rest => parseAuthority scheme rest
      | '/' :: rest =>
        let (path, query, fragment) := splitTail rest
        .ok (assemble scheme none ((pathRules scheme false).path (pathSegments scheme false path))
          query fragment)
      | _ =>
        let (path, query, fragment) := splitTail rest
        .ok (assemble scheme none
          (.plain (String.ofList (Encode.percent Encode.controls path))) query fragment)

end Conformance.Url
