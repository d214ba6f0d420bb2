import Conformance.Error
import Conformance.Files.Path
import Conformance.Url.Read

/-!
# Where summaries go

A summary goes to a listener, named by a `tcp` URL with a port, or to a file, named by a `file`
URL.

## Main definitions

- `SummaryTarget` — a listener or a file
- `SummaryTarget.parse` — reads the URL
-/

namespace Conformance

/-- Where a summary goes. -/
inductive SummaryTarget where
  | tcp (address : String)
  | file (path : RawPath)
  deriving DecidableEq, Repr, Inhabited

namespace SummaryTarget

/-- The target of a URL. -/
def ofUrl (uri : String) (url : Url) : Except Error SummaryTarget :=
  if url.scheme = "tcp" then
    match url.hostText?, url.port? with
    | none, _ => .error (.config ("Summary URI '" ++ uri ++ "' has no host"))
    | some _, none => .error (.config ("Summary URI '" ++ uri ++ "' has no port"))
    | some host, some port => .ok (tcp (host ++ ":" ++ toString port))
  else if url.scheme = "file" then
    match url.filePath? with
    | some path => .ok (file path)
    | none => .error (.config ("Summary URI '" ++ uri ++ "' is not a file path"))
  else
    .error (.config ("Unsupported summary URI scheme '" ++ url.scheme ++ "', expected tcp or file"))

/-- Reads a target. -/
def parse (uri : String) : Except Error SummaryTarget :=
  match Url.parse uri with
  | .error e => .error (.config ("Invalid summary URI '" ++ uri ++ "': " ++ e.message))
  | .ok url => ofUrl uri url

end SummaryTarget

end Conformance
