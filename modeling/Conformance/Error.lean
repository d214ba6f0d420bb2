import Conformance.Rpc
import Conformance.Version

/-!
# Errors of a feature run

An error is a skip (the environment cannot run the feature), a failure (the feature ran and
something was wrong) or a setup error (nothing could run). All of them travel in the same way;
they are told apart when a run is turned into an outcome.

## Main definitions

- `Error` — the causes
- `Error.message` — the wording of each
- `Error.isSkip` — whether an error only means that the feature cannot run here
-/

namespace Conformance

/-- Why a run ended early. -/
inductive Error where
  | skipped (reason : String)
  | proxyUnavailable
  | connection (target reason : String)
  | config (message : String)
  | featureNotFound (dir : String)
  | featuresFailed (count : Nat)
  | assertion (message : String)
  | workflow (message : String)
  | rpc (error : RpcError)
  | replay (version : Option Version) (reason : String)
  | proxyCommandFailed (command : String) (status : Nat)
  | http (reason : String)
  | invalidVersion (text : String)
  | invalidFixture (path reason : String)
  | io (message : String)
  | json (reason : String)
  | internal (message : String)
  deriving DecidableEq, Repr, Inhabited

namespace Error

/-- The wording of an error. -/
def message : Error → String
  | skipped reason => reason
  | proxyUnavailable => "temporal-features-test-proxy is required for this test"
  | connection target reason => "Failed to connect to " ++ target ++ ": " ++ reason
  | config m => "Configuration error: " ++ m
  | featureNotFound dir =>
    "feature " ++ dir ++ " not found, make sure it is added to the feature registry"
  | featuresFailed count => toString count ++ " feature(s) failed"
  | assertion m => "Assertion failed: " ++ m
  | workflow m => "Workflow failed: " ++ m
  | rpc e => "RPC failed: " ++ e.text
  | replay (some v) reason => "history for version " ++ v.text ++ " failed: " ++ reason
  | replay none reason => "current history failed to replay: " ++ reason
  | proxyCommandFailed command status =>
    "proxy command " ++ command ++ " failed with HTTP code " ++ toString status
  | http reason => "HTTP error: " ++ reason
  | invalidVersion text => "Invalid version '" ++ text ++ "'"
  | invalidFixture path reason => "file " ++ path ++ " " ++ reason
  | io m => "IO error: " ++ m
  | json reason => "JSON error: " ++ reason
  | internal m => "Internal error: " ++ m

/-- Whether an error only means that the feature cannot run here. -/
def isSkip : Error → Bool
  | skipped _ => true
  | proxyUnavailable => true
  | _ => false

end Error

/-- Reads a version, naming the text if it is none. -/
def Version.parse (s : String) : Except Error Version :=
  match parse? s with
  | some v => .ok v
  | none => .error (.invalidVersion s)

end Conformance
