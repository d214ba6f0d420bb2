import Conformance.Proxy.Command
import Conformance.Scenario.Fields
import Conformance.Workflow.Failure
import Conformance.Error

/-!
# Descriptions of errors and commands

## Main definitions

- `errorOf`, `rpcErrorOf`, `failureOf` — errors and failures by kind
- `commandOf` — commands to the proxy
-/

namespace Conformance.Scenario

/-- The version that a text denotes. -/
def versionOf (s : String) : Described Version :=
  match Version.parse? s with
  | some v => .ok v
  | none => .error ("version " ++ s)

/-- An error of a call: its code and its message. -/
def rpcErrorOf (v : Json) : Described RpcError := do
  match RpcCode.ofText? (← text v "code") with
  | some code => return ⟨code, ← text v "message"⟩
  | none => .error "RPC code"

/-- A failure of workflow code: its kind, and what belongs to it. -/
def failureOf (v : Json) : Described WorkflowFailure := do
  let message ← text v "message"
  match ← text v "kind" with
  | "activity" => return .activity (← text v "activity_type") message
  | "application" => return .application message
  | "nondeterminism" => return .nondeterminism message
  | k => .error ("failure kind " ++ k)

/-- The errors that carry nothing but one text. -/
def plainErrors : List (String × (String → Error)) :=
  [("Skipped", .skipped), ("Config", .config), ("FeatureNotFound", .featureNotFound),
    ("Assertion", .assertion), ("Workflow", .workflow), ("InvalidVersion", .invalidVersion),
    ("Io", .io), ("Internal", .internal)]

/-- An error: its kind, and what belongs to it. -/
def errorOf (v : Json) : Described Error := do
  match ← text v "kind" with
  | "ProxyUnavailable" => return .proxyUnavailable
  | "Connection" => return .connection (← text v "target") (← text v "reason")
  | "FeaturesFailed" => return .featuresFailed (← nat v "count")
  | "Rpc" => return .rpc (← rpcErrorOf v)
  | "Replay" =>
    let version ← (← optionalText v "version").mapM versionOf
    return .replay version (← text v "reason")
  | "ProxyCommandFailed" => return .proxyCommandFailed (← text v "command") (← nat v "status")
  | "InvalidFixture" => return .invalidFixture (← text v "path") (← text v "reason")
  | kind =>
    match plainErrors.find? fun e => e.1 = kind with
    | some (_, make) => return make (← text v "message")
    | none => .error ("error kind " ++ kind)

/-- A command: its name, or the parts of a restart. -/
def commandOf : Json → Described ProxyCommand
  | .str "reject" => .ok .reject
  | .str "accept" => .ok .accept
  | .str "freeze" => .ok .freeze
  | .str "thaw" => .ok .thaw
  | v => do
    let nanos := (← natOr v "secs" 0) * 1000000000 + (← natOr v "nanos" 0)
    return .restart ⟨nanos⟩ (flagOr v "forceful" false)

end Conformance.Scenario
