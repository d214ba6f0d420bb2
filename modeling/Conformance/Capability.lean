import Conformance.Error

/-!
# Optional RPCs

Whether a server supports an optional call is found out by making the call for a workflow that
does not exist and looking at the error.

## Main definitions

- `OptionalRpc` — a call that a server may lack
- `Capability.classify` — what the answer to a probe says
- `Capability.require` — turns missing support into a skip
-/

namespace Conformance

/-- A call that a server may lack, with the setting that enables it and the oldest version that
knows it. -/
structure OptionalRpc where
  name : String
  flag : String
  minimum : String
  deriving DecidableEq, Repr

namespace OptionalRpc

/-- Updates that are waited for. -/
def update : OptionalRpc :=
  ⟨"update", "frontend.enableUpdateWorkflowExecution", "update"⟩

/-- Updates that return once they are accepted. -/
def asyncAcceptedUpdate : OptionalRpc :=
  ⟨"async accepted update", "frontend.enableUpdateWorkflowExecutionAsyncAccepted", "update"⟩

/-- The workflow that a probe addresses. -/
def probeWorkflow : String := "fake"

/-- The update that a probe asks for. -/
def probeUpdate : String := "also_fake"

end OptionalRpc

/-- Whether an optional call can be used. -/
inductive Capability where
  | supported
  | notSupported (reason : String)
  deriving DecidableEq, Repr

namespace Capability

/-- Only a server that knows the call can answer that the workflow does not exist. -/
def classify {α : Type} (rpc : OptionalRpc) : Except RpcError α → Capability
  | .ok _ => notSupported "unknown"
  | .error e =>
    match e.code with
    | .notFound => supported
    | .permissionDenied => notSupported ("server support for " ++ rpc.name ++
        " is disabled; set " ++ rpc.flag ++ "=true in dynamic config to enable")
    | .unimplemented => notSupported ("server version too old to support " ++ rpc.minimum)
    | _ => notSupported "unknown"

/-- Whether the call can be used. -/
def isSupported : Capability → Bool
  | supported => true
  | notSupported _ => false

/-- The reason why the call cannot be used. -/
def reason? : Capability → Option String
  | supported => none
  | notSupported reason => some reason

/-- Skips the feature if the call cannot be used. -/
def require : Capability → Except Error Unit
  | supported => .ok ()
  | notSupported reason => .error (.skipped reason)

end Capability

end Conformance
