import Conformance.Feature.Basic

/-!
# A server that is out of reach for the initiator

The proxy rejects connections while the workflow is started.
-/

namespace Conformance.Features.ServerUnavailable

/-- The directory of the feature. -/
def dir : String := "grpc_retry/server_unavailable_for_initiator"

/-- How long connections are rejected. -/
def rejectFor : Duration := Duration.ofSeconds 2

/-- Returns nothing. -/
def workflow : Workflow where
  method := { name := "ServerUnavailableForInitiator", returns := .null }
  code _ _ := .done (.ok .null)

/-- Starts the workflow while connections are rejected. -/
def script : Script (Option Run) := do
  let run ← Script.proxyRejectAndAccept rejectFor Script.executeSingleParameterlessWorkflow
  return some run

/-- The feature. -/
def feature (_scope : Nat) : Feature where
  workflows := [workflow]
  execute := script

end Conformance.Features.ServerUnavailable
