import Conformance.Config
import Conformance.Scenario.Causes
import Conformance.World

/-!
# Described environments

The SDK and the server of a scenario: who they are and what goes wrong.

## Main definitions

- `environmentOf` — reads the SDK and the server
- `configOf` — reads the settings of a run
-/

namespace Conformance.Scenario

/-- Reads a fault of the SDK. -/
def faultOf (v : Json) : Described Fault := do
  match SdkPoint.ofText? (← text v "point") with
  | some point =>
    return { point, nth := ← natOr v "nth" 1, error := ← optional v "error" errorOf }
  | none => .error "point"

/-- Reads a scripted answer to an update; `null` is none. -/
def updateAnswerOf (v : Json) : Described (Option (Except RpcError Json)) :=
  match v, v.get? "ok" with
  | .null, _ => .ok none
  | _, some value => .ok (some (.ok value))
  | _, none => (rpcErrorOf v).map fun e => some (.error e)

/-- Reads how a server answers updates. -/
def supportOf (v : Json) : Described UpdateSupport := do
  match ← textOr v "update_support" "enabled" with
  | "enabled" => return .enabled
  | "disabled" => return .disabled
  | "unimplemented" => return .unimplemented
  | s => .error ("update support " ++ s)

/-- Reads the SDK and the server, and puts them into a world with files. -/
def environmentOf (v : Json) (files : FileTree) : Described World := do
  let server : Server :=
    { updateSupport := ← supportOf v
      refused := ← textsOr v "refuse"
      failingShutdown := ← textsOr v "fail_shutdown" }
  let usual : Sdk := {}
  let sdk : Sdk :=
    { name := ← textOr v "name" usual.name
      version := (← optional v "version" (asText · >>= versionOf)).getD usual.version
      faults := ← (← itemsOr v "faults").mapM faultOf
      updates := ← (← itemsOr v "updates").mapM updateAnswerOf }
  return { server, sdk, files }

/-- Reads a control endpoint. -/
def controlOf (uri : String) : Described Url :=
  match Url.parse uri with
  | .ok u => .ok u
  | .error e => .error e.message

/-- Reads the settings of a run. The control endpoint may be given from outside. -/
def configOf (v : Json) (fixturesDir : String) (control : Option String) : Described Config := do
  return {
    server := ← textOr v "server" "loopback"
    directServer := ← optionalText v "direct_server"
    ns := ← textOr v "namespace" "default"
    taskQueue := ← textOr v "task_queue" "q"
    proxyControl := ← (control <|> (← optionalText v "proxy_control")).mapM controlOf
    fixturesDir
    generateHistory := flagOr v "generate_history" false }

end Conformance.Scenario
