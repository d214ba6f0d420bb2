import Conformance.Feature.Basic
import Conformance.Scenario.Bracket
import Conformance.Scenario.Code

/-!
# Described steps of a script

A step performs something through the runner and has a value. The runs that steps have started are
numbered; a step works on the latest one unless it says otherwise.

## Main definitions

- `ScriptStep` — what a step does
- `scriptStepOf` — reads a step
-/

namespace Conformance.Scenario

/-- What a step does, given the runs so far: its value, and the runs after it. -/
abbrev ScriptStep := List Run → Script (Json × List Run)

namespace ScriptStep

/-- A step that starts a run. -/
def starting (script : Script Run) : ScriptStep := fun runs => do
  let run ← script
  return (run.execution.encode, runs ++ [run])

/-- A step with a value. -/
def giving (script : Script Json) : ScriptStep := fun runs => do
  return (← script, runs)

/-- A step without a value. -/
def doing (script : Script Unit) : ScriptStep := giving do
  script
  return .null

/-- A step that shows something of the runner. -/
def showing (f : RunnerView → Json) : ScriptStep := giving do
  return f (← Script.perform .view)

/-- A step that sends a command. -/
def sending (c : ProxyCommand) : ScriptStep := doing (Script.perform (.send c))

/-- The run of a number, the latest one without a number. -/
def pick (index : Option Nat) (runs : List Run) : Script Run :=
  match (match index with | some i => runs[i]? | none => runs.getLast?) with
  | some run => return run
  | none => Script.fail (.internal "there is no such run")

/-- A step that works on a run. -/
def onRun (v : Json) (f : Run → Script Json) : Described ScriptStep := do
  let index ← optionalNat v "run"
  return fun runs => do return (← f (← pick index runs), runs)

end ScriptStep

open ScriptStep

/-! ## Runs -/

/-- Which values can be read as values of a type. -/
def readable? : (type : String) → Option (Json → Bool)
  | "i64" => some fun v => v.signed64?.isSome
  | "u8" => some fun v => match v with
    | .int n => 0 ≤ n && n ≤ 255
    | _ => false
  | "string" => some ValueKind.string.holds
  | "bool" => some ValueKind.bool.holds
  | "strings" => some fun v => match v with
    | .arr xs => xs.all ValueKind.string.holds
    | _ => false
  | "unit" => some ValueKind.null.holds
  | "optional_i64" => some fun v => v.signed64?.isSome || ValueKind.null.holds v
  | _ => none

/-- Reads a step that reads the result of a run as a value of a type. -/
def resultAsOf (v : Json) : Described ScriptStep := do
  let type ← text v "as"
  match readable? type with
  | some holds => onRun v (Script.waitForRunResultAs fun r => if holds r then some r else none)
  | none => .error ("type " ++ type)

/-- A history, or the error of one that cannot be read. -/
def historyOf (v : Json) : Except Error History :=
  match History.ofJson? v with
  | some h => .ok h
  | none => .error (.json "unexpected form")

/-- Reads an update of a workflow, which is that of a run unless it is named. -/
def updateOf (v : Json) (call : (workflowId name : String) → Script Report) :
    Described ScriptStep := do
  let name ← text v "name"
  match ← optionalText v "workflow_id" with
  | some id => return giving do return (← call id name).json
  | none => onRun v fun run => do return (← call run.execution.workflowId name).json

/-! ## Checks -/

/-- Reads the answer of a check: a truth value or an error. -/
def checkOf : Json → Described (Script Bool)
  | .bool b => .ok (return b)
  | v => (errorOf v).map Script.fail

/-- Reads a check that is retried. Checks without an answer do not hold. -/
def retryOf (v : Json) : Described ScriptStep := do
  let checks ← (← itemsOr v "results").mapM checkOf
  let retries ← natOr v "retries" 0
  let pause ← millis v "sleep_ms"
  return giving do
    let (calls, result) ← Script.retry (fun i => (checks[i]?).getD (return false)) retries pause
    return .obj [("calls", .int calls), ("result", (Report.ofUnit result).json)]

/-! ## Views -/

/-- The options with which workflows are started. -/
def optionsShown (v : RunnerView) : Json :=
  .obj [("workflow_id", Report.ofText? v.options.workflowId),
    ("task_queue", .str v.options.taskQueue),
    ("execution_timeout_ms", Report.ofDuration? v.options.executionTimeout),
    ("run_timeout_ms", Report.ofDuration? v.options.runTimeout),
    ("task_timeout_ms", Report.ofDuration? v.options.taskTimeout)]

/-- The clients and the SDK. -/
def clientsShown (v : RunnerView) : Json :=
  let client (c : ClientView) : Json := Report.ofPair (.str c.ns) (.str c.target)
  .obj [("worker", client v.workerClient), ("initiator", client v.initiatorClient),
    ("service", .str v.initiatorService),
    ("sdk", Report.ofPair (.str v.sdkName) (.str v.sdkVersion.text))]

/-- The task queue of the worker, and whether it has a factory. -/
def workerShown : Script Json := do
  Script.perform (.consultWorker fun _ => .ok ())
  let queue := (← Script.perform .view).workerQueue
  return Report.ofPair (Report.ofText? queue) (.bool queue.isSome)

/-! ## Reading steps -/

/-- How brackets in scripts reach the proxy. -/
def scriptTools : BracketTools Script where
  channel := Script.proxy
  setStatus status := Script.perform (.setStatus status)
  requests := Script.perform .requests
  sleep d := Script.perform (.sleep d)
  settle := Script.perform .settle

/-- Reads a step that starts workflows or asks about runs. -/
def runStepOf? (v : Json) : Described (Option ScriptStep) := do
  match ← text v "do" with
  | "start" => return starting Script.executeSingleParameterlessWorkflow
  | "start_with" =>
    let options := (← optional v "options" optionsOf).map fun adjust => adjust {}
    return starting (Script.executeSingleWorkflow options (← itemsOr v "args"))
  | "execute" =>
    let method : WorkflowMethod := ⟨← text v "type", ← kindOr v "returns", 0⟩
    let args ← itemsOr v "args"
    return starting do return ⟨method, ← Script.executeWorkflow method.name args⟩
  | "run_of" =>
    let method : WorkflowMethod := ⟨← textOr v "type" "T", ← kindOr v "returns", 0⟩
    let run : Run := ⟨method, ⟨← text v "workflow_id", ← text v "run_id"⟩⟩
    return starting (return run)
  | "result" => onRun v Script.waitForRunResult
  | "result_as" => resultAsOf v
  | "history" => onRun v fun run => do
      return (← Script.perform (.history run.execution)).encode
  | "result_payload" => onRun v Script.resultPayload
  | "argument_payload" => onRun v Script.argumentPayload
  | "info" => onRun v fun run => do return (← Script.perform (.describe run.execution)).encode
  | "no_rejected" => onRun v fun run => do
      Script.requireNoUpdateRejected run
      return .null
  | "check_histories" => onRun v fun run => do
      Script.checkHistories run
      return .null
  | "update" => updateOf v fun id name => do
      return Report.ofRpc (← Script.perform (.update id name))
  | "start_update" => updateOf v fun id name => do
      return Report.ofRpc ((← Script.perform (.startUpdate id name)).map .str)
  | _ => return none

/-- Reads a step that deals with the proxy. -/
def proxyStepOf? (v : Json) : Described (Option ScriptStep) := do
  match ← text v "do" with
  | "status" =>
    let status ← nat v "status"
    return doing (Script.perform (.setStatus status))
  | "commands" => return giving do return Report.ofPaths (← Script.perform .requests)
  | "proxy_available" => return showing fun view => .bool view.hasProxy
  | "reject" => return sending .reject
  | "accept" => return sending .accept
  | "freeze" => return sending .freeze
  | "thaw" => return sending .thaw
  | "restart" => return sending (.restart (← millis v "sleep_ms") (flagOr v "forceful" false))
  | "while_rejected" =>
    let d ← millis v "sleep_ms"
    return starting (Script.proxyRejectAndAccept d Script.executeSingleParameterlessWorkflow)
  | "while_frozen" =>
    let d ← millis v "sleep_ms"
    return starting (Script.proxyFreezeAndThaw d Script.executeSingleParameterlessWorkflow)
  | "bracket" => return giving (← bracketOf scriptTools v)
  | _ => return none

/-- Reads a step that deals with the worker, with stored histories, or with the run as a whole. -/
def otherStepOf (v : Json) : Described ScriptStep := do
  match ← text v "do" with
  | "past" => return giving do
      return Report.ofPast (fun version => .str version.text) (← Script.perform .loadPast)
  | "fixture_dir" => return showing fun view => .str view.fixtures.dir
  | "options" => return showing optionsShown
  | "clients" => return showing clientsShown
  | "starts" => return showing fun view => .int view.starts
  | "worker" => return giving workerShown
  | "shutdown_worker" => return doing (Script.perform .shutdownWorker)
  | "restart_worker" => return doing (Script.perform .restartWorker)
  | "register" =>
    let f ← workflowOf (field v "workflow")
    return doing (Script.perform (.registerWorkflow f))
  | "replay" =>
    let read := historyOf (field v "history")
    return doing do
      let h ← Script.ofExcept read
      Script.perform (.consultWorker fun w => w.replay h)
  | "skip_if_update" => return doing Script.skipIfUpdateNotSupported
  | "skip_if_async_update" => return doing Script.skipIfAsyncUpdateNotSupported
  | "skip" => return doing (Script.fail (.skipped (← text v "message")))
  | "fail" => return doing (Script.fail (← errorOf (field v "error")))
  | "retry" => retryOf v
  | "close_service" => return doing (Script.perform .closeService)
  | "open" => return doing (Script.perform (.openLatch (latchOf (← text v "name"))))
  | "settle" => return doing (Script.perform .settle)
  | "sleep" => return doing (Script.perform (.sleep (← millis v "ms")))
  | s => .error ("step " ++ s)

/-- Reads a step. -/
def scriptStepOf (v : Json) : Described ScriptStep := do
  match ← runStepOf? v with
  | some step => return step
  | none =>
    match ← proxyStepOf? v with
    | some step => return step
    | none => otherStepOf v

end Conformance.Scenario
