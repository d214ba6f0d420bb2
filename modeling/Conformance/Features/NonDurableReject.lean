import Conformance.Feature.Basic

/-!
# Rejected updates leave no trace

Updates without a handler are rejected while the workflow runs, and the history shows none of
them. The workflow ends with the number of rejections.
-/

namespace Conformance.Features.NonDurableReject

/-- The directory of the feature. -/
def dir : String := "update/non_durable_reject"

/-- How many updates are sent. -/
def count : Nat := 5

/-- How long the activity may take to start. -/
def startLimit : Duration := Duration.ofSeconds 10

/-- The latch that the activity opens when it starts. -/
def started (scope : Nat) : SignalId := ⟨scope, "started"⟩

/-- The latch that the activity waits for. -/
def finish (scope : Nat) : SignalId := ⟨scope, "finish"⟩

/-- The number of rejected updates. -/
def rejected (scope : Nat) : SignalId := ⟨scope, "rejected"⟩

/-- Returns what the activity returns. -/
def workflow : Workflow where
  method := { name := "NonDurableReject", returns := .number }
  code _ _ := .callActivity "wait_for_finish" [] .done

/-- The one activity waits for the end and returns the number of rejections. -/
def activities (scope : Nat) : Activities where
  types := ["wait_for_finish"]
  invoke _ _ _ :=
    .openLatch (started scope) (.awaitLatch (finish scope)
      (.readCounter (rejected scope) fun n => .done (.ok (.int n))))

/-- Judges the answer to the update of a number: only an invalid argument is a rejection. -/
def requireRejected (i : Nat) : Except RpcError Json → Except Error Unit
  | .ok result =>
    .error (.assertion ("update " ++ toString i ++ " was accepted with result " ++ result.compact))
  | .error e =>
    if e.code = .invalidArgument then .ok ()
    else
      .error (.assertion ("update " ++ toString i ++ " failed instead of being rejected: " ++ e.text))

/-- Sends updates, from a number on, as long as they are rejected. -/
def sendUpdates (scope : Nat) (workflowId : String) (i : Nat) : (left : Nat) → Script Unit
  | 0 => return ()
  | left + 1 => do
    let answer ← Script.perform (.update workflowId "update")
    Script.ofExcept (requireRejected i answer)
    Script.perform (.increment (rejected scope))
    sendUpdates scope workflowId (i + 1) left

/-- Sends all updates while the workflow runs, and lets it end. -/
def script (scope : Nat) : Script (Option Run) := do
  Script.skipIfUpdateNotSupported
  let run ← Script.executeSingleParameterlessWorkflow
  if ← Script.perform (.awaitLatch (started scope) startLimit) then
    sendUpdates scope run.execution.workflowId 0 count
    Script.perform (.openLatch (finish scope))
    return some run
  else Script.fail (.assertion "workflow did not start its activity")

/-- The feature. -/
def feature (scope : Nat) : Feature where
  workflows := [workflow]
  activities := some (activities scope)
  expectedResult := some (.int count)
  execute := script scope
  checkHistory run := do
    Script.requireNoUpdateRejected run
    Script.checkHistories run

end Conformance.Features.NonDurableReject
