import Conformance.Feature.Basic

/-!
# A worker restart during an activity

The worker is stopped while its activity is under way and another worker takes its place. Only
then is the activity allowed to end.
-/

namespace Conformance.Features.WorkerRestart

/-- The directory of the feature. -/
def dir : String := "activity/worker_restart"

/-- How long nothing polls between the two workers. -/
def pause : Duration := Duration.ofMillis 200

/-- How long the activity may take to start. -/
def startLimit : Duration := Duration.ofSeconds 10

/-- The latch that the activity opens when it starts. -/
def started (scope : Nat) : SignalId := ⟨scope, "activity started"⟩

/-- The latch that the activity waits for. -/
def restarted (scope : Nat) : SignalId := ⟨scope, "worker restarted"⟩

/-- Returns what the activity returns. -/
def workflow : Workflow where
  method := { name := "ActivityWorkerRestart", returns := .number }
  code _ _ := .callActivity "block" [] .done

/-- The one activity tells that it has started and ends after the restart. -/
def activities (scope : Nat) : Activities where
  types := ["block"]
  invoke _ _ _ := .openLatch (started scope) (.awaitLatch (restarted scope) (.done (.ok (.int 1))))

/-- Starts the workflow, and restarts the worker once the activity is under way. -/
def script (scope : Nat) : Script (Option Run) := do
  let run ← Script.executeSingleParameterlessWorkflow
  if ← Script.perform (.awaitLatch (started scope) startLimit) then
    Script.perform .shutdownWorker
    Script.perform (.sleep pause)
    Script.perform .restartWorker
    Script.perform (.openLatch (restarted scope))
    return some run
  else Script.fail (.assertion "activity did not start")

/-- The feature. -/
def feature (scope : Nat) : Feature where
  workflows := [workflow]
  activities := some (activities scope)
  expectedResult := some (.int 1)
  execute := script scope

end Conformance.Features.WorkerRestart
