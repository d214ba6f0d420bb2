import Conformance.Feature.Script

/-!
# Features

A feature is a scenario: workflows, activities, settings of its own, and a script. Everything
but the workflows has a default.

## Main definitions

- `Feature` — the hooks of a feature
- `PreparedFeature` — a feature in the registry, which makes an instance for every run
-/

namespace Conformance

/-- Waits for the result of a run and compares it with the expected one, if there is one. -/
def Script.checkResult (expected : Option Json) (run : Run) : Script Unit := do
  let result ← waitForRunResult run
  match expected with
  | none => return ()
  | some v =>
    if result.same v then return ()
    else fail (.assertion ("expected result " ++ v.compact ++ ", got " ++ result.compact))

/-- An instance of a feature. -/
structure Feature where
  workflows : List Workflow
  activities : Option Activities := none
  skipReason : Option String := none
  serviceTarget : String → String := id
  clientNamespace : String → String := id
  workflowOptions : WorkflowOptions → WorkflowOptions := id
  workerUsesProxy : Bool := false
  initiatorUsesProxy : Bool := true
  expectedResult : Option Json := none
  prepareWorker : Worker → Except Error Worker := .ok
  execute : Script (Option Run) :=
    Script.bind Script.executeSingleParameterlessWorkflow fun run => pure (some run)
  checkResult : Run → Script Unit := Script.checkResult expectedResult
  checkHistory : Run → Script Unit := Script.checkHistories

namespace Feature

/-- Registers on a new worker what the feature needs. -/
def prepare (f : Feature) (w : Worker) : Except Error Worker := do
  let w ← f.prepareWorker w
  let w ← w.registerAll f.workflows
  return match f.activities with
    | some a => w.setActivities a
    | none => w

end Feature

/-- A feature in the registry. An instance has a scope of its own for its latches and
counters. -/
structure PreparedFeature where
  dir : String
  instanceAt : (scope : Nat) → Feature

/-- The workflow methods of a feature. -/
def PreparedFeature.methods (p : PreparedFeature) : List WorkflowMethod :=
  (p.instanceAt 0).workflows.map (·.method)

end Conformance
