import Conformance.Features.Registry
import Conformance.Runner.Run
import Conformance.Scenario.Steps

/-!
# Described features

A feature is named by its directory in the registry, or described: its workflows and activities,
its settings, and the steps of its script.

## Main definitions

- `scriptOf` — the script of a list of steps, after the runs that have been started before
- `checkedScriptOf` — the script with the checks of a feature after it
- `featureOf` — reads a feature
-/

namespace Conformance.Scenario

/-- A step of the script of a feature. The script may say that it has checked itself. -/
inductive FeatureStep where
  | step (s : ScriptStep)
  | selfChecked

/-- The script of a list of steps after the given runs: its result, and the runs after it. The
first error ends it, but keeps the runs. The latest of all runs is returned, unless the script has
checked itself. -/
def scriptOf : List FeatureStep → List Run → Script (Except Error (Option Run) × List Run)
  | [], runs => return (.ok runs.getLast?, runs)
  | .selfChecked :: _, runs => return (.ok none, runs)
  | .step s :: rest, runs => do
    match ← Script.attempt (s runs) with
    | .error e => return (.error e, runs)
    | .ok (_, runs) => scriptOf rest runs

/-- The script of a list of steps after the given runs, and then the checks of the feature. -/
def checkedScriptOf (f : Feature) (steps : List FeatureStep) (runs : List Run) :
    Script (Except Error Unit × List Run) := do
  let (result, runs) ← scriptOf steps runs
  let checks := { f with execute := Script.ofExcept result }.script
  return (← Script.attempt checks, runs)

/-- Reads a step of the script of a feature. -/
def featureStepOf (v : Json) : Described FeatureStep := do
  match ← text v "do" with
  | "self_checked" => return .selfChecked
  | _ => return .step (← scriptStepOf v)

/-- Reads the steps of the script of a described feature, if it has any of its own. -/
def executeStepsOf (v : Json) : Described (Option (List FeatureStep)) :=
  optional v "execute" fun _ => do (← items v "execute").mapM featureStepOf

/-- Registers workflows and then fails, if there is an error. -/
def prepareWith (workflows : List Workflow) (error : Option Error) (w : Worker) :
    Except Error Worker := do
  let w ← w.registerAll workflows
  match error with
  | some e => throw e
  | none => return w

/-- Reads a described feature. -/
def describedFeature (v : Json) : Described Feature := do
  let target ← optionalText v "service_target"
  let ns ← optionalText v "client_namespace"
  let prepared ← (← itemsOr v "prepare_workflows").mapM workflowOf
  let options ← optional v "workflow_options" optionsOf
  let steps ← executeStepsOf v
  let feature : Feature :=
    { workflows := ← (← itemsOr v "workflows").mapM workflowOf
      activities := ← optional v "activities" activitiesOf
      skipReason := ← optionalText v "skip_reason"
      serviceTarget := fun t => target.getD t
      clientNamespace := fun n => ns.getD n
      workflowOptions := options.getD id
      workerUsesProxy := flagOr v "worker_uses_proxy" false
      initiatorUsesProxy := flagOr v "initiator_uses_proxy" true
      expectedResult := v.get? "expected_result"
      prepareWorker := prepareWith prepared (← optional v "prepare_error" errorOf) }
  return match steps with
    | some steps => { feature with execute := do Script.ofExcept (← scriptOf steps []).1 }
    | none => feature

/-- Reads a feature: the directory of a registered one, or a description. -/
def featureOf (v : Json) : Described PreparedFeature := do
  match v with
  | .str dir =>
    match Features.find? dir with
    | some prepared => return prepared
    | none => .error ("feature " ++ dir)
  | _ =>
    let feature ← describedFeature v
    return ⟨← textOr v "dir" "test/feature", fun _ => feature⟩

end Conformance.Scenario
