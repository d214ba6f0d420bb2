import Conformance.Scenario.Causes
import Conformance.Server.Basic

/-!
# Described workflows and activities

A workflow is described by a list of steps, activities by what each type does. The latches in
descriptions are shared by everything in a scenario.

## Main definitions

- `WorkflowStep` — a step of workflow code
- `WorkflowStep.code` — the code of a list of steps
- `workflowOf`, `activitiesOf`, `optionsOf` — read descriptions
-/

namespace Conformance.Scenario

/-- The latch that a description names. -/
def latchOf (name : String) : SignalId := ⟨0, name⟩

/-! ## Workflows -/

/-- A step of workflow code. An activity without arguments gets those of the workflow; one that
catches turns a failure into its text. -/
inductive WorkflowStep where
  | activity (activityType : String) (args : Option (List Json)) (catches : Bool)
  | giveValue (v : Json)
  | giveLast
  | giveAll
  | giveArguments
  | giveReplaying
  | fail (failure : WorkflowFailure)
  | latch (name : String)
  | sleep (ms : Nat)

/-- The code of a list of steps, after activities with the given results. While a history is
replayed nothing is waited for. -/
def WorkflowStep.code (replaying : Bool) (input : List Json) :
    List WorkflowStep → (results : List Json) → Code
  | [], _ => .done (.ok .null)
  | activity t args catches :: rest, results =>
    .callActivity t (args.getD input) fun
      | .ok v => code replaying input rest (results ++ [v])
      | .error f =>
        if catches then code replaying input rest (results ++ [.str f.text]) else .done (.error f)
  | giveValue v :: _, _ => .done (.ok v)
  | giveLast :: _, results => .done (.ok (results.getLast?.getD .null))
  | giveAll :: _, results => .done (.ok (.arr results))
  | giveArguments :: _, _ => .done (.ok (.arr input))
  | giveReplaying :: _, _ => .done (.ok (.bool replaying))
  | fail f :: _, _ => .done (.error f)
  | latch name :: rest, results =>
    let next := code replaying input rest results
    if replaying then next else .awaitLatch (latchOf name) next
  | sleep ms :: rest, results =>
    let next := code replaying input rest results
    if replaying then next else .sleep ms next

/-- Reads a step. -/
def workflowStepOf (v : Json) : Described WorkflowStep := do
  match ← text v "do" with
  | "activity" =>
    let args ← itemsOr v "args"
    return .activity (← text v "type") (if flagOr v "pass_args" false then none else some args)
      (flagOr v "catch" false)
  | "return" => return .giveValue (field v "value")
  | "return_last" => return .giveLast
  | "return_all" => return .giveAll
  | "return_args" => return .giveArguments
  | "return_replaying" => return .giveReplaying
  | "fail" => return .fail (← failureOf (field v "failure"))
  | "latch" => return .latch (← text v "name")
  | "sleep" => return .sleep (← nat v "ms")
  | s => .error ("step " ++ s)

/-- The kind of value in a field, any kind if it is absent. -/
def kindOr (v : Json) (key : String) : Described ValueKind := do
  match ValueKind.ofText? (← textOr v key "any") with
  | some k => return k
  | none => .error "value kind"

/-- Reads a workflow. It may have other steps for the replay of histories. -/
def workflowOf (v : Json) : Described Workflow := do
  let steps ← (← itemsOr v "steps").mapM workflowStepOf
  let replaySteps ← optional v "replay_steps" fun _ => do
    (← items v "replay_steps").mapM workflowStepOf
  return {
    method := ⟨← text v "name", ← kindOr v "returns", ← natOr v "arity" 0⟩
    code := fun replaying input =>
      WorkflowStep.code replaying input (if replaying then replaySteps.getD steps else steps) [] }

/-! ## Activities -/

/-- What an activity does: it waits for a latch, sleeps, and ends. -/
structure ActivityPlan where
  latch : Option String := none
  sleepMillis : Option Nat := none
  failure : Option WorkflowFailure := none
  echoes : Bool := false
  counts : Bool := false
  value : Json := .null

/-- What an activity ends with: a failure, its arguments, the number of the invocation, or a
value. -/
def ActivityPlan.ending (p : ActivityPlan) (args : List Json) (ordinal : Nat) : Ending :=
  match p.failure with
  | some f => .error f
  | none =>
    if p.echoes then .ok (.arr args) else if p.counts then .ok (.int ordinal) else .ok p.value

/-- The code of one invocation. -/
def ActivityPlan.code (p : ActivityPlan) (args : List Json) (ordinal : Nat) : ActivityCode :=
  let last : ActivityCode := .done (p.ending args ordinal)
  let slow := match p.sleepMillis with
    | some ms => .sleep ms last
    | none => last
  match p.latch with
  | some name => .awaitLatch (latchOf name) slow
  | none => slow

/-- Reads what an activity does. -/
def planOf (v : Json) : Described ActivityPlan := do
  return {
    latch := ← optionalText v "latch"
    sleepMillis := ← optionalNat v "sleep_ms"
    failure := ← optional v "fail" failureOf
    echoes := flagOr v "echo" false
    counts := flagOr v "count" false
    value := field v "return" }

/-- Reads activities. The declared types are those that are described, unless they are listed;
a declared type without description gives `null`. -/
def activitiesOf (v : Json) : Described Activities := do
  let described := match field v "types" with
    | .obj fields => fields
    | _ => []
  let plans ← described.mapM fun d => do return (d.1, ← planOf d.2)
  let declared ← optional v "declared" fun _ => textsOr v "declared"
  return {
    types := declared.getD (described.map (·.1))
    invoke := fun activityType args ordinal =>
      match plans.find? fun p => p.1 = activityType with
      | some (_, plan) => plan.code args ordinal
      | none => ({} : ActivityPlan).code args ordinal }

/-! ## Options -/

/-- Reads options that replace those that are given. An option may be cleared by `null`. -/
def optionsOf (v : Json) : Described (WorkflowOptions → WorkflowOptions) := do
  let queue ← optionalText v "task_queue"
  let workflowId ← optionalText v "workflow_id"
  let timeout := (← optionalNat v "execution_timeout_ms").map Duration.ofMillis
  return fun o =>
    { o with
      taskQueue := queue.getD o.taskQueue
      workflowId := if (v.get? "workflow_id").isSome then workflowId else o.workflowId
      executionTimeout :=
        if (v.get? "execution_timeout_ms").isSome then timeout else o.executionTimeout }

end Conformance.Scenario
