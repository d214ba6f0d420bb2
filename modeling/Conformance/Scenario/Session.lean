import Conformance.Calls
import Conformance.Runner.Run
import Conformance.Scenario.Feature

/-!
# Sessions

A session is a list of steps that are performed one after another. After each step everything in
the background that can go on does so, and a step that took time says how much.

## Main definitions

- `performAll` — performs a list of steps
- `sdkStepOf` — steps that call the SDK directly
- `managerStepOf` — steps on the current worker of a run
- `runnerStepOf` — steps on a runner
-/

namespace Conformance.Scenario

/-- What a step of a session does with the state of the session. -/
abbrev SessionStep (σ : Type) := σ → Program (Report × σ)

/-- The report of a step with the time that it took. -/
def timedReport (before after : World) (r : Report) : Report :=
  if before.clock < after.clock then
    r ++ [("waited_ms", .int ((after.clock : Int) - before.clock))]
  else r

/-- Performs steps one after another: their reports, the state, and the world. -/
def performAll {σ : Type} (timed : Bool) : List (SessionStep σ) → σ → World → List Json × σ × World
  | [], s, w => ([], s, w)
  | step :: rest, s, w =>
    let ((report, s), after) := (step s).run w
    let report := if timed then timedReport w after report else report
    let (reports, s, w) := performAll timed rest s after.settle
    (report.json :: reports, s, w)

/-! ## Calls of the SDK -/

/-- What a session has made so far. Steps refer to it by number. -/
structure Made where
  services : List ConnectionId := []
  clients : List Client := []
  factories : List FactoryId := []
  workers : List WorkerId := []
  executions : List Execution := []

namespace Made

variable {α : Type}

/-- A step that needs something made before. -/
def needing (all : Made → List α) (i : Nat) (step : α → SessionStep Made) : SessionStep Made :=
  fun s =>
    match (all s)[i]? with
    | some x => step x s
    | none => return (Report.ofResult (.error (.internal "nothing has this number")), s)

/-- A step that makes something, and answers with its number. -/
def making (all : Made → List α) (call : World → Except Error α × World) (add : Made → α → Made) :
    SessionStep Made := fun s => do
  match ← Program.lift call with
  | .ok x => return (Report.ofValue (.int (all s).length), add s x)
  | .error e => return (Report.ofResult (.error e), s)

/-- A step that makes a call and shows its answer. -/
def calling (call : World → Except Error α × World) (answer : α → Json) : SessionStep Made :=
  fun s => do return (Report.ofResult ((← Program.lift call).map answer), s)

/-- A step that makes a call without an answer. -/
def doing (call : World → Except Error Unit × World) : SessionStep Made :=
  calling call fun _ => .null

/-- A step that shows something of the world. -/
def showing (view : World → Json) : SessionStep Made := calling (fun w => (.ok (view w), w)) id

/-- Reads a step on an execution, given by number or by its ids. -/
def onExecution (v : Json) (step : Execution → SessionStep Made) : Described (SessionStep Made) := do
  match ← optionalNat v "exec" with
  | some i => return needing executions i step
  | none => return step ⟨← textOr v "workflow_id" "", ← textOr v "run_id" ""⟩

end Made

open Made

/-- Fetches a history and replays it. -/
def replayLive (service : ConnectionId) (worker : WorkerId) (e : Execution) (w : World) :
    Except Error Unit × World :=
  match World.fetchHistory service "" e w with
  | (.ok h, w) => (w.withWorker worker fun f => f.replay h, w)
  | (.error e, w) => (.error e, w)

/-- Reads a step that makes something. -/
def makingStepOf? (v : Json) : Described (Option (SessionStep Made)) := do
  match ← text v "do" with
  | "connect" =>
    return making services (World.connect (← text v "target"))
      fun s x => { s with services := s.services ++ [x] }
  | "client" =>
    let ns ← textOr v "namespace" ""
    return needing services (← natOr v "service" 0) fun id =>
      making clients (World.newClient id ns) fun s x => { s with clients := s.clients ++ [x] }
  | "factory" =>
    return needing clients (← natOr v "client" 0) fun c =>
      making factories (World.newFactory c) fun s x => { s with factories := s.factories ++ [x] }
  | "worker" =>
    let queue ← text v "queue"
    return needing factories (← natOr v "factory" 0) fun f =>
      making workers (World.newWorker f queue) fun s x => { s with workers := s.workers ++ [x] }
  | "start_workflow" =>
    let type ← text v "type"
    let options := ((← optional v "options" optionsOf).getD id) {}
    let args ← itemsOr v "args"
    return needing clients (← natOr v "client" 0) fun c s => do
      match ← Program.lift (World.startWorkflow c type options args) with
      | .ok e => return (Report.ofValue e.encode, { s with executions := s.executions ++ [e] })
      | .error e => return (Report.ofResult (.error e), s)
  | _ => return none

/-- Reads a step on a worker or a factory. -/
def workerStepOf? (v : Json) : Described (Option (SessionStep Made)) := do
  let worker ← natOr v "worker" 0
  let factory ← natOr v "factory" 0
  match ← text v "do" with
  | "queue" => return needing workers worker fun id => showing fun w => .str (w.server.queueOf id)
  | "register" =>
    let f ← workflowOf (field v "workflow")
    return needing workers worker fun id => doing (World.updateWorker id fun w => w.register f)
  | "activities" =>
    let a ← activitiesOf (field v "activities")
    return needing workers worker fun id =>
      doing (World.updateWorker id fun w => .ok (w.setActivities a))
  | "replay" =>
    let read := historyOf (field v "history")
    return needing workers worker fun id => doing fun w =>
      (read.bind fun h => w.withWorker id fun f => f.replay h, w)
  | "start" => return needing factories factory fun f => doing (World.startFactory f)
  | "shutdown" => return needing factories factory fun f => doing (World.shutdownFactory f)
  | "await" => return needing factories factory fun _ => showing fun _ => .null
  | _ => return none

/-- Reads a step through a client or a connection, or one that looks at the world. -/
def clientStepOf (v : Json) : Described (SessionStep Made) := do
  let client ← natOr v "client" 0
  let service ← natOr v "service" 0
  match ← text v "do" with
  | "client_info" =>
    return needing clients client fun c => showing fun w =>
      Report.ofPair (.str c.ns) (.str (w.server.targetOf c.connection))
  | "result" =>
    onExecution v fun e => needing clients client fun _ s => do
      return (Report.ofResult (← Program.result e), s)
  | "update" =>
    let id ← text v "workflow_id"
    let name ← text v "name"
    return needing clients client fun c s => do
      return (Report.ofRpc (← Program.lift (World.update c id name)), s)
  | "start_update" =>
    let id ← text v "workflow_id"
    let name ← text v "name"
    return needing clients client fun c s => do
      return (Report.ofRpc ((← Program.lift (World.startUpdate c id name)).map .str), s)
  | "history" =>
    onExecution v fun e => needing services service fun id =>
      calling (World.fetchHistory id "" e) History.encode
  | "describe" =>
    onExecution v fun e => needing services service fun id =>
      calling (World.describe id "" e) ExecutionInfo.encode
  | "replay_live" =>
    let worker ← natOr v "worker" 0
    onExecution v fun e => needing services service fun id => needing workers worker fun f =>
      doing (replayLive id f e)
  | "close" => return needing services service fun id => doing (World.closeService id)
  | "open" =>
    let latch := latchOf (← text v "name")
    return doing fun w => (.ok (), w.openLatch latch)
  | "sleep" =>
    let d ← millis v "ms"
    return fun s => do
      Program.sleep d
      return (Report.ofValue .null, s)
  | "targets_of" =>
    let operation ← text v "operation"
    return showing fun w => Report.ofTexts (w.server.targetsOf operation)
  | "metrics" => return showing Report.ofMetrics
  | "state" => return showing fun w => Report.ofServer w.server
  | s => .error ("step " ++ s)

/-- Reads a step that calls the SDK directly. -/
def sdkStepOf (v : Json) : Described (SessionStep Made) := do
  match ← makingStepOf? v with
  | some step => return step
  | none =>
    match ← workerStepOf? v with
    | some step => return step
    | none => clientStepOf v

/-! ## The current worker of a run -/

/-- The report of a step on the current worker, with what has become of it. -/
def managerReport (r : Except Error Json) : SessionStep WorkerManager := fun m => do
  let polling ← Program.look fun w => Report.ofTexts w.server.pollingQueues
  return (Report.ofResult r ++ [("starts", .int m.starts), ("factory", .bool m.factory?.isSome),
    ("polling", polling)], m)

/-- Reads a step on the current worker. -/
def managerStepOf (client : Client) (feature : Feature) (v : Json) :
    Described (SessionStep WorkerManager) := do
  let unit (r : Except Error Unit) : Except Error Json := r.map fun _ => .null
  match ← text v "do" with
  | "restart" =>
    let queue ← text v "queue"
    return fun m => do
      let (r, m) ← m.restart client feature queue
      managerReport (unit r) m
  | "shutdown" | "shutdown_now" => return fun m => do managerReport (unit (← m.shutdown)) m
  | "worker" => return fun m => do
      let queue ← Program.look fun w => m.worker.map fun id => Json.str (w.server.queueOf id)
      managerReport queue m
  | s => .error ("step " ++ s)

/-! ## Runners -/

/-- Runs the feature of a runner. If its script is given by steps, they go on from the runs so far,
and the runs that they start are added to these. -/
def runStep (steps : Option (List FeatureStep)) : SessionStep (Runner × List Run) :=
  fun (r, runs) => do
    match steps with
    | none =>
      let (result, r) ← r.run
      return (Report.ofUnit result, r, runs)
    | some steps =>
      match ← Runner.exec (checkedScriptOf r.feature steps runs) r with
      | (.ok (result, runs), r) => return (Report.ofUnit result, r, runs)
      | (.error e, r) => return (Report.ofResult (.error e), r, runs)

/-- Reads a step on a runner; `steps` is the script of its feature, if that is given by steps. -/
def runnerStepOf (steps : Option (List FeatureStep)) (v : Json) :
    Described (SessionStep (Runner × List Run)) := do
  match ← text v "do" with
  | "run" => return runStep steps
  | "close" => return fun (r, runs) => do return (Report.ofUnit (← r.close), r, runs)
  | "state" => return fun (r, runs) => do
      return (Report.ofValue (← Program.look fun w => Report.ofServer w.server), r, runs)
  | _ =>
    let step ← scriptStepOf v
    return fun (r, runs) => do
      match ← Runner.exec (step runs) r with
      | (.ok (value, runs), r) => return (Report.ofValue value, r, runs)
      | (.error e, r) => return (Report.ofResult (.error e), r, runs)

/-- Launches a runner and performs steps on it. The first report is that of the launch. -/
def performOnRunner (timed : Bool) (config : Config) (prepared : PreparedFeature)
    (steps : List (SessionStep (Runner × List Run))) (w : World) : List Json × World :=
  match (Runner.launch config prepared).run w with
  | (.error e, w) => ([(Report.ofResult (.error e)).json], w)
  | (.ok runner, w) =>
    let (reports, _, w) := performAll timed steps (runner, []) w.settle
    ((Report.ofValue .null).json :: reports, w)

end Conformance.Scenario
