import Conformance.Proofs.Alone.Course
import Conformance.Proofs.Replay.Simulation
import Conformance.Proofs.Schedules.Opening
import Conformance.Proofs.Schedules.Timeless
import Conformance.Proofs.Server.Run

/-!
# Opening a default feature

A feature that keeps all defaults but its workflow, its activities and the expected result opens two
connections and starts one worker. At an SDK without faults this succeeds.

## Main definitions

- `DefaultFeature` — such a feature
- `DefaultFeature.worker`, `DefaultFeature.runner` — what it opens
- `World.Opens` — what opening leaves as it is
- `DefaultFeature.Ready` — the feature has been opened

## Main statements

- `DefaultFeature.ready_launch` — a launch without faults succeeds
-/

namespace Conformance

/-! ## Default features -/

/-- A feature that keeps all defaults but its workflow, its activities and the expected result. Every
instance has a scope of its own. The workflow has no parameters, and it is a deterministic function of
the outcomes of its activities. -/
structure DefaultFeature where
  dir : String
  method : WorkflowMethod
  code : (scope : Nat) → (replaying : Bool) → List Json → Code
  activities : (scope : Nat) → Option Activities := fun _ => none
  expectedResult : (scope : Nat) → Option Json := fun _ => none
  parameterless : method.arity = 0
  deterministic : ∀ scope, Workflow.Deterministic ⟨method, code scope⟩

namespace DefaultFeature

variable (d : DefaultFeature)

/-- The workflow of an instance. -/
def workflow (scope : Nat) : Workflow := ⟨d.method, d.code scope⟩

/-- An instance. -/
def instanceAt (scope : Nat) : Feature where
  workflows := [d.workflow scope]
  activities := d.activities scope
  expectedResult := d.expectedResult scope

/-- The feature as it is registered. -/
def prepared : PreparedFeature := ⟨d.dir, d.instanceAt⟩

/-- The worker of an instance, as it is before any invocation. -/
def worker (queue : String) (scope : Nat) : Worker where
  taskQueue := queue
  workflows := [d.workflow scope]
  activities := d.activities scope

theorem prepare_instanceAt (queue : String) (scope : Nat) :
    (d.instanceAt scope).prepare { taskQueue := queue } = .ok (d.worker queue scope) := by
  unfold Feature.prepare instanceAt worker
  cases d.activities scope <;> rfl

/-- The runner of an instance. -/
def runner (config : Config) (scope : Nat) (service directService : ConnectionId)
    (factory : FactoryId) (worker : WorkerId) : Runner where
  config
  dir := d.dir
  methods := [d.method]
  feature := d.instanceAt scope
  service
  directService
  client := ⟨service, config.ns⟩
  directClient := ⟨directService, config.ns⟩
  manager := .replaceWith {} factory worker
  proxy := ⟨config.proxyControl⟩

end DefaultFeature

/-! ## What opening leaves as it is -/

namespace World

/-- The worlds differ in connections, workers and factories, in who polls, and in what is counted
only. -/
structure Opens (w w' : World) : Prop where
  world : w' = { w with
    server := w'.server, sdk := w'.sdk, factories := w'.factories, metrics := w'.metrics
    instances := w'.instances }
  server : w'.server = { w.server with
    pollers := w'.server.pollers, pending := w'.server.pending, workers := w'.server.workers
    connections := w'.server.connections, calls := w'.server.calls }
  sdk : w'.sdk = { w.sdk with counts := w'.sdk.counts }

end World

/-! ## The launch -/

/-- No task is left, no command is delayed, and the ids of the next run are not in use. -/
structure World.Idle (w : World) : Prop where
  delayed : w.delayed = []
  tasks : w.server.tasks = []
  ended : ∀ r, w.server.executions.get? ("loopback-workflow-" ++ toString (w.server.starts + 1)) =
    some r → r.status ≠ .running
  unpublished : w.server.completions.get? (Server.runIdOf (w.server.starts + 1)) = none

/-- A world at rest, in which nothing gets in the way of a run on a queue: moreover, the SDK has no
faults, the server refuses nothing and reports no failure of a release, and nobody waits there. -/
structure World.AtRest (w : World) (queue : String) : Prop extends w.Idle where
  faults : w.sdk.faults = []
  refused : w.server.refused = []
  failingShutdown : w.server.failingShutdown = []
  waiting : w.server.waiting queue = []

theorem World.Opens.idle {w w' : World} (h : w.Opens w') (hidle : w.Idle) : w'.Idle where
  delayed := by
    rw [h.world]
    exact hidle.delayed
  tasks := by
    rw [h.server]
    exact hidle.tasks
  ended := by
    rw [h.server]
    exact hidle.ended
  unpublished := by
    rw [h.server]
    exact hidle.unpublished

/-- A world whose server has not been asked for anything is at rest. -/
theorem World.atRest_of_fresh {w : World} (hserver : w.server.Fresh) (hfaults : w.sdk.faults = [])
    (hrefused : w.server.refused = []) (hfailing : w.server.failingShutdown = [])
    (hdelayed : w.delayed = []) (queue : String) : w.AtRest queue := by
  obtain ⟨updateSupport, refused, failingShutdown, heq⟩ := hserver
  refine ⟨⟨hdelayed, ?_, ?_, ?_⟩, hfaults, hrefused, hfailing, ?_⟩
  · rw [heq]
  · rw [heq]
    exact nofun
  · rw [heq]
    rfl
  · rw [heq]
    rfl

namespace DefaultFeature

variable (d : DefaultFeature) {config : Config} {scope : Nat}

/-- An instance of the feature has been opened: its connection is open, and its worker polls its
queue. -/
structure Ready (config : Config) (scope : Nat) (r : Runner) (worker : WorkerId) (w : World) :
    Prop where
  runner : ∃ service directService factory,
    r = d.runner config scope service directService factory worker
  isOpen : w.server.isOpen r.service = true
  polls : w.server.pollers.get? config.taskQueue = some worker
  worker : w.server.worker? worker = some (d.worker config.taskQueue scope)

/-- A launch of the feature succeeds in a world at rest, if its settings are valid. -/
theorem ready_launch (hvalid : config.validate = .ok ()) {w : World}
    (hrest : w.AtRest config.taskQueue) :
    ∃ r worker w', (Runner.launch config d.prepared).run w = (.ok r, w') ∧ w.Opens w' ∧
      d.Ready config (w.instances + 1) r worker w' := by
  have hdormant := World.dormant_of_no_tasks hrest.tasks hrest.delayed
  -- what a launch leads to in every schedule, it leads to when it is run
  have hgoes : Program.Goes (fun _ => True) (Runner.launch config d.prepared) w
      (.ok (Runner.opened config d.prepared w)) _ :=
    Runner.goes_launch hdormant (fun _ _ => trivial) hvalid rfl
      (Sdk.makes_of_no_faults hrest.faults _) hrest.refused
      (d.prepare_instanceAt config.taskQueue (w.instances + 1)) hrest.waiting trivial
  obtain ⟨hrunner, hworld⟩ := Program.Surely.run (Runner.timeless_launch config d.prepared) hgoes
  refine ⟨Runner.opened config d.prepared w, w.server.workers.length, _, Prod.ext hrunner hworld, ?_,
    ?_, ?_, ?_, ?_⟩
  · exact ⟨rfl, rfl, rfl⟩
  · exact ⟨_, _, _, rfl⟩
  · exact (World.isOpen_connected rfl).1
  · exact Table.get?_insert_self ..
  · exact List.getElem?_concat_length

end DefaultFeature

end Conformance
