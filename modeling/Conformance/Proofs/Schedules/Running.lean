import Conformance.Proofs.Alone.Opening
import Conformance.Proofs.Replay.Agreement
import Conformance.Proofs.Schedules.Errand
import Conformance.Proofs.Schedules.Scripts

/-!
# Running an errand

A feature whose workflow runs an errand is opened and starts it. Whatever the schedule, the activity is
under way then, and waits. Once it has been let through, the result of the workflow is what the activity
has ended with, and its history replays.

## Main definitions

- `World.Clear` — nothing gets in the way of a run
- `Errand.Serves` — a feature whose workflow runs an errand
- `Errand.Ready` — the feature has been opened
- `Errand.sent` — a world in which the errand has been sent

## Main statements

- `Errand.Ready.surely_held` — the errand is sent, and waits
- `Errand.replay_recorded` — the history of an errand replays
-/

namespace Conformance

/-- Nothing gets in the way of a run on a queue, apart from faults of the SDK: no task is left, no command
is delayed, the ids of the next run are not in use, the server refuses nothing and reports no failure of a
release, nobody waits there, and the latches and counters of the next instance have not been used. -/
structure World.Clear (w : World) (queue : String) : Prop extends w.Idle where
  refused : w.server.refused = []
  failingShutdown : w.server.failingShutdown = []
  waiting : w.server.waiting queue = []
  closed : ∀ name, w.signals.isOpen ⟨w.instances + 1, name⟩ = false
  uncounted : ∀ name, w.signals.count ⟨w.instances + 1, name⟩ = 0

/-- Nothing is in the way in a world in which nothing has happened. -/
theorem World.clear_of_fresh {w : World} (hserver : w.server = {}) (hsignals : w.signals = {})
    (hdelayed : w.delayed = []) (queue : String) : w.Clear queue := by
  refine ⟨⟨hdelayed, ?_, ?_, ?_⟩, ?_, ?_, ?_, fun _ => ?_, fun _ => ?_⟩
  all_goals first | rw [hserver] | rw [hsignals]
  all_goals first | rfl | exact nofun

namespace Errand

open World Program

/-- How an errand is sent. -/
def options (queue : String) : WorkflowOptions :=
  { taskQueue := queue, executionTimeout := some Runner.defaultExecutionTimeout }

/-- The run that is started next on a queue. -/
def nextRun (queue : String) (w : World) : Execution := w.server.nextRun (options queue)

/-- The record of that run as it is started. -/
def record (x : Errand) (queue : String) (w : World) : ExecutionRecord :=
  Server.newRecord (nextRun queue w) x.method.name (options queue) []

/-- The workflow of the feature runs the errand. -/
structure Serves (x : Errand) (f : Feature) : Prop where
  prepare : ∀ queue, f.prepare { taskQueue := queue } = .ok (x.worker queue)
  parameterless : x.method.arity = 0
  skipReason : f.skipReason = none
  workflowOptions : f.workflowOptions = id

/-- An instance of the feature has been opened. -/
structure Ready (x : Errand) (r : Runner) (factory : FactoryId) (worker : WorkerId) (w : World) :
    Prop where
  methods : r.methods = [x.method]
  parameterless : x.method.arity = 0
  options : r.workflowOptions = options r.config.taskQueue
  queue : r.config.taskQueue.isEmpty = false
  currentFactory : r.manager.factory? = some factory
  currentWorker : r.manager.worker? = some worker
  factory : ∃ target, w.factory? factory = some ⟨target, [worker], true⟩
  polls : w.server.pollers.get? r.config.taskQueue = some worker
  worker : w.server.worker? worker = some (x.worker r.config.taskQueue)
  isOpen : w.server.isOpen r.initiatorService = true
  failingShutdown : w.server.failingShutdown = []
  idle : w.Idle

variable {x : Errand} {config : Config} {prepared : PreparedFeature} {w : World}

/-- A launch succeeds whose calls are made. -/
theorem goes_launch {Inv : World → Prop} (hvalid : config.validate = .ok ())
    (hclear : w.Clear config.taskQueue) (hserves : x.Serves (prepared.instanceAt (w.instances + 1)))
    (hmakes : w.sdk.Makes Runner.launchCalls) (hinv : ∀ w', w.Prepares w' → Inv w')
    (hinv' : Inv (Runner.launched config prepared (x.worker config.taskQueue) w)) :
    Goes Inv (Runner.launch config prepared) w (.ok (Runner.opened config prepared w))
      (Runner.launched config prepared (x.worker config.taskQueue) w) :=
  Runner.goes_launch (dormant_of_no_tasks hclear.tasks hclear.delayed) hinv hvalid hserves.skipReason
    hmakes hclear.refused (hserves.prepare config.taskQueue) hclear.waiting hinv'

theorem ready_launched (hvalid : config.validate = .ok ()) (hclear : w.Clear config.taskQueue)
    (hserves : x.Serves (prepared.instanceAt (w.instances + 1)))
    (hmethods : prepared.methods = [x.method]) :
    x.Ready (Runner.opened config prepared w) w.factories.length w.server.workers.length
      (Runner.launched config prepared (x.worker config.taskQueue) w) where
  methods := hmethods
  parameterless := hserves.parameterless
  options := by
    unfold Runner.workflowOptions
    show (prepared.instanceAt (w.instances + 1)).workflowOptions _ = _
    rw [hserves.workflowOptions]
    rfl
  queue := Config.taskQueue_of_valid hvalid
  currentFactory := rfl
  currentWorker := rfl
  factory := ⟨_, List.getElem?_concat_length⟩
  polls := Table.get?_insert_self ..
  worker := List.getElem?_concat_length
  isOpen := by
    have hopen := isOpen_connected (s := (Runner.launched config prepared
      (x.worker config.taskQueue) w).server) rfl
    unfold Runner.initiatorService
    split
    · exact hopen.1
    · exact hopen.2
  failingShutdown := hclear.failingShutdown
  idle := ⟨hclear.delayed, hclear.tasks, hclear.ended, hclear.unpublished⟩

/-- The world after the errand has been sent through a runner. -/
def sent (x : Errand) (r : Runner) (worker : WorkerId) (w : World) : World :=
  { w with server := { w.server with
      executions := w.server.executions.insert (nextRun r.config.taskQueue w).workflowId
        (x.record r.config.taskQueue w)
      tasks := [{ workflowId := (nextRun r.config.taskQueue w).workflowId, worker }]
      starts := w.server.starts + 1
      calls := w.server.calls ++ [⟨w.server.targetOf r.initiatorClient.connection, .startWorkflow,
        some r.initiatorClient.ns⟩] } }

variable {r : Runner} {factory : FactoryId} {worker : WorkerId}

theorem Ready.startWorkflow_eq (h : x.Ready r factory worker w) :
    World.startWorkflow r.initiatorClient x.method.name r.workflowOptions [] w =
      (.ok (nextRun r.config.taskQueue w), x.sent r worker w) := by
  have hset : (Errand.options r.config.taskQueue).taskQueue.isEmpty = false := h.queue
  have hpolls : w.server.pollers.get? (Errand.options r.config.taskQueue).taskQueue = some worker :=
    h.polls
  have haccept := Server.accept_eq hpolls (w.server.targetOf r.initiatorClient.connection)
    (some r.initiatorClient.ns) x.method.name [] (nextRun r.config.taskQueue w)
  have htasks := h.idle.tasks
  unfold World.startWorkflow
  rw [h.options, Server.startWorkflow_of_idle hset h.idle.ended]
  show (Except.ok _, { w with server := Server.accept _ _ _ _ _ _ (nextRun _ w) }) = _
  rw [haccept, htasks]
  rfl

theorem Ready.begins (h : x.Ready r factory worker w) (hstarted : w.signals.isOpen x.started = false)
    (hgate : w.signals.isOpen x.gate = false) (hne : x.started ≠ x.gate) :
    x.Begins r.config.taskQueue (nextRun r.config.taskQueue w).workflowId worker
      (x.record r.config.taskQueue w) (x.sent r worker w) where
  identity := rfl
  carries := ⟨.refl _, rfl, rfl, Table.get?_insert_self .., rfl⟩
  unpublished := h.idle.unpublished
  workflowType := rfl
  worker := h.worker
  delayed := h.idle.delayed
  startedClosed := hstarted
  gateClosed := hgate
  ne := hne

/-- The errand is sent, and its activity gets to where it waits. -/
theorem Ready.surely_held {Inv : World → Prop} {α : Type} {Q : Except Error α × Runner → World → Prop}
    (h : x.Ready r factory worker w) (limit : Duration) (hstarted : w.signals.isOpen x.started = false)
    (hgate : w.signals.isOpen x.gate = false) (hne : x.started ≠ x.gate) (hinv₀ : Inv w)
    (hinv : ∀ v, x.Outbound (nextRun r.config.taskQueue w).workflowId worker
      (x.record r.config.taskQueue w) (x.sent r worker w) v → Inv v)
    (hlimit : 0 < limit.ticks) {next : Run → Bool → Script α}
    (hnext : ∀ v, x.Held (nextRun r.config.taskQueue w).workflowId worker
      (x.record r.config.taskQueue w) (x.sent r worker w) v →
        Surely Inv Q (Runner.exec (next ⟨x.method, nextRun r.config.taskQueue w⟩ true) r, v)) :
    Surely Inv Q (Runner.exec (do
      let run ← Script.executeSingleParameterlessWorkflow
      let met ← Script.perform (.awaitLatch x.started limit)
      next run met) r, w) := by
  have hdormant := dormant_of_no_tasks h.idle.tasks h.idle.delayed
  have hbegins := h.begins hstarted hgate hne
  have hstart := Runner.goes_executeSingleParameterlessWorkflow hdormant hinv₀ h.methods h.parameterless
    h.startWorkflow_eq (hinv _ (.fresh hbegins.carries rfl))
  refine Runner.goes_exec_bind hstart ?_
  refine Runner.surely_exec_bind
    (Runner.surely_awaitLatch (fun v hv => hinv v hv.outbound) (hbegins.surely_started hinv hlimit))
    fun y v hy => ?_
  exact ⟨true, r, hy.1, hnext v hy.2⟩

/-! ## The end of an errand -/

/-- The record of a run that has ended. -/
def recorded (x : Errand) (r : ExecutionRecord) (e : Ending) : ExecutionRecord :=
  (x.answered r e).finish (Completion.ofEnding e)

/-- The history of a run of the errand that has ended with a value. -/
def history (x : Errand) (queue : String) (v : Json) : History :=
  (x.recorded (Server.newRecord default x.method.name (options queue) []) (.ok v)).history

/-- The record keeps the ids of the run. -/
theorem execution_recorded (x : Errand) (queue : String) (w : World) (v : Json) :
    (x.recorded (x.record queue w) (.ok v)).execution = nextRun queue w :=
  (Server.sameRun_finish ..).execution.trans (execution_answered ..)

theorem Ended.dormant {x : Errand} {id : String} {r : ExecutionRecord} {e : Ending} {w₀ w : World}
    (h : x.Ended id r e w₀ w) (hdelayed : w₀.delayed = []) : w.Dormant :=
  dormant_of_no_tasks h.tasks (h.background.delayed.trans hdelayed)

theorem deterministic_workflow (x : Errand) : x.workflow.Deterministic :=
  ⟨rfl, fun _ => .call _ _ _ (fun _ => .done _ _ rfl) fun _ _ => .done _ _ rfl⟩

/-- The history of an errand replays on every worker that runs it. -/
theorem replay_history (x : Errand) (queue : String) (v : Json) {host : Worker}
    (hhost : host.uncounted = (x.worker queue).uncounted) :
    host.replay (x.history queue v) = .ok () := by
  have hleads : x.code.Leads [⟨x.activityType, [], .ok v⟩] (.done (.ok v)) :=
    .call _ _ _ _ (.refl _)
  let r₀ := Server.newRecord default x.method.name (options queue) []
  have hfollows : Follows x.code r₀ none (x.recorded r₀ (.ok v)) := .finished _ _ hleads
  exact ExecutionRecord.replay_eq_ok x.deterministic_workflow hfollows (x.workflow?_worker hhost) rfl

/-- No update has been rejected on record. -/
theorem find?_history (x : Errand) (queue : String) (v : Json) :
    (x.history queue v).find? .workflowExecutionUpdateRejected = none := rfl

/-- All stored histories of a feature replay on the worker of the errand; if histories are recorded, that
of a run with the result is among them. -/
def Accepted (x : Errand) (config : Config) (dir : String) (v : Json) (w : World) : Prop :=
  (FixtureStore.forFeature config.fixturesDir dir w.sdk.name).Accepts w.files w.sdk.version
    (x.worker config.taskQueue)
    (if config.generateHistory = true then some (x.history config.taskQueue v) else none)

theorem Accepted.of_same {x : Errand} {config : Config} {dir : String} {v : Json} {w w' : World}
    (h : x.Accepted config dir v w) (hname : w'.sdk.name = w.sdk.name)
    (hversion : w'.sdk.version = w.sdk.version) (hfiles : w'.files = w.files) :
    x.Accepted config dir v w' := by
  unfold Accepted at h ⊢
  rw [hname, hversion, hfiles]
  exact h

end Errand

/-- Workers with the same workflows accept the same stored histories. -/
theorem FixtureStore.Accepts.congr {s : FixtureStore} {files : FileTree} {current : Version}
    {x y : Worker} {generated : Option History} (h : s.Accepts files current x generated)
    (hsame : x.workflows = y.workflows) : s.Accepts files current y generated := by
  unfold Accepts at h ⊢
  cases generated with
  | none => exact (check_eq_ok_congr hsame s files current).mp h
  | some history =>
    obtain ⟨path, files', hstore, hcheck⟩ := h
    exact ⟨path, files', hstore, (check_eq_ok_congr hsame s files' current).mp hcheck⟩

namespace Runner

open World Program

/-- The current factory of a runner has one worker, and no release is going to fail. -/
structure Closable (r : Runner) (w : World) : Prop where
  current : ∃ factory worker target running, r.manager.factory? = some factory ∧
    w.factory? factory = some ⟨target, [worker], running⟩
  failingShutdown : w.server.failingShutdown = []

/-- Moreover, its connection is open, and its worker runs the errand. -/
structure Serving (r : Runner) (x : Errand) (w : World) : Prop extends r.Closable w where
  isOpen : w.server.isOpen r.initiatorService = true
  worker : ∃ id host, r.manager.worker = .ok id ∧ w.server.worker? id = some host ∧
    host.uncounted = (x.worker r.config.taskQueue).uncounted

variable {Inv : World → Prop} {r : Runner} {x : Errand} {w w' : World}

theorem Closable.of_same (h : r.Closable w) (hfactories : w'.factories = w.factories)
    (hfailing : w'.server.failingShutdown = w.server.failingShutdown) : r.Closable w' where
  current := by
    unfold World.factory?
    rw [hfactories]
    exact h.current
  failingShutdown := hfailing.trans h.failingShutdown

theorem Serving.background (h : r.Serving x w) (hbackground : w.Background w') : r.Serving x w' where
  toClosable := by
    apply h.toClosable.of_same
    · rw [hbackground.world]
    · rw [hbackground.server]
  isOpen := by
    rw [hbackground.server]
    exact h.isOpen
  worker := by
    obtain ⟨id, host, hcurrent, hhost, hsame⟩ := h.worker
    obtain ⟨host', hhost', hsame'⟩ := hbackground.worker? hhost
    exact ⟨id, host', hcurrent, hhost', hsame'.trans hsame⟩

theorem Serving.of_same (h : r.Serving x w) (hfactories : w'.factories = w.factories)
    (hfailing : w'.server.failingShutdown = w.server.failingShutdown)
    (hconnections : w'.server.connections = w.server.connections)
    (hworkers : w'.server.workers = w.server.workers) : r.Serving x w' where
  toClosable := h.toClosable.of_same hfactories hfailing
  isOpen := by
    unfold Server.isOpen
    rw [hconnections]
    exact h.isOpen
  worker := by
    unfold Server.worker?
    rw [hworkers]
    exact h.worker

theorem Serving.consults (h : r.Serving x w) (hconsults : w.Consults w') : r.Serving x w' := by
  apply h.of_same
  · rw [hconsults.world]
  all_goals rw [hconsults.server]

theorem Serving.openLatch (h : r.Serving x w) (latch : SignalId) : r.Serving x (w.openLatch latch) := by
  unfold World.openLatch
  split
  · exact h
  · exact h.of_same rfl rfl rfl rfl

theorem Closable.goes_close (h : r.Closable w) (hw : w.Dormant) (hinv : ∀ v, w.Closes v → Inv v) :
    ∃ v, w.Closes v ∧ Goes Inv r.close w (.ok ()) v := by
  obtain ⟨factory, worker, target, running, hcurrent, hfactory⟩ := h.current
  exact Runner.goes_close hw hinv hcurrent hfactory h.failingShutdown

end Runner

/-! ## Checks of an errand -/

namespace Errand

open World Program

variable {x : Errand} {w₀ w w' : World} {worker : WorkerId} {r : Runner} {v : Json} {Inv : World → Prop}

theorem Ready.serving {factory : FactoryId} (h : x.Ready r factory worker w) : r.Serving x w where
  current := by
    obtain ⟨target, hfactory⟩ := h.factory
    exact ⟨factory, worker, target, true, h.currentFactory, hfactory⟩
  failingShutdown := h.failingShutdown
  isOpen := h.isOpen
  worker := by
    refine ⟨worker, _, ?_, h.worker, rfl⟩
    unfold WorkerManager.worker
    rw [h.currentWorker]

/-- The activity goes on waiting when everything is released. -/
theorem Holds.closes {id : String} {record : ExecutionRecord} (h : x.Holds id worker record w)
    (hcloses : w.Closes w') : x.Holds id worker record w' := by
  apply h.of_same <;> first | rw [hcloses.server] | rw [hcloses.world]

/-- A run has ended with a value, and the runner can go on with its checks. -/
structure Settled (x : Errand) (w₀ : World) (r : Runner) (v : Json) (w : World) : Prop where
  dormant : w.Dormant
  record : w.server.executions.get? (nextRun r.config.taskQueue w₀).workflowId =
    some (x.recorded (x.record r.config.taskQueue w₀) (.ok v))
  completion : w.server.completions.get? (nextRun r.config.taskQueue w₀).runId = some (.ok v)
  serving : r.Serving x w

theorem Settled.consults (h : x.Settled w₀ r v w) (hconsults : w.Consults w') :
    x.Settled w₀ r v w' where
  dormant := hconsults.dormant h.dormant
  record := by
    rw [hconsults.server]
    exact h.record
  completion := by
    rw [hconsults.server]
    exact h.completion
  serving := h.serving.consults hconsults

/-- The result of a run whose activity has been let through is accepted. -/
theorem Frees.surely_checkResult (h : x.Frees (nextRun r.config.taskQueue w₀).workflowId worker
      (x.record r.config.taskQueue w₀) (.ok v) w)
    (hserving : r.Serving x w) (hinv : ∀ u, w.Background u → Inv u)
    (hholds : x.method.returns.holds v = true) (hsame : v.same v = true) :
    Surely Inv (fun y u => y = (.ok (), r) ∧ w.Background u ∧ x.Settled w₀ r v u)
      (Runner.exec (Script.checkResult (some v) ⟨x.method, nextRun r.config.taskQueue w₀⟩) r, w) := by
  have htimeout : 0 < (x.record r.config.taskQueue w₀).timeout.ticks := by
    show 0 < (Duration.ofSeconds 60).ticks
    rw [Duration.ticks_ofSeconds]
    omega
  have hresult := h.surely_result (fun u hu => hinv u hu.background) htimeout
    (.inActivity h.carries h.ends)
  refine (Runner.surely_checkResult hresult (fun u hu => hinv u hu.background) hholds hsame).mono ?_
  rintro y u ⟨hy, hended⟩
  exact ⟨hy, hended.background, hended.dormant h.delayed, hended.record, hended.completion,
    hserving.background hended.background⟩

/-- No update is on record as rejected. -/
theorem Settled.goes_requireNoUpdateRejected (h : x.Settled w₀ r v w)
    (hinv : ∀ u, w.Consults u → Inv u) : ∃ u, w.Consults u ∧ u.files = w.files ∧
      Goes Inv (Runner.exec (Script.requireNoUpdateRejected ⟨x.method, nextRun r.config.taskQueue w₀⟩) r)
        w (.ok (), r) u :=
  Runner.goes_requireNoUpdateRejected h.dormant hinv h.serving.isOpen h.record
    (x.execution_recorded ..) (x.find?_history ..)

/-- Its history is accepted, together with all that are stored. -/
theorem Settled.goes_checkHistories (h : x.Settled w₀ r v w) (haccepted : x.Accepted r.config r.dir v w)
    (hinv : ∀ u, w.Consults u → Inv u) : ∃ u, w.Consults u ∧
      Goes Inv (Runner.exec (Script.checkHistories ⟨x.method, nextRun r.config.taskQueue w₀⟩) r) w
        (.ok (), r) u := by
  obtain ⟨id, host, hcurrent, hhost, hworker⟩ := h.serving.worker
  have hworkflows : (x.worker r.config.taskQueue).workflows = host.workflows :=
    (congrArg Worker.workflows hworker).symm
  refine Runner.goes_checkHistories h.dormant hinv h.serving.isOpen h.record
    (x.execution_recorded ..) hcurrent hhost ?_ ?_
  · exact x.replay_history _ v hworker
  · exact haccepted.congr hworkflows

end Errand

end Conformance
