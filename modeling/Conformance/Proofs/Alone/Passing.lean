import Conformance.Proofs.Alone.Opening
import Conformance.Proofs.Alone.Scripts
import Conformance.Proofs.Alone.Waiting
import Conformance.Proofs.Files.Segments
import Conformance.Proofs.Replay.Agreement

/-!
# When a default feature passes

A default feature has the world to itself: it is opened, its run goes its course, the result is
checked, and then the stored histories are. So whether it passes can be read off the code of its
workflow and activities and off the directory of its fixtures.

## Main definitions

- `DefaultFeature.liveRun` — with what the run of an instance ends, and when
- `DefaultFeature.Ran` — the workflow of an instance has been started, and waited for

## Main statements

- `DefaultFeature.Ready.ran` — an instance starts its workflow and waits for its result
- `DefaultFeature.Ran.run_checkHistories` — the live history replays, so that the stored ones decide
- `DefaultFeature.passes_iff` — when a default feature passes

## Design notes

The verdict does not mention a server. That the run at the server ends as its code says is a matter of
`World.Alone`, and that its history replays one of the simulation of live code by replays.
-/

namespace Conformance

/-! ## Default features -/

namespace DefaultFeature

variable (d : DefaultFeature) {config : Config} {scope : Nat} {r : Runner} {worker : WorkerId}
  {w : World}

/-- How the workflow of a default feature is started. -/
def options (queue : String) : WorkflowOptions :=
  { taskQueue := queue, executionTimeout := some (Duration.ofSeconds 60) }

/-- The record of the run that is started next. -/
def nextRecord (s : Server) (queue : String) : ExecutionRecord :=
  Server.newRecord (s.nextRun (options queue)) d.method.name (options queue) []

/-- With what the run of an instance ends that is started now and runs alone, and when. -/
def liveRun (queue : String) (scope : Nat) (w : World) : Option (Ending × Nat) :=
  (d.code scope false []).course (d.worker queue scope) w.clock w.signals

theorem workflow?_worker (queue : String) (scope : Nat) :
    (d.worker queue scope).workflow? d.method.name = some (d.workflow scope) :=
  List.find?_cons_of_pos (decide_eq_true rfl)

/-- The server after the workflow of a default feature has been started. -/
def started (config : Config) (service : ConnectionId) (s : Server) : Server :=
  s.accept (s.targetOf service) (some config.ns) d.method.name (options config.taskQueue) []
    (s.nextRun (options config.taskQueue))

theorem Ready.run_execute {d : DefaultFeature} (h : d.Ready config scope r worker w)
    (hqueue : config.taskQueue.isEmpty = false) (hidle : w.Idle) :
    (Runner.exec r.feature.execute r).run w =
      ((.ok (some ⟨d.method, w.server.nextRun (options config.taskQueue)⟩), r),
        { w with server := d.started config r.service w.server }) := by
  obtain ⟨service, directService, factory, rfl⟩ := h.runner
  have hset : (options config.taskQueue).taskQueue.isEmpty = false := hqueue
  have hcall : World.startWorkflow ⟨service, config.ns⟩ d.method.name (options config.taskQueue) [] w =
      (.ok (w.server.nextRun (options config.taskQueue)),
        { w with server := d.started config service w.server }) := by
    unfold World.startWorkflow
    rw [Server.startWorkflow_of_idle hset hidle.ended]
    rfl
  have hexecute := Runner.run_executeSingleParameterlessWorkflow
    (r := d.runner config scope service directService factory worker) rfl d.parameterless hcall
  show (Runner.exec (Script.executeSingleParameterlessWorkflow >>= fun run => pure (some run)) _).run
    w = _
  rw [Runner.run_exec_bind, hexecute]
  rfl

theorem Ready.alone {d : DefaultFeature} (h : d.Ready config scope r worker w) (hidle : w.Idle)
    (deadline : Nat) :
    World.Alone (d.workflow scope) (d.nextRecord w.server config.taskQueue) deadline
      (d.liveRun config.taskQueue scope w)
      { w with server := d.started config r.service w.server } := by
  have hpolls : w.server.pollers.get? (options config.taskQueue).taskQueue = some worker := h.polls
  unfold started
  rw [Server.accept_eq hpolls]
  refine .under_way (t := ⟨_, worker, .fresh, none⟩) ?_ rfl (Table.get?_insert_self ..)
    (.inl ⟨rfl, rfl⟩) h.worker (d.workflow?_worker config.taskQueue scope) hidle.unpublished
    (.awake rfl)
  show w.server.tasks ++ _ = _
  rw [hidle.tasks]
  rfl

/-- The workflow of an instance has been started, and its result has been waited for. -/
structure Ran (d : DefaultFeature) (config : Config) (scope : Nat) (worker : WorkerId)
    (w w' : World) : Prop where
  awaited : World.Awaited (d.workflow scope) (d.nextRecord w.server config.taskQueue)
    (w.clock + 60000) (d.liveRun config.taskQueue scope w) w'
  files : w'.files = w.files
  sdk : w'.sdk = w.sdk
  connections : w'.server.connections = w.server.connections
  failingShutdown : w'.server.failingShutdown = w.server.failingShutdown
  worker : ∃ x, w'.server.worker? worker = some x ∧
    x.uncounted = (d.worker config.taskQueue scope).uncounted

/-- A result that is waited for on behalf of the run that is started next. -/
def subscription (s : Server) (queue : String) : Server.Subscription :=
  ⟨s.nextRun (options queue), s.nextRun (options queue), Duration.ofSeconds 60⟩

theorem subscribe_started (service : ConnectionId) (s : Server) :
    (d.started config service s).subscribe (s.nextRun (options config.taskQueue)) =
      .ok (subscription s config.taskQueue) := by
  have hrecord := Server.executions_accept s (s.targetOf service) (some config.ns) d.method.name
    (options config.taskQueue) [] (s.nextRun (options config.taskQueue))
    (s.nextRun (options config.taskQueue)).workflowId
  rw [if_pos rfl] at hrecord
  unfold Server.subscribe
  rw [Server.addressed_of_get? (s := d.started config service s) hrecord rfl]
  rfl

/-- An instance starts its workflow and waits for the result. -/
theorem Ready.ran {d : DefaultFeature} (h : d.Ready config scope r worker w)
    (hqueue : config.taskQueue.isEmpty = false) (hidle : w.Idle) :
    ∃ w₂ w₃, (Runner.exec r.feature.execute r).run w =
        ((.ok (some ⟨d.method, w.server.nextRun (options config.taskQueue)⟩), r), w₂) ∧
      (Program.result (w.server.nextRun (options config.taskQueue))).run w₂ =
        (w₃.server.answer (subscription w.server config.taskQueue), w₃) ∧
      d.Ran config scope worker w w₃ := by
  let w₂ : World := { w with server := d.started config r.service w.server }
  let sub := subscription w.server config.taskQueue
  have hpolls : w.server.pollers.get? (options config.taskQueue).taskQueue = some worker := h.polls
  have haccept : w₂.server = _ := Server.accept_eq hpolls _ _ _ _ _
  have halone : w₂.Alone _ _ (w.clock + 60000) _ := h.alone hidle _
  have hdelayed : w₂.delayed = [] := hidle.delayed
  have hworker : w₂.server.worker? worker = some (d.worker config.taskQueue scope) := by
    rw [haccept]
    exact h.worker
  have hdeadline : w₂.clock + sub.timeout.ticks = w.clock + 60000 := by
    show w.clock + (Duration.ofSeconds 60).ticks = _
    rw [Duration.ticks_ofSeconds]
  generalize hw₃ : (w₂.wait (fun w => w.server.isSettled sub) (some (w.clock + 60000))).2 = w₃
  have hbackground : w₂.Background w₃ :=
    hw₃ ▸ World.background_of_drifted (World.wait_cases _ _ halone.timed).1 hdelayed
  refine ⟨w₂, w₃, h.run_execute hqueue hidle,
    Runner.run_result_of_ok (d.subscribe_started r.service w.server) ?_, ?_⟩
  · rw [← hw₃, ← hdeadline]
  · refine ⟨hw₃ ▸ halone.awaited hdelayed rfl, ?_, ?_, ?_, ?_, hbackground.worker? hworker⟩
    · rw [hbackground.world]
    · rw [hbackground.world]
    · rw [hbackground.server, haccept]
    · rw [hbackground.server, haccept]

theorem Ready.run_run {d : DefaultFeature} (h : d.Ready config scope r worker w) {run : Run}
    {w₂ w₃ : World} {answer : Except Error Json}
    (hexecute : (Runner.exec r.feature.execute r).run w = ((.ok (some run), r), w₂))
    (hresult : (Program.result run.execution).run w₂ = (answer, w₃)) :
    ∃ result : Except Error Unit, r.run.run w = (match result with
        | .ok () => (Runner.exec (Script.checkHistories run) r).run w₃
        | .error e => ((.error e, r), w₃)) ∧
      (result = .ok () ↔ ∃ v, answer = .ok v ∧ run.method.returns.holds v = true ∧
        ∀ e, d.expectedResult scope = some e → v.same e = true) := by
  obtain ⟨result, hcheck, haccepted⟩ :=
    Runner.run_checkResult (r := r) (d.expectedResult scope) hresult
  refine ⟨result, ?_, haccepted⟩
  have hfeature : r.feature = d.instanceAt scope := by
    obtain ⟨service, directService, factory, rfl⟩ := h.runner
    rfl
  show (Runner.exec (r.feature.execute >>= _) r).run w = _
  rw [Runner.run_exec_bind, hexecute]
  dsimp only
  rw [hfeature]
  show (Runner.exec (Script.checkResult (d.expectedResult scope) run >>= fun _ =>
    Script.checkHistories run) r).run w₂ = _
  rw [Runner.run_exec_bind, hcheck]
  cases result <;> rfl

/-- The live history of an instance replays, so that the stored ones decide. -/
theorem Ran.run_checkHistories {d : DefaultFeature} {w' : World}
    (h : d.Ran config scope worker w w') (hready : d.Ready config scope r worker w)
    (hgenerate : config.generateHistory = false) {e : Ending} {time : Nat}
    (ho : d.liveRun config.taskQueue scope w = some (e, time)) (hlt : time < w.clock + 60000) :
    ∃ x w₄, (Runner.exec (Script.checkHistories
        ⟨d.method, w.server.nextRun (options config.taskQueue)⟩) r).run w' =
          (((FixtureStore.forFeature config.fixturesDir d.dir w.sdk.name).check w.files w.sdk.version
            x, r), w₄) ∧
      x.workflows = [d.workflow scope] ∧
      w₄.server.failingShutdown = w.server.failingShutdown := by
  obtain ⟨final, hfinal, hfollows⟩ := h.awaited.recorded ho hlt
  obtain ⟨x, hx, hsame⟩ := h.worker
  have hworkflows : x.workflows = [d.workflow scope] := congrArg Worker.workflows hsame
  have hlive : verifyCurrent x final.history = .ok () := by
    have hworkflow : x.workflow? d.method.name = some (d.workflow scope) := by
      unfold Worker.workflow?
      rw [hworkflows]
      exact d.workflow?_worker config.taskQueue scope
    unfold verifyCurrent
    rw [ExecutionRecord.replay_eq_ok (d.deterministic scope) hfollows hworkflow rfl]
  have hopen : w'.server.isOpen r.service = true := by
    unfold Server.isOpen
    rw [h.connections]
    exact hready.isOpen
  obtain ⟨service, directService, factory, rfl⟩ := hready.runner
  let run : Run := ⟨d.method, w.server.nextRun (options config.taskQueue)⟩
  let w₄ : World := { w' with
    server := w'.server.record (w'.server.targetOf service) .fetchHistory (some config.ns) }
  have hfetch : World.fetchHistory service config.ns run.execution w' = (.ok final.history, w₄) :=
    World.fetchHistory_of_get? hopen hfinal hfollows.sameRun.execution config.ns
  have hchecks := Runner.run_checkHistories (r := d.runner config scope service directService factory
    worker) hfetch rfl hx hlive hgenerate
  refine ⟨x, w₄, hchecks.trans ?_, hworkflows, h.failingShutdown⟩
  show (((FixtureStore.forFeature config.fixturesDir d.dir w'.sdk.name).check w'.files w'.sdk.version
    x, _), w₄) = _
  rw [h.sdk, h.files]

/-- The script of an instance succeeds exactly if its live run ends in time with a result that is
accepted, and the stored histories are accepted. -/
theorem Ready.run_eq_ok_iff {d : DefaultFeature} (h : d.Ready config scope r worker w)
    (hqueue : config.taskQueue.isEmpty = false) (hgenerate : config.generateHistory = false)
    (hidle : w.Idle) :
    (r.run.run w).2.server.failingShutdown = w.server.failingShutdown ∧
      ((r.run.run w).1.1 = .ok () ↔
        (∃ v time, d.liveRun config.taskQueue scope w = some (.ok v, time) ∧
          time < w.clock + 60000 ∧ d.method.returns.holds v = true ∧
          ∀ e, d.expectedResult scope = some e → v.same e = true) ∧
        (FixtureStore.forFeature config.fixturesDir d.dir w.sdk.name).check w.files w.sdk.version
          (d.worker config.taskQueue scope) = .ok ()) := by
  obtain ⟨w₂, w₃, hexecute, hresult, hran⟩ := h.ran hqueue hidle
  obtain ⟨result, hrun, haccepted⟩ := h.run_run hexecute hresult
  have hlive : result = .ok () ↔
      ∃ v time, d.liveRun config.taskQueue scope w = some (.ok v, time) ∧
        time < w.clock + 60000 ∧ d.method.returns.holds v = true ∧
        ∀ e, d.expectedResult scope = some e → v.same e = true := by
    refine haccepted.trans (exists_congr fun v => ?_)
    rw [hran.awaited.answer_eq_ok_iff rfl]
    constructor
    · rintro ⟨⟨time, ho, hlt⟩, hrest⟩
      exact ⟨time, ho, hlt, hrest⟩
    · rintro ⟨time, ho, hlt, hrest⟩
      exact ⟨⟨time, ho, hlt⟩, hrest⟩
  rw [hrun, ← hlive]
  cases result with
  | error e => exact ⟨hran.failingShutdown, iff_of_false nofun nofun⟩
  | ok _ =>
    obtain ⟨v, time, ho, hlt, -⟩ := hlive.mp rfl
    obtain ⟨x, w₄, hchecks, hworkflows, hfailing⟩ := hran.run_checkHistories h hgenerate ho hlt
    dsimp only
    rw [hchecks]
    refine ⟨hfailing, ?_⟩
    rw [and_iff_right rfl]
    exact FixtureStore.check_eq_ok_congr hworkflows _ _ _

/-- A default feature passes in a world at rest, under valid settings that ask for no history to be
stored, exactly if

- the live run of its workflow succeeds in less than the 60 seconds of its execution timeout,
- its result is of the declared kind, and equal to the expected one if there is one,
- the directory of its fixtures is missing or can be listed, and the version of each fixture of the
  SDK can be read,
- each fixture of a version up to that of the SDK holds histories, and all of them replay. -/
theorem passes_iff (d : DefaultFeature) {config : Config} (hvalid : config.validate = .ok ())
    (hgenerate : config.generateHistory = false) {w : World} (hrest : w.AtRest config.taskQueue) :
    let scope := w.instances + 1
    let store := FixtureStore.forFeature config.fixturesDir d.dir w.sdk.name
    ((runFeature config d.prepared).run w).1 = .passed ↔
      (∃ v time, d.liveRun config.taskQueue scope w = some (.ok v, time) ∧
        time < w.clock + 60000 ∧ d.method.returns.holds v = true ∧
        ∀ e, d.expectedResult scope = some e → v.same e = true) ∧
      store.Enumerable w.files ∧ (∀ raw, store.Holds w.files raw → ∃ v, Version.parse raw = .ok v) ∧
      ∀ raw v, store.Counts w.files w.sdk.version raw v →
        ∃ histories, FixtureStore.read w.files (store.pathOf raw) = .ok histories ∧
          ∀ h ∈ histories, (d.worker config.taskQueue scope).replay h = .ok () := by
  intro scope store
  obtain ⟨r, worker, w₁, hlaunch, hopens, hready⟩ := d.ready_launch hvalid hrest
  have hqueue := Config.taskQueue_of_valid hvalid
  have hlive : d.liveRun config.taskQueue scope w₁ = d.liveRun config.taskQueue scope w := by
    rw [hopens.world]
    rfl
  -- what the launch has changed matters neither to the live run nor to the fixtures
  obtain ⟨hfailing, hiff⟩ := hready.run_eq_ok_iff hqueue hgenerate (hopens.idle hrest.toIdle)
  have hnone : (r.run.run w₁).2.server.failingShutdown = [] := by
    rw [hfailing, hopens.server]
    exact hrest.failingShutdown
  rw [run_runFeature_eq_passed_iff hlaunch hnone, hiff, hlive, ← FixtureStore.check_eq_ok_iff_replays]
  have hclock : w₁.clock = w.clock := by rw [hopens.world]
  have hfiles : w₁.files = w.files := by rw [hopens.world]
  have hname : w₁.sdk.name = w.sdk.name := by rw [hopens.sdk]
  have hversion : w₁.sdk.version = w.sdk.version := by rw [hopens.sdk]
  rw [hclock, hfiles, hname, hversion]

/-- A workflow returns what its one activity returns after five milliseconds, which is the number of
the invocation, as expected. There are no fixtures, so that the feature passes. -/
theorem greeting_passes :
    let greeting : DefaultFeature :=
      { dir := "hi"
        method := ⟨"Greeting", .number, 0⟩
        code := fun _ _ _ => .callActivity "Greet" [] .done
        activities := fun _ => some ⟨["Greet"], fun _ _ n => .sleep 5 (.done (.ok (.int n)))⟩
        expectedResult := fun _ => some (.int 1)
        parameterless := rfl
        deterministic := fun _ =>
          ⟨rfl, fun _ => .call _ _ _ (fun _ => .done _ _ rfl) fun _ _ => .done _ _ rfl⟩ }
    let config : Config := { server := "host", ns := "default", taskQueue := "queue" }
    config.validate = .ok () ∧ World.AtRest {} config.taskQueue ∧
      ((runFeature config greeting.prepared).run {}).1 = .passed := by
  intro greeting config
  have hvalid : config.validate = .ok () := by decide
  have hrest : World.AtRest {} config.taskQueue :=
    World.atRest_of_fresh ⟨.enabled, [], [], rfl⟩ rfl rfl rfl rfl _
  have hlive : greeting.liveRun config.taskQueue 1 {} = some (.ok (.int 1), 5) := rfl
  have hmissing : ({} : FileTree).list
      (Text.bytesOf (FixtureStore.forFeature config.fixturesDir greeting.dir ({} : Sdk).name).dir) =
        .error .notFound := by
    have hsegments : Path.segments "hi" = ["hi"] := by
      rw [Path.segments_eq]
      decide +kernel
    have hpush : Path.push (Path.push "features" "hi") "history" = "features/hi/history" := by
      decide +kernel
    show ({} : FileTree).list (Text.bytesOf (Path.push
      ((Path.segments "hi").foldl Path.push "features") "history")) = _
    rw [hsegments]
    show ({} : FileTree).list (Text.bytesOf (Path.push (Path.push "features" "hi") "history")) = _
    rw [hpush]
    decide +kernel
  refine ⟨hvalid, hrest, (greeting.passes_iff hvalid rfl hrest).mpr
    ⟨⟨.int 1, 5, hlive, by decide, rfl, ?_⟩, .inl hmissing, ?_, ?_⟩⟩
  · intro e he
    obtain rfl : Json.int 1 = e := Option.some.inj he
    rfl
  · rintro raw ⟨entries, hlist, -⟩
    cases hmissing.symm.trans hlist
  · rintro raw v ⟨⟨entries, hlist, -⟩, -⟩
    cases hmissing.symm.trans hlist

end DefaultFeature

end Conformance
