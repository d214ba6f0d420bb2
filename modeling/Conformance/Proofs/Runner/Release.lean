import Conformance.Proofs.Runner.Holds

/-!
# Nothing outlives a run

A run of a feature lets go of all that it has opened, whatever its script does and whatever fails on
the way. If a runner cannot be opened, everything opened up to there is let go of, and the error is
that of the step that failed.

## Main definitions

- `Runner.Holding` — what a runner holds
- `Runner.opening` — the steps of opening a runner, without the releases
- `World.ReleasedSince` — nothing is left of what was opened since a given world

## Main statements

- `Runner.ensures_exec` — scripts keep track of what is held
- `Runner.launch_eq_opening` — the result of opening a runner is that of its steps
- `nothing_outlives_run` — a run of a feature leaves nothing behind
-/

namespace Conformance

open World Program

namespace Runner

variable {w₀ : World}

/-- What a runner holds: its two connections and its current worker. -/
def Holding (w₀ : World) (r : Runner) : World → Prop :=
  Holds w₀ [r.directService, r.service] (r.feature.pollQueue r.config.taskQueue) r.manager

/-! ## Scripts -/

/-- A worker that cannot be restarted leaves what was held before. -/
theorem ensures_restartWorker (hfaults : WorkerManager.StartFails w₀) (r : Runner) :
    Ensures (r.Holding w₀) r.restartWorker (fun restarted w => restarted.2.Holding w₀ w ∧
      ∀ e, restarted.1 = .error e → r.Holding w₀ w) := by
  have hrestart := @WorkerManager.ensures_restart w₀ [r.directService, r.service] _ hfaults
    r.manager r.workerClient r.feature r.config.taskQueue rfl
  refine hrestart.bind fun restarted => ensures_pure _ ?_
  rintro w ⟨h, hsame⟩
  refine ⟨h, fun e he => ?_⟩
  rw [Holding, ← hsame e he]
  exact h

/-- Every operation leaves a runner that keeps track of what is held. -/
theorem ensures_perform (hfaults : WorkerManager.StartFails w₀) (r : Runner) (op : RunnerOp) :
    Ensures (r.Holding w₀) (r.perform op) (fun reply => reply.2.Holding w₀) := by
  by_cases hop : op = .restartWorker
  · subst hop
    exact (ensures_restartWorker hfaults r).consequence (fun _ h => h) fun _ _ h => h.1
  · intro w h
    obtain ⟨hsame, hstays⟩ := r.stays_perform hop w
    rw [hsame]
    exact h.stays hstays

/-- So does every script, also one that ends with an error. -/
theorem ensures_exec {α : Type} (hfaults : WorkerManager.StartFails w₀) (script : Script α)
    (r : Runner) :
    Ensures (r.Holding w₀) (exec script r) (fun ended => ended.2.Holding w₀) := by
  induction script generalizing r with
  | done result => exact fun w h => h
  | call op next ih =>
    exact (ensures_perform hfaults r op).bind fun reply => ih reply.1 reply.2

/-! ## Closing -/

/-- A runner that is closed holds nothing, whatever the results of the releases. -/
theorem ensures_close (r : Runner) :
    Ensures (r.Holding w₀) r.close
      (fun _ => Holds w₀ [] (r.feature.pollQueue r.config.taskQueue) {}) := by
  refine (WorkerManager.ensures_shutdown r.manager).bind fun worker => ?_
  refine (ensures_closeService r.directService).bind fun direct => ?_
  refine (ensures_closeService r.service).bind fun proxied => ?_
  exact ensures_pure _ fun w h => h

theorem ensures_releaseAll {queue : String} (ids : List ConnectionId) :
    Ensures (Holds w₀ ids queue {}) (releaseAll ids) (fun _ => Holds w₀ [] queue {}) := by
  induction ids with
  | nil => exact fun w h => h
  | cons id ids ih => exact (ensures_closeService id).bind fun _ => ih

/-! ## Opening -/

theorem ensures_connectTo {connections : List ConnectionId} {queue : String} (target : String) :
    Ensures (Holds w₀ connections queue {}) (connectTo target)
      (OnResult (fun id => Holds w₀ (id :: connections) queue {})
        (Holds w₀ connections queue {})) := by
  refine (ensures_connect target).bind fun result => ?_
  cases result with
  | ok id => exact ensures_pure _ fun w h => h
  | error e => exact ensures_pure _ fun w h => h

theorem ensures_newClient {connections : List ConnectionId} {queue : String}
    (connection : ConnectionId) (ns : String) :
    Ensures (Holds w₀ connections queue {}) (lift (World.newClient connection ns))
      (fun _ => Holds w₀ connections queue {}) :=
  ensures_of_stays (stays_lift (stays_newClient connection ns))

/-- On two open connections a runner is opened, or no worker is started. -/
theorem ensures_assemble (hfaults : WorkerManager.StartFails w₀) (config : Config)
    (prepared : PreparedFeature) (feature : Feature) (service directService : ConnectionId) :
    Ensures (Holds w₀ [directService, service] (feature.pollQueue config.taskQueue) {})
      (assemble config prepared feature service directService)
      (OnResult (fun r => r.Holding w₀)
        (Holds w₀ [directService, service] (feature.pollQueue config.taskQueue) {})) := by
  unfold assemble
  refine (ensures_newClient service _).bind fun result => ?_
  cases result with
  | error e => exact ensures_pure _ fun w h => h
  | ok client =>
    refine (ensures_newClient directService _).bind fun result => ?_
    cases result with
    | error e => exact ensures_pure _ fun w h => h
    | ok directClient =>
      let runner : Runner :=
        { config, feature, service, directService, client, directClient
          dir := prepared.dir
          methods := prepared.methods
          proxy := ⟨config.proxyControl⟩ }
      have hrestart : Ensures (runner.Holding w₀) runner.restartWorker (fun restarted w =>
          restarted.2.Holding w₀ w ∧ ∀ e, restarted.1 = .error e → runner.Holding w₀ w) :=
        ensures_restartWorker hfaults runner
      refine hrestart.bind fun restarted => ?_
      obtain ⟨result, r⟩ := restarted
      cases result with
      | error e => exact ensures_pure _ fun w h => h.2 e rfl
      | ok _ => exact ensures_pure _ fun w h => h.1

/-- A runner is opened, or nothing is held. -/
theorem ensures_openConnections (hfaults : WorkerManager.StartFails w₀) (config : Config)
    (prepared : PreparedFeature) (feature : Feature) :
    Ensures (Holds w₀ [] (feature.pollQueue config.taskQueue) {})
      (openConnections config prepared feature)
      (OnResult (fun r => r.Holding w₀)
        (Holds w₀ [] (feature.pollQueue config.taskQueue) {})) := by
  unfold openConnections
  refine (ensures_connectTo _).bind fun result => ?_
  cases result with
  | error e => exact ensures_pure _ fun w h => h
  | ok service =>
    refine (ensures_connectTo _).bind fun result => ?_
    cases result with
    | error e =>
      refine (ensures_releaseAll [service]).bind fun _ => ?_
      exact ensures_pure _ fun w h => h
    | ok directService =>
      refine (ensures_assemble hfaults config prepared feature service directService).bind
        fun result => ?_
      cases result with
      | error e =>
        refine (ensures_releaseAll [directService, service]).bind fun _ => ?_
        exact ensures_pure _ fun w h => h
      | ok r => exact ensures_pure _ fun w h => h

theorem stays_newInstance (prepared : PreparedFeature) : (newInstance prepared).Stays :=
  stays_lift fun _ => stays_of_same rfl rfl rfl

/-- Opening a runner leaves nothing behind if it fails. -/
theorem ensures_launch (hfaults : WorkerManager.StartFails w₀) (config : Config)
    (prepared : PreparedFeature) (queue : String) :
    Ensures (Holds w₀ [] queue {}) (launch config prepared)
      (OnResult (fun r => r.Holding w₀) (Holds w₀ [] queue {})) := by
  unfold launch
  cases config.validate with
  | error e => exact ensures_pure _ fun w h => h
  | ok _ =>
    refine (ensures_of_stays (stays_newInstance prepared)).bind fun feature => ?_
    cases feature.skipReason with
    | some reason => exact ensures_pure _ fun w h => h
    | none =>
      -- the queue is known once the feature is, and without a worker any queue will do
      refine (ensures_openConnections hfaults config prepared feature).consequence
        (fun w h => h.any_queue _) fun result w h => ?_
      cases result with
      | error e => exact h.any_queue _
      | ok r => exact h

/-! ## The error of the failing step -/

/-- The steps of opening a runner on two open connections. -/
def openingOn (config : Config) (prepared : PreparedFeature) (feature : Feature)
    (service directService : ConnectionId) : ExceptT Error Program Runner := do
  let client ← Program.lift (World.newClient service (feature.clientNamespace config.ns))
  let directClient ←
    Program.lift (World.newClient directService (feature.clientNamespace config.ns))
  let runner : Runner :=
    { config, feature, service, directService, client, directClient
      dir := prepared.dir
      methods := prepared.methods
      proxy := ⟨config.proxyControl⟩ }
  let (factory, worker) ← WorkerManager.build runner.workerClient feature config.taskQueue
  return { runner with manager := runner.manager.replaceWith factory worker }

/-- The steps of opening a runner, one after another up to the first that fails. Nothing is let go
of. -/
def opening (config : Config) (prepared : PreparedFeature) : ExceptT Error Program Runner := do
  ExceptT.mk (pure config.validate)
  let feature ← ExceptT.lift (newInstance prepared)
  match feature.skipReason with
  | some reason => throw (.skipped reason)
  | none =>
    let service ← connectTo (feature.serviceTarget config.server)
    let directService ← connectTo config.direct
    openingOn config prepared feature service directService

theorem sameAnswer_assemble (config : Config) (prepared : PreparedFeature) (feature : Feature)
    (service directService : ConnectionId) :
    SameAnswer (assemble config prepared feature service directService)
      (openingOn config prepared feature service directService) := by
  refine sameAnswer_bind (lift (World.newClient service _)) (fun client => ?_) fun e w => rfl
  refine sameAnswer_bind (lift (World.newClient directService _)) (fun directClient => ?_)
    fun e w => rfl
  -- the worker is built in the same way, whether or not its manager notes it
  intro w
  rw [run_bind', ExceptT.run_bind, run_bind', restartWorker, run_bind', WorkerManager.restart,
    run_bind']
  cases ((WorkerManager.build _ feature config.taskQueue).run.run w).1 with
  | ok worker => rfl
  | error e => rfl

/-- The result of opening a runner is that of its steps: the runner, or the error of the first step
that fails, but never that of a release. -/
theorem launch_eq_opening (config : Config) (prepared : PreparedFeature) :
    SameAnswer (launch config prepared) (opening config prepared) := by
  unfold launch opening
  cases config.validate with
  | error e => exact fun w => rfl
  | ok _ =>
    refine sameAnswer_lift (newInstance prepared) fun feature => ?_
    cases feature.skipReason with
    | some reason => exact fun w => rfl
    | none =>
      refine sameAnswer_bind (connectTo (feature.serviceTarget config.server))
        (fun service => ?_) fun e w => rfl
      refine sameAnswer_bind (connectTo config.direct) (fun directService => ?_) fun e w => ?_
      · intro w
        rw [← sameAnswer_assemble config prepared feature service directService w, run_bind']
        cases ((assemble config prepared feature service directService).run w).1 with
        | ok r => rfl
        | error e => exact congrArg Prod.fst (run_bind' _ _ _)
      · exact congrArg Prod.fst (run_bind' _ _ _)

end Runner

/-! ## Whole runs -/

/-- Nothing is left of what has been opened since a world: connections that have been opened are shut
down, and no worker that has been made polls. -/
structure World.ReleasedSince (w' w : World) : Prop where
  connections : ∀ id c, w'.server.connections[id]? = some c →
    w.server.connections.length ≤ id → c.isOpen = false
  pollers : ∀ queue id, w'.server.pollers.get? queue = some id → id < w.server.workers.length

theorem Holds.releasedSince {w w' : World} {queue : String} (h : Holds w [] queue {} w') :
    w'.ReleasedSince w where
  connections id c hc hid := by
    by_contra hopen
    have hisOpen : w'.server.isOpen id = true := by
      rw [Server.isOpen, hc]
      exact eq_true_of_ne_false hopen
    rcases h.connections id hisOpen with hlt | hmem
    · exact Nat.not_le_of_lt hlt hid
    · cases hmem
  pollers queue' id hid := by
    rcases h.pollers queue' id hid with hlt | ⟨-, hnone⟩
    · exact hlt
    · cases hnone

/-- A run of a feature holds nothing in the end. -/
theorem ensures_runFeature {w₀ : World} (hfaults : WorkerManager.StartFails w₀) (config : Config)
    (prepared : PreparedFeature) :
    Ensures (Holds w₀ [] config.taskQueue {}) (runFeature config prepared)
      (fun _ w => ∃ queue, Holds w₀ [] queue {} w) := by
  unfold runFeature runResult
  refine Ensures.bind (Q := fun _ w => ∃ queue, Holds w₀ [] queue {} w) ?_
    fun result => ensures_pure _ fun w h => h
  refine (Runner.ensures_launch hfaults config prepared config.taskQueue).bind fun result => ?_
  cases result with
  | error e => exact ensures_pure _ fun w h => ⟨_, h⟩
  | ok runner =>
    refine (Runner.ensures_exec hfaults runner.feature.script runner).bind fun ended => ?_
    refine (Runner.ensures_close ended.2).bind fun closed => ?_
    exact ensures_pure _ fun w h => ⟨_, h⟩

/-- When a run of a feature ends, every connection that it has opened has been shut down, and no
worker that it has made polls a queue. The same holds if its runner cannot be opened; the error is
then that of the first step that failed. -/
theorem nothing_outlives_run {s₀ : Server} {log : List Server.Exchange} {w : World}
    (h₀ : s₀.Fresh) (hserver : s₀.Run log w.server) (hfaults : WorkerManager.StartFails w)
    (config : Config) (prepared : PreparedFeature) :
    ((runFeature config prepared).run w).2.ReleasedSince w ∧
      ∀ e, ((Runner.launch config prepared).run w).1 = .error e →
        ((Runner.launch config prepared).run w).2.ReleasedSince w ∧
          ((Runner.opening config prepared).run.run w).1 = .error e := by
  have hpolled := Server.worker_of_poller h₀ hserver
  refine ⟨?_, fun e he => ⟨?_, ?_⟩⟩
  · obtain ⟨queue, hholds⟩ :=
      ensures_runFeature hfaults config prepared w (holds_start hpolled config.taskQueue)
    exact hholds.releasedSince
  · have hlaunch := Runner.ensures_launch hfaults config prepared config.taskQueue w
      (holds_start hpolled config.taskQueue)
    rw [he] at hlaunch
    exact Holds.releasedSince hlaunch
  · rw [← Runner.launch_eq_opening config prepared w]
    exact he

/-- A second connection that is refused, behind a first one whose shutdown reports an error. -/
theorem nothing_outlives_refused_run :
    let w : World := { server := { refused := ["direct"], failingShutdown := ["proxy"] } }
    let config : Config :=
      { server := "proxy", directServer := some "direct", ns := "default", taskQueue := "queue" }
    let prepared : PreparedFeature := ⟨"basic", fun _ => { workflows := [] }⟩
    let refusal : Error := .connection "direct" "connection refused"
    ((runFeature config prepared).run w).2.ReleasedSince w ∧
      ((Runner.launch config prepared).run w).2.ReleasedSince w ∧
      ((Runner.launch config prepared).run w).2.server.connections.length = 1 ∧
      ((Runner.opening config prepared).run.run w).1 = .error refusal := by
  intro w config prepared refusal
  have hrefused : ((Runner.launch config prepared).run w).1 = .error refusal := by
    subst w config prepared refusal
    rfl
  have hopened : ((Runner.launch config prepared).run w).2.server.connections.length = 1 := by
    subst w config prepared
    rfl
  have hfresh : w.server.Fresh := ⟨.enabled, ["direct"], ["proxy"], rfl⟩
  have hstarts : WorkerManager.StartFails w := fun fault hmem => nomatch hmem
  have hrun := nothing_outlives_run hfresh .start hstarts config prepared
  exact ⟨hrun.1, (hrun.2 refusal hrefused).1, hopened, (hrun.2 refusal hrefused).2⟩

end Conformance
