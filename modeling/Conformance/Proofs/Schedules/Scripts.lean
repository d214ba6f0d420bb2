import Conformance.Proofs.Alone.Scripts
import Conformance.Proofs.History.Reloading
import Conformance.Proofs.Proxy.Bracketing
import Conformance.Proofs.Schedules.Opening

/-!
# Scripts in every schedule

How the scripts of features go in a dormant world: nothing happens between their operations, so that each
of them does what it does alone. What is started in the end is not dormant any more.

## Main definitions

- `World.Consults` — worlds that differ in what a check of histories leaves
- `FixtureStore.Accepts` — the stored histories replay, with the one that is stored now if there is one
- `World.closed` — a world after a runner has been closed

## Main statements

- `Runner.goes_exec_bind`, `Runner.goes_exec_error` — scripts one after another
- `Runner.goes_executeSingleParameterlessWorkflow` — the only workflow is started
- `Runner.goes_checkHistories` — the histories are accepted
- `Runner.goes_close` — everything is released
- `surely_runFeature` — a run, from its launch to its end
-/

namespace Conformance

theorem Program.bind_done {α : Type} (p : Program α) : p.bind .done = p := by
  induction p with
  | done a => rfl
  | act change next ih => exact congrArg (act change) (funext ih)
  | await ready deadline next ih => exact congrArg (await ready deadline) (funext ih)

namespace Runner

open World Program

variable {α β : Type} {Inv : World → Prop} {Q : Except Error β × Runner → World → Prop}
  {r r' : Runner} {w w' : World} {e : Error}

/-! ## Operations one after another -/

theorem exec_perform (op : RunnerOp) (r : Runner) : exec (Script.perform op) r = r.perform op :=
  bind_done _

/-- A script goes on with the value of the one before it, whatever the schedule has been. -/
theorem surely_exec_bind {R : Except Error α × Runner → World → Prop} {script : Script α}
    {next : α → Script β} (h : Surely Inv R (exec script r, w))
    (hnext : ∀ x w, R x w → ∃ a r', x = (.ok a, r') ∧ Surely Inv Q (exec (next a) r', w)) :
    Surely Inv Q (exec (script >>= next) r, w) := by
  show Surely Inv Q (exec (script.bind next) r, w)
  rw [exec_bind]
  refine h.bind fun x w hx => ?_
  obtain ⟨a, r', rfl, hgoes⟩ := hnext x w hx
  exact hgoes

/-- An error ends it, whatever the schedule has been. -/
theorem surely_exec_error {E : World → Prop} {script : Script α} {next : α → Script β}
    (h : Surely Inv (fun x w => x = (.error e, r') ∧ E w) (exec script r, w))
    (hinv : ∀ w, E w → Inv w) :
    Surely Inv (fun x w => x = (.error e, r') ∧ E w) (exec (script >>= next) r, w) := by
  show Surely Inv _ (exec (script.bind next) r, w)
  rw [exec_bind]
  refine h.bind fun x v hx => ?_
  rw [hx.1]
  exact .done (hinv v hx.2) ⟨rfl, hx.2⟩

theorem goes_exec_bind {script : Script α} {next : α → Script β} {a : α}
    (h : Goes Inv (exec script r) w (.ok a, r') w')
    (hnext : Surely Inv Q (exec (next a) r', w')) : Surely Inv Q (exec (script >>= next) r, w) := by
  refine surely_exec_bind h fun x v hx => ?_
  rw [hx.1, hx.2]
  exact ⟨a, r', rfl, hnext⟩

/-- An error ends a script. -/
theorem goes_exec_error {script : Script α} {next : α → Script β}
    (h : Goes Inv (exec script r) w (.error e, r') w') (hinv : Inv w') :
    Goes Inv (exec (script >>= next) r) w (.error e, r') w' := by
  show Surely Inv _ (exec (script.bind next) r, w)
  rw [exec_bind]
  exact h.surely (.done hinv ⟨rfl, rfl⟩)

/-- A script goes on with the reply to an operation. -/
theorem goes_perform_bind (op : RunnerOp) {reply : op.Reply} {next : op.Reply → Script β}
    (h : Goes Inv (r.perform op) w (.ok reply, r') w')
    (hnext : Surely Inv Q (exec (next reply) r', w')) :
    Surely Inv Q (exec (Script.perform op >>= next) r, w) := by
  rw [← exec_perform] at h
  exact goes_exec_bind h hnext

theorem goes_perform_error (op : RunnerOp) {next : op.Reply → Script β}
    (h : Goes Inv (r.perform op) w (.error e, r') w') (hinv : Inv w') :
    Goes Inv (exec (Script.perform op >>= next) r) w (.error e, r') w' := by
  rw [← exec_perform] at h
  exact goes_exec_error h hinv

theorem goes_done {a : α} (hinv : Inv w) : Goes Inv (exec (pure a : Script α) r) w (.ok a, r) w :=
  goes_pure hinv

/-- An operation that is one action. -/
theorem goes_action (action : World → α × World) {a : α} (hw : w.Dormant) (hinv : Inv w)
    (h : action w = (a, w')) (hinv' : Inv w') (r : Runner) :
    Goes Inv (do return (← lift action, r)) w (a, r) w' :=
  (goes_lift hw hinv h hinv').bind (goes_pure hinv')

theorem goes_view (hw : w.Dormant) (hinv : Inv w) (r : Runner) :
    Goes Inv (r.perform .view) w (.ok (r.view w), r) w :=
  (goes_look r.view hw hinv).bind (goes_pure hinv)

theorem goes_consultWorker (hw : w.Dormant) (hinv : Inv w) {id : WorkerId} {x : Worker}
    (hcurrent : r.manager.worker = .ok id) (hx : w.server.worker? id = some x)
    (check : Worker → Except Error Unit) :
    Goes Inv (r.perform (.consultWorker check)) w (check x, r) w := by
  have hconsult : w.withWorker id check = check x := by
    unfold withWorker
    rw [hx]
  have hworker : r.onWorker (fun id w => (w.withWorker id check, w)) =
      lift fun w => (w.withWorker id check, w) := by
    unfold onWorker
    rw [hcurrent]
  show Goes Inv (r.onWorker _ >>= fun result => pure (result, r)) w _ w
  rw [hworker, ← hconsult]
  exact goes_action (fun w => (w.withWorker id check, w)) hw hinv rfl hinv r

/-! ## Starting the only workflow -/

theorem goes_singleMethod (hw : w.Dormant) (hinv : Inv w) {method : WorkflowMethod}
    (hmethods : r.methods = [method]) :
    Goes Inv (exec Script.singleMethod r) w (.ok method, r) w := by
  have hview : (r.view w).methods = [method] := hmethods
  refine goes_perform_bind _ (goes_view hw hinv r) ?_
  rw [hview]
  exact goes_done hinv

/-- The only workflow is started with the options of the feature. -/
theorem goes_executeSingleParameterlessWorkflow (hw : w.Dormant) (hinv : Inv w)
    {method : WorkflowMethod} {e : Execution} (hmethods : r.methods = [method])
    (harity : method.arity = 0)
    (hstart : World.startWorkflow r.initiatorClient method.name r.workflowOptions [] w = (.ok e, w'))
    (hinv' : Inv w') :
    Goes Inv (exec Script.executeSingleParameterlessWorkflow r) w (.ok ⟨method, e⟩, r) w' := by
  refine goes_exec_bind (goes_singleMethod hw hinv hmethods) ?_
  rw [if_neg (not_not.mpr harity)]
  refine goes_exec_bind (a := e) ?_ (goes_done hinv')
  refine goes_perform_bind _ (goes_view hw hinv r) ?_
  rw [exec_perform]
  exact goes_action _ hw hinv hstart hinv' r

/-! ## Checks -/

/-- A result that is of the declared kind, and as expected, is accepted. -/
theorem surely_checkResult {E : World → Prop} {run : Run} {v expected : Json}
    (h : Surely Inv (fun answer w => answer = .ok v ∧ E w) (Program.result run.execution, w))
    (hinv : ∀ w, E w → Inv w) (hholds : run.method.returns.holds v = true)
    (hsame : v.same expected = true) :
    Surely Inv (fun x w => x = (.ok (), r) ∧ E w)
      (exec (Script.checkResult (some expected) run) r, w) := by
  have hresult : Surely Inv (fun x w => x = (.ok v, r) ∧ E w)
      (exec (Script.waitForRunResult run) r, w) := by
    have hperform : Surely Inv (fun x w => x = (.ok v, r) ∧ E w)
        (exec (Script.perform (.result run.execution)) r, w) := by
      rw [exec_perform]
      refine Surely.bind h fun answer v' hanswer => .done (hinv v' hanswer.2) ⟨?_, hanswer.2⟩
      rw [hanswer.1]
    refine surely_exec_bind hperform fun x v' hx => ⟨v, r, hx.1, ?_⟩
    rw [if_pos hholds]
    exact .done (hinv v' hx.2) ⟨rfl, hx.2⟩
  refine surely_exec_bind hresult fun x v' hx => ⟨v, r, hx.1, ?_⟩
  show Surely Inv _ (exec (if v.same expected = true then _ else _) r, v')
  rw [if_pos hsame]
  exact .done (hinv v' hx.2) ⟨rfl, hx.2⟩

end Runner

/-- The worlds differ in files, and in calls that asked for histories, only. -/
structure World.Consults (w w' : World) : Prop where
  world : w' = { w with server := w'.server, files := w'.files }
  server : w'.server = { w.server with calls := w'.server.calls }
  calls : ∃ log, w'.server.calls = w.server.calls ++ log ∧ ∀ c ∈ log, c.operation = .fetchHistory

namespace World

variable {w w' w'' : World}

theorem Consults.refl (w : World) : w.Consults w := ⟨rfl, rfl, [], (List.append_nil _).symm, nofun⟩

theorem Consults.trans (h : w.Consults w') (h' : w'.Consults w'') : w.Consults w'' := by
  obtain ⟨log, hlog, hfetches⟩ := h.calls
  obtain ⟨log', hlog', hfetches'⟩ := h'.calls
  have hworld := h'.world
  have hserver := h'.server
  rw [h.world] at hworld
  rw [h.server] at hserver
  refine ⟨hworld, hserver, log ++ log', ?_, ?_⟩
  · rw [hlog', hlog, List.append_assoc]
  · intro c hc
    exact (List.mem_append.mp hc).elim (hfetches c) (hfetches' c)

theorem Consults.dormant (h : w.Consults w') (hw : w.Dormant) : w'.Dormant := by
  refine hw.of_same ?_ ?_ ?_
  · rw [h.server]
  · rw [h.world]
  · rw [h.world]

theorem consults_record (w : World) (target : String) (ns : Option String) :
    w.Consults { w with server := w.server.record target .fetchHistory ns } :=
  ⟨rfl, rfl, _, rfl, fun _ hc => (List.mem_singleton.mp hc) ▸ rfl⟩

theorem consults_files (w : World) (files : FileTree) : w.Consults { w with files } :=
  ⟨rfl, rfl, [], (List.append_nil _).symm, nofun⟩

end World

/-- All stored histories replay: those that are there, and the one that is stored now if there is one. -/
def FixtureStore.Accepts (s : FixtureStore) (files : FileTree) (current : Version) (x : Worker)
    (generated : Option History) : Prop :=
  match generated with
  | none => s.check files current x = .ok ()
  | some h => ∃ path files', s.store files current.text [h] = (.ok path, files') ∧
    s.check files' current x = .ok ()

/-- Where nothing is stored, nothing can fail to replay. -/
theorem FixtureStore.accepts_of_missing {s : FixtureStore} {files : FileTree}
    (h : files.list (Text.bytesOf s.dir) = .error .notFound) (current : Version) (x : Worker) :
    s.Accepts files current x none := by
  show s.check files current x = .ok ()
  unfold check loadUpTo
  rw [discover_of_missing h]
  rfl

namespace Runner

open World Program

variable {α β : Type} {Inv : World → Prop} {r : Runner} {w : World} {e : Error}

section

variable (hw : w.Dormant) (hinv : ∀ v, w.Consults v → Inv v)
include hw hinv

theorem goes_history {x : Execution} {record : ExecutionRecord}
    (hopen : w.server.isOpen r.initiatorService = true)
    (hrecord : w.server.executions.get? x.workflowId = some record) (hsame : record.execution = x) :
    ∃ v, w.Consults v ∧ v.files = w.files ∧
      Goes Inv (r.perform (.history x)) w (.ok record.history, r) v := by
  have hconsults := consults_record w (w.server.targetOf r.initiatorService) (some r.config.ns)
  exact ⟨_, hconsults, rfl, goes_action _ hw (hinv w (.refl w))
    (fetchHistory_of_get? hopen hrecord hsame r.config.ns) (hinv _ hconsults) r⟩

/-- The stored histories are loaded and replayed. -/
theorem goes_checkPast {id : WorkerId} {x : Worker} (hcurrent : r.manager.worker = .ok id)
    (hx : w.server.worker? id = some x)
    (hcheck : (r.fixtures w).check w.files w.sdk.version x = .ok ()) :
    Goes Inv (exec (do
      let past ← Script.perform .loadPast
      Script.perform (.consultWorker fun w => verifyPast w past)) r) w (.ok (), r) w := by
  have hinv₀ := hinv w (.refl w)
  have hload : Goes Inv (r.perform .loadPast) w
      ((r.fixtures w).loadUpTo w.files w.sdk.version, r) w :=
    (goes_look (fun w => (r.fixtures w).loadUpTo w.files w.sdk.version) hw hinv₀).bind
      (goes_pure hinv₀)
  unfold FixtureStore.check at hcheck
  cases hpast : (r.fixtures w).loadUpTo w.files w.sdk.version with
  | error e =>
    rw [hpast] at hcheck
    cases hcheck
  | ok past =>
    rw [hpast] at hcheck hload
    refine goes_perform_bind _ hload ?_
    have hverify := goes_consultWorker hw hinv₀ hcurrent hx fun w => verifyPast w past
    rw [show verifyPast x past = .ok () from hcheck] at hverify
    rw [exec_perform]
    exact hverify

/-- The live history is stored if it has to be, and the stored histories are loaded and replayed. -/
theorem goes_checkStored {id : WorkerId} {x : Worker} {h : History} (hcurrent : r.manager.worker = .ok id)
    (hx : w.server.worker? id = some x)
    (haccepts : (r.fixtures w).Accepts w.files w.sdk.version x
      (if r.config.generateHistory = true then some h else none)) :
    ∃ v, w.Consults v ∧ Goes Inv (exec (do
      if (← Script.perform .view).config.generateHistory then
        let _ ← Script.perform (.storeHistories [h])
      let past ← Script.perform .loadPast
      Script.perform (.consultWorker fun w => verifyPast w past)) r) w (.ok (), r) v := by
  have hinv₀ := hinv w (.refl w)
  unfold FixtureStore.Accepts at haccepts
  by_cases hgenerate : r.config.generateHistory = true
  · rw [if_pos hgenerate] at haccepts
    obtain ⟨path, files, hstore, hcheck⟩ := haccepts
    have hconsults := consults_files w files
    have hstores : r.storeHistories [h] w = (.ok path, { w with files }) := by
      unfold storeHistories
      rw [hstore]
    refine ⟨_, hconsults, goes_perform_bind _ (goes_view hw hinv₀ r) ?_⟩
    show Surely Inv _ (exec (if r.config.generateHistory = true then _ else _) r, w)
    rw [if_pos hgenerate]
    refine goes_perform_bind _ (goes_action _ hw hinv₀ hstores (hinv _ hconsults) r) ?_
    -- the tree with the new file is the one that is read
    exact goes_checkPast (hconsults.dormant hw) (fun v hv => hinv v (hconsults.trans hv)) hcurrent hx
      hcheck
  · rw [if_neg hgenerate] at haccepts
    refine ⟨_, .refl w, goes_perform_bind _ (goes_view hw hinv₀ r) ?_⟩
    show Surely Inv _ (exec (if r.config.generateHistory = true then _ else _) r, w)
    rw [if_neg hgenerate]
    exact goes_checkPast hw hinv hcurrent hx haccepts

end

/-- The live history replays, and so do those that are stored. -/
theorem goes_checkHistories (hw : w.Dormant) (hinv : ∀ v, w.Consults v → Inv v) {run : Run}
    {record : ExecutionRecord} {id : WorkerId} {x : Worker}
    (hopen : w.server.isOpen r.initiatorService = true)
    (hrecord : w.server.executions.get? run.execution.workflowId = some record)
    (hsame : record.execution = run.execution) (hcurrent : r.manager.worker = .ok id)
    (hx : w.server.worker? id = some x) (hlive : x.replay record.history = .ok ())
    (haccepts : (r.fixtures w).Accepts w.files w.sdk.version x
      (if r.config.generateHistory = true then some record.history else none)) :
    ∃ v, w.Consults v ∧ Goes Inv (exec (Script.checkHistories run) r) w (.ok (), r) v := by
  obtain ⟨w₁, hconsults₁, hfiles₁, hfetch⟩ :=
    goes_history (r := r) hw hinv hopen hrecord hsame
  have hw₁ := hconsults₁.dormant hw
  have hsdk₁ : w₁.sdk = w.sdk := by rw [hconsults₁.world]
  have hx₁ : w₁.server.worker? id = some x := by
    rw [hconsults₁.server]
    exact hx
  have hfixtures : r.fixtures w₁ = r.fixtures w := by
    unfold fixtures
    rw [hsdk₁]
  have hinv₁ := hinv w₁ hconsults₁
  have hverify := goes_consultWorker hw₁ hinv₁ hcurrent hx₁ fun w => verifyCurrent w record.history
  have hcurrentOk : verifyCurrent x record.history = .ok () := by
    unfold verifyCurrent
    rw [hlive]
  rw [hcurrentOk] at hverify
  rw [← hfixtures, ← hsdk₁, ← hfiles₁] at haccepts
  obtain ⟨v, hconsults, hgoes⟩ := goes_checkStored hw₁ (fun v hv => hinv v (hconsults₁.trans hv))
    hcurrent hx₁ haccepts
  exact ⟨v, hconsults₁.trans hconsults, goes_perform_bind _ hfetch (goes_perform_bind _ hverify hgoes)⟩

/-- No update has been rejected on record. -/
theorem goes_requireNoUpdateRejected (hw : w.Dormant) (hinv : ∀ v, w.Consults v → Inv v) {run : Run}
    {record : ExecutionRecord} (hopen : w.server.isOpen r.initiatorService = true)
    (hrecord : w.server.executions.get? run.execution.workflowId = some record)
    (hsame : record.execution = run.execution)
    (hnone : record.history.find? .workflowExecutionUpdateRejected = none) :
    ∃ v, w.Consults v ∧ v.files = w.files ∧
      Goes Inv (exec (Script.requireNoUpdateRejected run) r) w (.ok (), r) v := by
  obtain ⟨v, hconsults, hfiles, hfetch⟩ := goes_history (r := r) hw hinv hopen hrecord hsame
  refine ⟨v, hconsults, hfiles, goes_perform_bind _ hfetch ?_⟩
  rw [hnone]
  exact goes_done (hinv v hconsults)

/-! ## Latches -/

theorem goes_openLatch (hw : w.Dormant) (hinv : Inv w) {latch : SignalId}
    (hinv' : Inv (w.openLatch latch)) (r : Runner) :
    Goes Inv (r.perform (.openLatch latch)) w (.ok (), r) (w.openLatch latch) :=
  (goes_change (fun w => w.openLatch latch) hw hinv hinv').bind (goes_pure hinv')

/-- A latch that is opened in time. -/
theorem surely_awaitLatch {latch : SignalId} {limit : Duration} {E : World → Prop}
    (hinv : ∀ w, E w → Inv w)
    (h : Surely Inv (fun met w => met = true ∧ E w)
      (waitFor (fun w => w.signals.isOpen latch) limit, w)) :
    Surely Inv (fun x w => x = (.ok true, r) ∧ E w)
      (exec (Script.perform (.awaitLatch latch limit)) r, w) := by
  rw [exec_perform]
  refine Surely.bind h fun met v hmet => .done (hinv v hmet.2) ⟨?_, hmet.2⟩
  rw [hmet.1]

end Runner

/-! ## Stopping workers and closing connections -/

/-- The worlds differ in factories, in connections, in who polls, and in releases that are on record, only;
nothing polls that has not polled before. -/
structure World.Closes (w w' : World) : Prop where
  world : w' = { w with server := w'.server, factories := w'.factories }
  server : w'.server = { w.server with
    pollers := w'.server.pollers, connections := w'.server.connections, calls := w'.server.calls }
  pollers : ∀ queue, w.server.pollers.get? queue = none → w'.server.pollers.get? queue = none
  calls : ∃ log, w'.server.calls = w.server.calls ++ log ∧
    ∀ c ∈ log, c.operation = .shutdownWorkerFactory ∨ c.operation = .shutdownService

namespace World

variable {w w' w'' : World}

theorem Closes.refl (w : World) : w.Closes w :=
  ⟨rfl, rfl, fun _ h => h, [], (List.append_nil _).symm, nofun⟩

theorem Closes.trans (h : w.Closes w') (h' : w'.Closes w'') : w.Closes w'' := by
  obtain ⟨log, hlog, hreleases⟩ := h.calls
  obtain ⟨log', hlog', hreleases'⟩ := h'.calls
  have hworld := h'.world
  have hserver := h'.server
  rw [h.world] at hworld
  rw [h.server] at hserver
  refine ⟨hworld, hserver, fun queue hnone => h'.pollers queue (h.pollers queue hnone),
    log ++ log', ?_, ?_⟩
  · rw [hlog', hlog, List.append_assoc]
  · intro c hc
    exact (List.mem_append.mp hc).elim (hreleases c) (hreleases' c)

theorem Closes.dormant (h : w.Closes w') (hw : w.Dormant) : w'.Dormant := by
  refine hw.of_same ?_ ?_ ?_
  · rw [h.server]
  · rw [h.world]
  · rw [h.world]

theorem Closes.failingShutdown (h : w.Closes w') (hfailing : w.server.failingShutdown = []) :
    w'.server.failingShutdown = [] := by
  rw [h.server]
  exact hfailing

/-- The world after a factory with one worker has been stopped. -/
def stopped (w : World) (factory : FactoryId) (target : String) (worker : WorkerId) : World :=
  { w with
    factories := w.factories.modify factory fun f => { f with running := false }
    server := { w.server with
      pollers := (w.server.detach worker).pollers
      calls := w.server.calls ++ [⟨target, .shutdownWorkerFactory, none⟩] } }

theorem factory?_stopped {factory : FactoryId} {target : String} {worker : WorkerId}
    {f : WorkerFactory} (hf : w.factory? factory = some f) :
    (w.stopped factory target worker).factory? factory = some { f with running := false } := by
  have hget : w.factories[factory]? = some f := hf
  show (w.factories.modify factory _)[factory]? = _
  rw [List.getElem?_modify, hget]
  exact congrArg some (if_pos rfl)

theorem shutdownFactory_of_get? {factory : FactoryId} {target : String} {worker : WorkerId}
    {running : Bool} (hfactory : w.factory? factory = some ⟨target, [worker], running⟩)
    (hfailing : w.server.failingShutdown = []) :
    shutdownFactory factory w = (.ok (), w.stopped factory target worker) := by
  have hdetach := Server.detach_eq w.server worker
  have hnone : (w.server.detach worker).failingShutdown = [] := by
    rw [hdetach]
    exact hfailing
  have hrecord : (w.server.detach worker).record target .shutdownWorkerFactory =
      (w.stopped factory target worker).server := by
    rw [hdetach]
    rfl
  unfold shutdownFactory
  rw [hfactory]
  show (((w.server.detach worker).release target .shutdownWorkerFactory).1, { w with
    factories := w.factories.modify factory fun f => { f with running := false }
    server := ((w.server.detach worker).release target .shutdownWorkerFactory).2 }) = _
  rw [Server.release_of_none_failing hnone, hrecord]
  rfl

/-- A worker that is stopped does not poll any more. -/
theorem pollers_detach {s : Server} {worker : WorkerId} {x : Worker} (hx : s.worker? worker = some x)
    (hpolls : ∀ other, s.pollers.get? x.taskQueue = some other → other = worker) :
    (s.detach worker).pollers.get? x.taskQueue = none := by
  unfold Server.detach
  rw [hx]
  dsimp only
  split
  · exact (Table.get?_erase ..).trans (if_pos rfl)
  · rename_i hnot
    refine Option.eq_none_iff_forall_ne_some.mpr fun other hother => hnot ?_
    rw [← hpolls other hother]
    exact hother

theorem closes_stopped (w : World) (factory : FactoryId) (target : String) (worker : WorkerId) :
    w.Closes (w.stopped factory target worker) := by
  refine ⟨rfl, rfl, fun queue hnone => ?_, _, rfl, fun c hc => ?_⟩
  · show (w.server.detach worker).pollers.get? queue = none
    unfold Server.detach
    split
    · exact hnone
    · split
      · rw [Table.get?_erase, hnone]
        exact ite_self none
      · exact hnone
  · rw [List.mem_singleton.mp hc]
    exact .inl rfl

theorem closes_closeService (hfailing : w.server.failingShutdown = []) (id : ConnectionId) :
    ∃ w', closeService id w = (.ok (), w') ∧ w.Closes w' := by
  let closed : Server := { w.server with
    connections := w.server.connections.modify id fun c => { c with isOpen := false } }
  have hclose : closeService id w =
      (.ok (), { w with server := closed.record (closed.targetOf id) .shutdownService }) := by
    show ((closed.release (closed.targetOf id) .shutdownService).1, { w with
      server := (closed.release (closed.targetOf id) .shutdownService).2 }) = _
    rw [Server.release_of_none_failing (s := closed) hfailing]
  refine ⟨_, hclose, rfl, rfl, fun _ h => h, _, rfl, fun c hc => ?_⟩
  rw [List.mem_singleton.mp hc]
  exact .inr rfl

end World

namespace Runner

open World Program

variable {Inv : World → Prop} {r : Runner} {w : World} {factory : FactoryId} {worker : WorkerId}
  {target : String} {running : Bool}

theorem goes_shutdown (hw : w.Dormant) (hinv : Inv w)
    (hcurrent : r.manager.factory? = some factory)
    (hfactory : w.factory? factory = some ⟨target, [worker], running⟩)
    (hfailing : w.server.failingShutdown = []) (hinv' : Inv (w.stopped factory target worker)) :
    Goes Inv r.manager.shutdown w (.ok ()) (w.stopped factory target worker) := by
  have hshutdown : r.manager.shutdown = lift (World.shutdownFactory factory) := by
    unfold WorkerManager.shutdown
    rw [hcurrent]
  rw [hshutdown]
  exact goes_lift hw hinv (shutdownFactory_of_get? hfactory hfailing) hinv'

/-- Everything that a runner has opened is released, and no release fails. -/
theorem goes_close (hw : w.Dormant) (hinv : ∀ v, w.Closes v → Inv v)
    (hcurrent : r.manager.factory? = some factory)
    (hfactory : w.factory? factory = some ⟨target, [worker], running⟩)
    (hfailing : w.server.failingShutdown = []) :
    ∃ v, w.Closes v ∧ Goes Inv r.close w (.ok ()) v := by
  have hcloses₁ := closes_stopped w factory target worker
  have hstops := goes_shutdown hw (hinv w (.refl w)) hcurrent hfactory hfailing (hinv _ hcloses₁)
  obtain ⟨w₂, hdirect, hclose₂⟩ :=
    closes_closeService (hcloses₁.failingShutdown hfailing) r.directService
  have hcloses₂ := hcloses₁.trans hclose₂
  obtain ⟨w₃, hproxied, hclose₃⟩ :=
    closes_closeService (hcloses₂.failingShutdown hfailing) r.service
  have hcloses₃ := hcloses₂.trans hclose₃
  refine ⟨w₃, hcloses₃, ?_⟩
  unfold close
  refine hstops.bind ?_
  refine (goes_lift (hcloses₁.dormant hw) (hinv _ hcloses₁) hdirect (hinv _ hcloses₂)).bind ?_
  refine (goes_lift (hcloses₂.dormant hw) (hinv _ hcloses₂) hproxied (hinv _ hcloses₃)).bind ?_
  exact goes_pure (hinv _ hcloses₃)

end Runner

/-! ## A whole run -/

/-- A run that is opened ends as its script does, once everything has been released. -/
theorem surely_runFeature {Inv : World → Prop} {Q : Outcome → World → Prop} {config : Config}
    {prepared : PreparedFeature} {r : Runner} {w w₁ : World}
    {R : Except Error Unit × Runner → World → Prop}
    (hlaunch : Program.Goes Inv (Runner.launch config prepared) w (.ok r) w₁)
    (hrun : Program.Surely Inv R (r.run, w₁))
    (hclose : ∀ result r' v, R (result, r') v → ∃ v', Program.Goes Inv r'.close v (.ok ()) v' ∧
      Inv v' ∧ Q (Outcome.ofResult result) v') :
    Program.Surely Inv Q (runFeature config prepared, w) := by
  have hresult : Program.Surely Inv (fun result v => Inv v ∧ Q (Outcome.ofResult result) v)
      (runResult config prepared, w) := by
    refine hlaunch.surely (hrun.bind fun x v hx => ?_)
    obtain ⟨v', hgoes, hinv, hQ⟩ := hclose x.1 x.2 v hx
    refine hgoes.surely (.done hinv ⟨hinv, ?_⟩)
    have hclosing : closing x.1 (.ok ()) = x.1 := by
      cases x.1 <;> rfl
    rw [hclosing]
    exact hQ
  exact hresult.bind fun result v hv => .done hv.1 hv.2

end Conformance
