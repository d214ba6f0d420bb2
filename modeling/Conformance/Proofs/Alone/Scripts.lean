import Conformance.Proofs.History.PastReplays
import Conformance.Proofs.Runner.Lifecycle
import Conformance.Proofs.Server.Requests

/-!
# Scripts and releases that succeed

What the default scripts of a feature end with, where the calls that they make succeed: the only
workflow is started, its result is waited for and checked, and its history is verified together with
those stored before. Where no release fails, the script decides.

## Main statements

- `Server.accept_eq` — a run is started together with its task
- `Runner.run_executeSingleParameterlessWorkflow` — the only workflow is started
- `Runner.run_checkResult` — when a result is accepted
- `Runner.run_checkHistories` — the stored histories decide where the live one replays
- `run_runFeature_eq_passed_iff` — a feature passes if its script succeeds
-/

namespace Conformance

/-! ## Starting a run -/

/-- Valid settings name a task queue. -/
theorem Config.taskQueue_of_valid {config : Config} (h : config.validate = .ok ()) :
    config.taskQueue.isEmpty = false := by
  have hblank := (config.validate_eq_ok_iff.mp h) ("task queue", config.taskQueue) (by simp [needed])
  refine Bool.eq_false_iff.mpr fun hempty => ?_
  rw [String.isEmpty_iff.mp hempty] at hblank
  cases hblank

/-- Where a worker polls, a run that is accepted gets its task at once. -/
theorem Server.accept_eq {s : Server} {options : WorkflowOptions} {worker : WorkerId}
    (hpolls : s.pollers.get? options.taskQueue = some worker) (target : String)
    (ns : Option String) (workflowType : String) (args : List Json) (e : Execution) :
    s.accept target ns workflowType options args e = { s with
      executions := s.executions.insert e.workflowId (newRecord e workflowType options args)
      tasks := s.tasks ++ [{ workflowId := e.workflowId, worker }]
      starts := s.starts + 1
      calls := (s.record target .startWorkflow ns).calls } := by
  unfold accept dispatch
  split
  case h_1 other hother =>
    obtain rfl : worker = other := Option.some.inj (hpolls.symm.trans hother)
    rfl
  case h_2 hnone => cases hpolls.symm.trans hnone

theorem Server.addressed_of_get? {s : Server} {e : Execution} {r : ExecutionRecord}
    (hr : s.executions.get? e.workflowId = some r) (hsame : r.execution = e) :
    s.addressed e = .ok r := by
  have hanswers : r.answersTo e = true := by simp [ExecutionRecord.answersTo, hsame]
  unfold addressed
  rw [hr]
  exact if_pos hanswers

/-- The history of the latest run of a workflow id is given out over an open connection. -/
theorem World.fetchHistory_of_get? {w : World} {connection : ConnectionId} {e : Execution}
    {r : ExecutionRecord} (hopen : w.server.isOpen connection = true)
    (hr : w.server.executions.get? e.workflowId = some r) (hsame : r.execution = e) (ns : String) :
    World.fetchHistory connection ns e w = (.ok r.history, { w with
      server := w.server.record (w.server.targetOf connection) .fetchHistory (some ns) }) := by
  have haddressed : (w.server.record (w.server.targetOf connection) .fetchHistory
      (some ns)).addressed e = .ok r :=
    Server.addressed_of_get? hr hsame
  unfold fetchHistory asking
  dsimp only
  rw [if_pos hopen]
  show ((Server.addressed _ e).map (·.history), _) = _
  rw [haddressed]
  rfl

/-! ## Scripts that go on -/

namespace Runner

variable {α : Type} {r r' : Runner} {w w' : World}

theorem run_exec_perform (op : RunnerOp) (r : Runner) (w : World) :
    (exec (Script.perform op) r).run w = (r.perform op).run w := by
  show (Program.bind (r.perform op) fun x => .done (x.1, x.2)).run w = _
  rw [Program.run_bind]
  rfl

theorem run_exec_perform_of_ok {op : RunnerOp} {reply : op.Reply}
    (h : (r.perform op).run w = ((.ok reply, r'), w')) (next : op.Reply → Script α) :
    (exec (Script.perform op >>= next) r).run w = (exec (next reply) r').run w' := by
  rw [run_exec_bind, run_exec_perform, h]

theorem run_exec_perform_of_error {op : RunnerOp} {e : Error}
    (h : (r.perform op).run w = ((.error e, r'), w')) (next : op.Reply → Script α) :
    (exec (Script.perform op >>= next) r).run w = ((.error e, r'), w') := by
  rw [run_exec_bind, run_exec_perform, h]

theorem run_view (r : Runner) (w : World) :
    (r.perform .view).run w = ((.ok (r.view w), r), w) := rfl

theorem run_singleMethod {method : WorkflowMethod} (hmethods : r.methods = [method]) (w : World) :
    (exec Script.singleMethod r).run w = ((.ok method, r), w) := by
  unfold Script.singleMethod
  have hview : (r.view w).methods = [method] := hmethods
  rw [run_exec_perform_of_ok (run_view r w)]
  simp only [hview]
  rfl

theorem run_executeSingleParameterlessWorkflow {method : WorkflowMethod} {e : Execution}
    (hmethods : r.methods = [method]) (harity : method.arity = 0)
    (hstart : World.startWorkflow r.initiatorClient method.name r.workflowOptions [] w =
      (.ok e, w')) :
    (exec Script.executeSingleParameterlessWorkflow r).run w = ((.ok ⟨method, e⟩, r), w') := by
  have hperform : (r.perform (.startWorkflow method.name r.workflowOptions [])).run w =
      ((.ok e, r), w') := by
    unfold perform
    rw [Program.run_bind', Program.run_lift, hstart]
    rfl
  have hexecute : (exec (Script.executeWorkflow method.name []) r).run w = ((.ok e, r), w') := by
    unfold Script.executeWorkflow
    rw [run_exec_perform_of_ok (run_view r w)]
    exact (run_exec_perform _ r w).trans hperform
  unfold Script.executeSingleParameterlessWorkflow
  rw [run_exec_bind, run_singleMethod hmethods]
  dsimp only
  rw [if_neg (not_not.mpr harity), run_exec_bind, hexecute]
  rfl

/-! ## Checks -/

/-- A call for a result waits, and looks then. -/
theorem run_result_of_ok {e : Execution} {sub : Server.Subscription}
    (h : w.server.subscribe e = .ok sub)
    (hwait : (w.wait (fun w => w.server.isSettled sub) (some (w.clock + sub.timeout.ticks))).2 = w') :
    (Program.result e).run w = (w'.server.answer sub, w') := by
  have hlook : (Program.look fun w => w.server.subscribe e).run w = (.ok sub, w) := by rw [← h]; rfl
  subst hwait
  unfold Program.result
  rw [Program.run_bind', hlook]
  rfl

/-- The result of a run is accepted exactly if it is of the declared kind and as expected. -/
theorem run_checkResult (expected : Option Json) {run : Run} {answer : Except Error Json}
    (h : (Program.result run.execution).run w = (answer, w')) :
    ∃ result, (exec (Script.checkResult expected run) r).run w = ((result, r), w') ∧
      (result = .ok () ↔ ∃ v, answer = .ok v ∧ run.method.returns.holds v = true ∧
        ∀ e, expected = some e → v.same e = true) := by
  have hperform : (r.perform (.result run.execution)).run w = ((answer, r), w') := by
    unfold perform
    rw [Program.run_bind', h]
    rfl
  unfold Script.checkResult Script.waitForRunResult
  cases answer with
  | error e =>
    rw [run_exec_bind, run_exec_perform_of_error hperform]
    exact ⟨_, rfl, iff_of_false nofun fun ⟨_, hv, _⟩ => nomatch hv⟩
  | ok v =>
    rw [run_exec_bind, run_exec_perform_of_ok hperform]
    by_cases hholds : run.method.returns.holds v = true
    · rw [if_pos hholds]
      cases expected with
      | none => exact ⟨_, rfl, iff_of_true rfl ⟨v, rfl, hholds, nofun⟩⟩
      | some x =>
        by_cases hsame : v.same x = true
        · refine ⟨.ok (), ?_, iff_of_true rfl ⟨v, rfl, hholds, fun e he => ?_⟩⟩
          · show (exec (if v.same x = true then _ else _) r).run w' = _
            rw [if_pos hsame]
            rfl
          · cases he
            exact hsame
        · refine ⟨.error (.assertion ("expected result " ++ x.compact ++ ", got " ++ v.compact)), ?_,
            iff_of_false nofun ?_⟩
          · show (exec (if v.same x = true then _ else _) r).run w' = _
            rw [if_neg hsame]
            rfl
          · rintro ⟨v', hv', -, hall⟩
            rw [Except.ok.inj hv'] at hsame
            exact hsame (hall x rfl)
    · rw [if_neg hholds]
      exact ⟨_, rfl, iff_of_false nofun fun ⟨v', hv', hholds', _⟩ =>
        hholds (Except.ok.inj hv' ▸ hholds')⟩

theorem run_consultWorker {id : WorkerId} {x : Worker} (hcurrent : r.manager.worker = .ok id)
    (hx : w.server.worker? id = some x) (check : Worker → Except Error Unit) :
    (r.perform (.consultWorker check)).run w = ((check x, r), w) := by
  have hconsult : w.withWorker id check = check x := by
    unfold World.withWorker
    rw [hx]
  unfold perform onWorker
  rw [Program.run_bind', hcurrent]
  show ((w.withWorker id check, r), w) = _
  rw [hconsult]

/-- Where the live history replays and is not stored, the stored ones decide. -/
theorem run_checkHistories {run : Run} {history : History} {id : WorkerId} {x : Worker}
    (hhistory : World.fetchHistory r.initiatorService r.config.ns run.execution w = (.ok history, w'))
    (hcurrent : r.manager.worker = .ok id) (hx : w'.server.worker? id = some x)
    (hlive : verifyCurrent x history = .ok ()) (hgenerate : r.config.generateHistory = false) :
    (exec (Script.checkHistories run) r).run w =
      (((r.fixtures w').check w'.files w'.sdk.version x, r), w') := by
  have hperform : (r.perform (.history run.execution)).run w = ((.ok history, r), w') := by
    unfold perform
    rw [Program.run_bind', Program.run_lift, hhistory]
    rfl
  have hverify : (r.perform (.consultWorker fun w => verifyCurrent w history)).run w' =
      ((.ok (), r), w') := by
    rw [run_consultWorker hcurrent hx, hlive]
  have hload : (r.perform .loadPast).run w' =
      (((r.fixtures w').loadUpTo w'.files w'.sdk.version, r), w') := rfl
  unfold Script.checkHistories
  rw [run_exec_perform_of_ok hperform, run_exec_perform_of_ok hverify,
    run_exec_perform_of_ok (run_view r w')]
  show (exec (if r.config.generateHistory = true then _ else _) r).run w' = _
  rw [hgenerate, if_neg Bool.false_ne_true]
  unfold FixtureStore.check
  cases hpast : (r.fixtures w').loadUpTo w'.files w'.sdk.version with
  | error e =>
    rw [hpast] at hload
    exact run_exec_perform_of_error hload _
  | ok past =>
    rw [hpast] at hload
    show (exec (Script.perform .loadPast >>= _) r).run w' = _
    rw [run_exec_perform_of_ok hload, run_exec_perform, run_consultWorker hcurrent hx]
    rfl

end Runner

/-- Workers with the same workflows accept the same stored histories. -/
theorem FixtureStore.check_eq_ok_congr {x y : Worker} (h : x.workflows = y.workflows)
    (s : FixtureStore) (files : FileTree) (current : Version) :
    s.check files current x = .ok () ↔ s.check files current y = .ok () := by
  have hreplay : ∀ history, x.replay history = y.replay history := by
    intro history
    unfold Worker.replay Worker.workflow?
    rw [h]
  rw [check_eq_ok_iff_replays, check_eq_ok_iff_replays]
  simp only [hreplay]

/-! ## Closing -/

theorem Server.release_of_none_failing {s : Server} (h : s.failingShutdown = []) (target : String)
    (operation : Operation) : s.release target operation = (.ok (), s.record target operation) := by
  have hnot : ¬ (s.record target operation).failingShutdown.contains target = true := by
    show ¬ s.failingShutdown.contains target = true
    rw [h]
    exact Bool.false_ne_true
  unfold release
  dsimp only
  rw [if_neg hnot]

theorem Server.failingShutdown_detach (s : Server) (id : WorkerId) :
    (s.detach id).failingShutdown = s.failingShutdown := by
  unfold detach
  split
  · rfl
  · split <;> rfl

namespace World

variable {w : World}

theorem failingShutdown_detachAll (w : World) (ids : List WorkerId) :
    (w.detachAll ids).server.failingShutdown = w.server.failingShutdown := by
  unfold detachAll
  induction ids generalizing w with
  | nil => rfl
  | cons id ids ih => exact (ih _).trans (w.server.failingShutdown_detach id)

theorem closeService_of_none_failing (h : w.server.failingShutdown = []) (id : ConnectionId) :
    ∃ w', closeService id w = (.ok (), w') ∧ w'.server.failingShutdown = [] := by
  let closed : Server := { w.server with
    connections := w.server.connections.modify id fun c => { c with isOpen := false } }
  have hclose : w.server.closeConnection id =
      (.ok (), closed.record (closed.targetOf id) .shutdownService) :=
    Server.release_of_none_failing (s := closed) h _ _
  unfold closeService
  rw [hclose]
  exact ⟨_, rfl, h⟩

theorem shutdownFactory_of_none_failing (h : w.server.failingShutdown = []) (id : FactoryId) :
    ∃ w', shutdownFactory id w = (.ok (), w') ∧ w'.server.failingShutdown = [] := by
  unfold shutdownFactory
  split
  · exact ⟨w, rfl, h⟩
  · rename_i f _
    dsimp only
    have hdetached := failingShutdown_detachAll
      (w.modifyFactory id fun f => { f with running := false }) f.workers
    generalize (w.modifyFactory id fun f => { f with running := false }).detachAll f.workers = w₁
      at hdetached ⊢
    have hnone : w₁.server.failingShutdown = [] := hdetached.trans h
    rw [Server.release_of_none_failing hnone]
    exact ⟨_, rfl, hnone⟩

end World

theorem Runner.run_close_of_none_failing {w : World} (h : w.server.failingShutdown = [])
    (r : Runner) : (r.close.run w).1 = .ok () := by
  have hshutdown : ∃ w', r.manager.shutdown.run w = (.ok (), w') ∧
      w'.server.failingShutdown = [] := by
    unfold WorkerManager.shutdown
    cases r.manager.factory? with
    | none => exact ⟨w, rfl, h⟩
    | some factory => exact World.shutdownFactory_of_none_failing h factory
  obtain ⟨w₁, hworker, h₁⟩ := hshutdown
  obtain ⟨w₂, hdirect, h₂⟩ := World.closeService_of_none_failing h₁ r.directService
  obtain ⟨w₃, hproxied, -⟩ := World.closeService_of_none_failing h₂ r.service
  unfold close
  rw [Program.run_bind', hworker, Program.run_bind', Program.run_lift, hdirect]
  dsimp only
  rw [Program.run_bind', Program.run_lift, hproxied]
  rfl

/-- Where no release fails, a feature that has been opened passes exactly if its script succeeds. -/
theorem run_runFeature_eq_passed_iff {config : Config} {prepared : PreparedFeature} {w w' : World}
    {r : Runner} (hlaunch : (Runner.launch config prepared).run w = (.ok r, w'))
    (hfailing : (r.run.run w').2.server.failingShutdown = []) :
    ((runFeature config prepared).run w).1 = .passed ↔ (r.run.run w').1.1 = .ok () := by
  have hresult : ((runResult config prepared).run w).1 = (r.run.run w').1.1 := by
    unfold runResult
    rw [Program.run_bind', hlaunch]
    dsimp only
    rw [Program.run_bind', Program.run_bind']
    show closing (r.run.run w').1.1 (((r.run.run w').1.2.close).run (r.run.run w').2).1 = _
    rw [Runner.run_close_of_none_failing hfailing]
    cases (r.run.run w').1.1 <;> rfl
  unfold runFeature
  rw [Program.run_bind', hresult]
  cases (r.run.run w').1.1 with
  | ok _ => exact iff_of_true rfl rfl
  | error e =>
    refine iff_of_false ?_ nofun
    show (if e.isSkip = true then Outcome.skipped e.message else .failed e.message) ≠ .passed
    split <;> exact nofun

end Conformance
