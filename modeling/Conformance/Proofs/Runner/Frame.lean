import Conformance.Proofs.Server.Holdings
import Conformance.Runner.Run

/-!
# What a runner leaves alone

Whatever happens in a world happens at its server as a run. Nearly everything that a runner does,
and everything in the background, is a run of harmless requests, and leaves the faults of the SDK
and the workers of the factories alone.

## Main definitions

- `World.Stays` — nothing new is held in a world
- `Program.Stays` — a program after which nothing new is held

## Main statements

- `World.stays_wait` — the background opens nothing
- `Runner.stays_perform` — of all operations only restarting the worker may open something
-/

namespace Conformance

/-- The world `w'` comes after `w`, and nothing is held in it that was not held in `w`. -/
structure World.Stays (w w' : World) : Prop where
  server : ∃ log, Server.Run w.server log w'.server ∧ ∀ x ∈ log, x.request.Harmless
  factories : w'.factories.map (·.workers) = w.factories.map (·.workers)
  faults : w'.sdk.faults = w.sdk.faults

namespace World

variable {w w' w'' : World}

theorem Stays.releases (h : w.Stays w') : w.server.Releases w'.server := by
  obtain ⟨log, hrun, hlog⟩ := h.server
  exact Server.releases_of_run hrun hlog

/-- Nothing happens at the server. -/
theorem stays_of_same (hserver : w'.server = w.server)
    (hfactories : w'.factories.map (·.workers) = w.factories.map (·.workers))
    (hfaults : w'.sdk.faults = w.sdk.faults) : w.Stays w' where
  server := ⟨[], hserver ▸ .start, fun _ hx => nomatch hx⟩
  factories := hfactories
  faults := hfaults

theorem Stays.refl (w : World) : w.Stays w := stays_of_same rfl rfl rfl

theorem Stays.trans (h : w.Stays w') (h' : w'.Stays w'') : w.Stays w'' := by
  obtain ⟨log, hrun, hlog⟩ := h.server
  obtain ⟨log', hrun', hlog'⟩ := h'.server
  refine ⟨⟨log ++ log', hrun.trans hrun', ?_⟩, h'.factories.trans h.factories,
    h'.faults.trans h.faults⟩
  intro x hx
  exact (List.mem_append.mp hx).elim (hlog x) (hlog' x)

/-- A harmless request is served. -/
theorem stays_serve (w : World) (q : Server.Request) (hq : q.Harmless) :
    w.Stays { w with server := (w.server.serve q).2 } where
  server := by
    refine ⟨_, Server.Run.start.serve q, ?_⟩
    intro x hx
    rw [List.nil_append, List.mem_singleton] at hx
    rwa [hx]
  factories := rfl
  faults := rfl

/-! ## The background -/

theorem stays_sendCommand (w : World) (p : ProxyController) (c : ProxyCommand) :
    w.Stays (w.sendCommand p c).2 := by
  unfold sendCommand sendRequest
  split
  · exact .refl w
  · dsimp only
    split
    · exact stays_of_same rfl rfl rfl
    · split <;> exact stays_of_same rfl rfl rfl

theorem stays_sendDelayed (w : World) (i : Nat) : w.Stays (w.sendDelayed i) := by
  unfold sendDelayed
  split
  · exact .refl w
  · rename_i d _
    have hsent := stays_sendCommand w d.controller d.command
    exact hsent.trans (stays_of_same rfl rfl rfl)

/-- A step of the first task that has one is a step of some task. -/
theorem exists_step?_of_stepFrom? {now i count : Nat} {s : Server} {signals : Signals}
    {next : Server × Signals} (h : s.stepFrom? now signals i count = some next) :
    ∃ j, s.step? now signals j = some next := by
  induction count generalizing i with
  | zero => cases h
  | succ count ih =>
    unfold Server.stepFrom? at h
    split at h
    · rename_i next' hnext
      cases h
      exact ⟨i, hnext⟩
    · exact ih h

theorem stays_step? (h : w.step? = some w') : w.Stays w' := by
  unfold step? at h
  split at h
  · rename_i server signals hstep
    cases h
    obtain ⟨j, hj⟩ := exists_step?_of_stepFrom? hstep
    exact ⟨⟨[], Server.Run.start.task hj, fun _ hx => nomatch hx⟩, rfl, rfl⟩
  · obtain ⟨i, -, rfl⟩ := Option.map_eq_some_iff.mp h
    exact stays_sendDelayed w i

theorem stays_settle (w : World) : w.Stays w.settle := by
  fun_induction settle w with
  | case1 w _ => exact .refl w
  | case2 w w' hstep ih => exact (stays_step? hstep).trans ih

theorem stays_advanceTo (w : World) (time : Nat) : w.Stays (w.advanceTo time) :=
  stays_of_same rfl rfl rfl

/-- Whatever is waited for, nothing is opened in the meantime. -/
theorem stays_wait (ready : World → Bool) (deadline : Option Nat) (w : World) :
    w.Stays (w.wait ready deadline).2 := by
  -- nothing happens in the first two cases, the background runs until it rests in the next two,
  -- and then the clock moves as well
  fun_induction wait ready deadline w with
  | case1 | case2 => exact .refl _
  | case3 | case4 => exact stays_settle _
  | case5 | case6 | case7 => exact (stays_settle _).trans (stays_advanceTo _ _)
  | case8 w _ _ _ _ _ _ _ _ next hstep _ ih =>
    exact ((stays_settle w).trans (stays_advanceTo _ _)).trans ((stays_step? hstep).trans ih)

theorem stays_openLatch (w : World) (latch : SignalId) : w.Stays (w.openLatch latch) := by
  unfold openLatch
  split
  · exact .refl w
  · exact ⟨⟨[], Server.Run.start.letThrough latch, fun _ hx => nomatch hx⟩, rfl, rfl⟩

/-! ## Calls -/

/-- A call is counted. -/
theorem stays_enter (w : World) (point : SdkPoint) : w.Stays (w.enter point).2 :=
  stays_of_same rfl rfl rfl

/-- A call is made, or a fault replaces it. In both cases it is counted. -/
theorem guarded_cases {α : Type} (point : SdkPoint) (call : World → Except Error α × World)
    (w : World) : guarded point call w = call { w with sdk := (w.sdk.enter point).2 } ∨
      ∃ e, guarded point call w = (.error e, { w with sdk := (w.sdk.enter point).2 }) := by
  unfold guarded
  split
  · rename_i w₁ heq
    obtain rfl : (w.enter point).2 = w₁ := congrArg Prod.snd heq
    exact .inr ⟨_, rfl⟩
  · rename_i w₁ _ heq
    obtain rfl : (w.enter point).2 = w₁ := congrArg Prod.snd heq
    exact .inl rfl

/-- A call that a fault may replace does nothing then. -/
theorem stays_guarded {α : Type} (point : SdkPoint) {call : World → Except Error α × World}
    (hcall : ∀ w : World, w.Stays (call w).2) (w : World) : w.Stays (guarded point call w).2 := by
  have henter := stays_enter w point
  rcases guarded_cases point call w with hmade | ⟨e, hfailed⟩
  · rw [hmade]
    exact henter.trans (hcall _)
  · rw [hfailed]
    exact henter

theorem stays_newClient (connection : ConnectionId) (ns : String) (w : World) :
    w.Stays (newClient connection ns w).2 :=
  stays_guarded .newClient (fun w => .refl w) w

theorem stays_closeService (connection : ConnectionId) (w : World) :
    w.Stays (closeService connection w).2 :=
  stays_serve w (.closeConnection connection) trivial

theorem workers_modifyFactory (w : World) (id : FactoryId) (f : WorkerFactory → WorkerFactory)
    (hf : ∀ x, (f x).workers = x.workers) :
    (w.modifyFactory id f).factories.map (·.workers) = w.factories.map (·.workers) :=
  map_modify_of_same fun x _ => hf x

theorem stays_detachAll (w : World) (ids : List WorkerId) : w.Stays (w.detachAll ids) := by
  unfold detachAll
  induction ids generalizing w with
  | nil => exact .refl w
  | cons id ids ih => exact (stays_serve w (.detach id) trivial).trans (ih _)

/-- A factory that is shut down lets go of its workers. -/
theorem stays_shutdownFactory (id : FactoryId) (w : World) :
    w.Stays (shutdownFactory id w).2 := by
  unfold shutdownFactory
  split
  · exact .refl w
  · rename_i f _
    have hstopped : w.Stays (w.modifyFactory id fun f => { f with running := false }) :=
      stays_of_same rfl (workers_modifyFactory w id _ fun _ => rfl) rfl
    have hdetached := hstopped.trans (stays_detachAll _ f.workers)
    exact hdetached.trans (stays_serve _ (.release f.target .shutdownWorkerFactory) trivial)

theorem stays_updateWorker (id : WorkerId) (change : Worker → Except Error Worker)
    (hchange : ∀ x x', change x = .ok x' → x'.taskQueue = x.taskQueue) (w : World) :
    w.Stays (updateWorker id change w).2 :=
  stays_serve w (.updateWorker id change) hchange

theorem stays_startWorkflow (client : Client) (workflowType : String) (options : WorkflowOptions)
    (args : List Json) (w : World) :
    w.Stays (startWorkflow client workflowType options args w).2 :=
  stays_serve w (.startWorkflow _ _ workflowType options args) trivial

/-- A service that is asked for something is asked only if its connection is open. -/
theorem stays_asking {α : Type} (connection : ConnectionId)
    {call : Server → String → Except Error α × Server}
    (hcall : ∀ (w : World) target, w.Stays { w with server := (call w.server target).2 })
    (w : World) : w.Stays (asking connection call w).2 := by
  unfold asking
  dsimp only
  split
  · exact hcall w _
  · exact .refl w

theorem stays_fetchHistory (connection : ConnectionId) (ns : String) (e : Execution) (w : World) :
    w.Stays (fetchHistory connection ns e w).2 :=
  stays_asking connection (fun w target => stays_serve w (.fetchHistory target ns e) trivial) w

theorem stays_describe (connection : ConnectionId) (ns : String) (e : Execution) (w : World) :
    w.Stays (describe connection ns e w).2 :=
  stays_asking connection (fun w target => stays_serve w (.describe target ns e) trivial) w

theorem stays_update (client : Client) (workflowId name : String) (w : World) :
    w.Stays (update client workflowId name w).2 := by
  have hsdk : w.sdk.nextUpdate.2.faults = w.sdk.faults := by
    unfold Sdk.nextUpdate
    split <;> rfl
  unfold update
  split
  · rename_i heq
    rw [heq] at hsdk
    exact stays_of_same rfl rfl hsdk
  · rename_i sdk heq
    rw [heq] at hsdk
    have hserved := stays_serve w (.update (w.server.targetOf client.connection) workflowId name)
      trivial
    exact hserved.trans (stays_of_same rfl rfl hsdk)

end World

/-! ## Programs -/

open World

/-- Nothing new is held after the program. -/
def Program.Stays {α : Type} (p : Program α) : Prop := ∀ w : World, w.Stays (p.run w).2

namespace Program

variable {α β : Type}

theorem stays_pure (a : α) : (pure a : Program α).Stays := fun w => .refl w

theorem Stays.bind {p : Program α} (h : p.Stays) {f : α → Program β} (hf : ∀ a, (f a).Stays) :
    (p >>= f).Stays := by
  intro w
  rw [run_bind']
  exact (h w).trans (hf _ _)

theorem stays_lift {action : World → α × World} (h : ∀ w : World, w.Stays (action w).2) :
    (lift action).Stays := h

theorem stays_look (view : World → α) : (look view).Stays := fun w => .refl w

theorem stays_waitFor (ready : World → Bool) (limit : Duration) : (waitFor ready limit).Stays :=
  fun w => stays_wait ready _ w

theorem stays_waitUntil (ready : World → Bool) : (waitUntil ready).Stays :=
  fun w => stays_wait ready none w

theorem stays_sleep (d : Duration) : (sleep d).Stays :=
  (stays_waitFor _ d).bind fun _ => stays_pure ()

/-- Waiting for a result opens nothing. -/
theorem stays_result (e : Execution) : (result e).Stays := by
  refine (stays_look _).bind fun subscribed => ?_
  cases subscribed with
  | error e => exact stays_pure _
  | ok sub => exact (stays_waitFor _ _).bind fun _ => stays_look _

theorem stays_send (p : ProxyController) (c : ProxyCommand) : ((proxy p).send c).Stays :=
  stays_lift fun w => stays_sendCommand w p c

theorem stays_later (p : ProxyController) (delay : Duration) (c : ProxyCommand) :
    ((proxy p).later delay c).Stays :=
  stays_lift fun _ => stays_of_same rfl rfl rfl

end Program

/-! ## Operations -/

theorem WorkerManager.stays_shutdown (m : WorkerManager) : m.shutdown.Stays := by
  unfold shutdown
  split
  · exact Program.stays_lift (stays_shutdownFactory _)
  · exact Program.stays_pure _

/-- Registering a workflow leaves a worker on its queue. -/
theorem Worker.taskQueue_register {w w' : Worker} {f : Workflow} (h : w.register f = .ok w') :
    w'.taskQueue = w.taskQueue := by
  unfold register at h
  split at h
  · cases h
  · cases h
    rfl

namespace Runner

variable (r : Runner)

theorem stays_onWorker {action : WorkerId → World → Except Error Unit × World}
    (h : ∀ id (w : World), w.Stays (action id w).2) : (r.onWorker action).Stays := by
  unfold onWorker
  split
  · exact Program.stays_pure _
  · exact Program.stays_lift (h _)

/-- A program whose value is the reply leaves the runner as it is. -/
theorem stays_reply {α : Type} {p : Program α} (h : p.Stays) (w : World) :
    ((p >>= fun reply => (pure (reply, r) : Program (α × Runner))).run w).1.2 = r ∧
      w.Stays ((p >>= fun reply => (pure (reply, r) : Program (α × Runner))).run w).2 := by
  rw [Program.run_bind']
  exact ⟨rfl, h w⟩

/-- Every operation but restarting the worker leaves the runner as it is and opens nothing. -/
theorem stays_perform {op : RunnerOp} (h : op ≠ .restartWorker) (w : World) :
    ((r.perform op).run w).1.2 = r ∧ w.Stays ((r.perform op).run w).2 := by
  cases op with
  | restartWorker => exact absurd rfl h
  | view | loadPast | requests => exact ⟨rfl, .refl w⟩
  | startWorkflow t options args => exact ⟨rfl, stays_startWorkflow _ t options args w⟩
  | result e => exact r.stays_reply (Program.stays_result e) w
  | history e => exact ⟨rfl, stays_fetchHistory _ _ e w⟩
  | describe e => exact ⟨rfl, stays_describe _ _ e w⟩
  | update id name | startUpdate id name => exact ⟨rfl, stays_update _ id name w⟩
  | shutdownWorker => exact r.stays_reply r.manager.stays_shutdown w
  | consultWorker check =>
    refine r.stays_reply (r.stays_onWorker ?_) w
    exact fun _ w => .refl w
  | registerWorkflow f =>
    refine r.stays_reply (r.stays_onWorker ?_) w
    exact fun id w => stays_updateWorker id _ (fun _ _ => Worker.taskQueue_register) w
  | storeHistories histories => exact ⟨rfl, stays_of_same rfl rfl rfl⟩
  | send command => exact ⟨rfl, Program.stays_send r.proxy command w⟩
  | sendLater delay command => exact ⟨rfl, Program.stays_later r.proxy delay command w⟩
  | join ticket => exact ⟨rfl, Program.stays_waitUntil _ w⟩
  | openLatch latch => exact ⟨rfl, stays_openLatch w latch⟩
  | awaitLatch latch limit => exact ⟨rfl, Program.stays_waitFor _ limit w⟩
  | increment counter => exact ⟨rfl, stays_of_same rfl rfl rfl⟩
  | sleep d => exact ⟨rfl, Program.stays_sleep d w⟩
  | settle => exact ⟨rfl, stays_settle w⟩
  | closeService => exact ⟨rfl, stays_closeService _ w⟩
  | setStatus status => exact ⟨rfl, stays_of_same rfl rfl rfl⟩

end Runner

end Conformance
