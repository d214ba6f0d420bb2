import Conformance.Proofs.Background.Ticking
import Conformance.Proofs.Runner.Holds

/-!
# The calls that a server records

A server records most of the calls that reach it, with the address they were sent to, and all
connections. What is recorded stays, so that whatever happens can be described by the calls and the
connections that it adds.

## Main definitions

- `Server.Traffic`, `World.Traffic` — the calls and connections that come between two servers or worlds
- `Server.Request.Sends` — the call that a request adds
- `World.factoryTarget?` — the address of a factory
- `Program.Unheard` — a program that calls nobody
- `Runner.MayCall` — what a runner calls is of a kind

## Main statements

- `Server.traffic_serve` — a request adds the call that was sent, and no other
- `World.traffic_of_ticked` — the background calls nobody
- `World.traffic_newFactory`, `World.traffic_startFactory`, `World.traffic_shutdownFactory` — factories
  are made with the address of a client, and their workers call it
- `Runner.traffic_perform` — the calls of an operation
-/

namespace Conformance

/-! ## What comes between two worlds -/

/-- The calls that were recorded between two servers are of one kind, and exactly the given
connections were opened, in this order. -/
structure Server.Traffic (ok : Call → Prop) (opened : List String) (s s' : Server) : Prop where
  calls : ∃ made, s'.calls = s.calls ++ made ∧ ∀ c ∈ made, ok c
  connections : s'.connections.map (·.target) = s.connections.map (·.target) ++ opened

/-- So it was between two worlds, and no factory has got another address. -/
structure World.Traffic (ok : Call → Prop) (opened : List String) (w w' : World) : Prop where
  server : w.server.Traffic ok opened w'.server
  factories : w.factories.map (·.target) <+: w'.factories.map (·.target)

namespace Server

variable {ok : Call → Prop} {opened opened' : List String} {s s' s'' : Server}

theorem traffic_of_same (hcalls : s'.calls = s.calls)
    (hconnections : s'.connections.map (·.target) = s.connections.map (·.target)) :
    s.Traffic ok [] s' where
  calls := ⟨[], by rw [hcalls, List.append_nil], nofun⟩
  connections := by rw [hconnections, List.append_nil]

theorem Traffic.trans (h : s.Traffic ok opened s') (h' : s'.Traffic ok opened' s'') :
    s.Traffic ok (opened ++ opened') s'' where
  calls := by
    obtain ⟨made, hmade, hok⟩ := h.calls
    obtain ⟨made', hmade', hok'⟩ := h'.calls
    refine ⟨made ++ made', by rw [hmade', hmade, List.append_assoc], fun c hc => ?_⟩
    exact (List.mem_append.mp hc).elim (hok c) (hok' c)
  connections := by rw [h'.connections, h.connections, List.append_assoc]

theorem traffic_of_call (c : Call) (hc : ok c) (hcalls : s'.calls = s.calls ++ [c])
    (hconnections : s'.connections.map (·.target) = s.connections.map (·.target)) :
    s.Traffic ok [] s' where
  calls := ⟨[c], hcalls, fun c' hc' => List.mem_singleton.mp hc' ▸ hc⟩
  connections := by rw [hconnections, List.append_nil]

/-- The request opens no connection, and the call that is recorded for it is of a kind. -/
def Request.Sends (ok : Call → Prop) (s : Server) : Request → Prop
  | .startWorkflow target ns .. => ok ⟨target, .startWorkflow, ns⟩
  | .fetchHistory target ns _ => ok ⟨target, .fetchHistory, some ns⟩
  | .describe target ns _ => ok ⟨target, .describeExecution, some ns⟩
  | .update target .. => ok ⟨target, .update, none⟩
  | .attach target _ => ok ⟨target, .pollTaskQueue, none⟩
  | .release target operation => ok ⟨target, operation, none⟩
  | .closeConnection id => ok ⟨s.targetOf id, .shutdownService, none⟩
  | .connect _ => False
  | .subscribe _ | .takeAnswer _ | .addWorker _ | .updateWorker .. | .detach _ => True

theorem traffic_startWorkflow (s : Server) (target : String) (ns : Option String)
    (workflowType : String) (options : WorkflowOptions) (args : List Json)
    (hok : ok ⟨target, .startWorkflow, ns⟩) :
    s.Traffic ok [] (s.startWorkflow target ns workflowType options args).2 := by
  unfold startWorkflow dispatch
  split
  · exact traffic_of_same rfl rfl
  · dsimp only
    split
    · exact traffic_of_call _ hok rfl rfl
    · split <;> exact traffic_of_call _ hok rfl rfl

theorem traffic_attach (s : Server) (target : String) (id : WorkerId)
    (hok : ok ⟨target, .pollTaskQueue, none⟩) : s.Traffic ok [] (s.attach target id) := by
  cases hw : s.worker? id with
  | none =>
    rw [attach, hw]
    exact traffic_of_same rfl rfl
  | some w =>
    rw [attach_eq hw]
    exact traffic_of_call _ hok rfl rfl

theorem traffic_release (s : Server) (target : String) (operation : Operation)
    (hok : ok ⟨target, operation, none⟩) : s.Traffic ok [] (s.release target operation).2 := by
  unfold release
  dsimp only
  split <;> exact traffic_of_call _ hok rfl rfl

theorem targetOf_congr (h : s'.connections.map (·.target) = s.connections.map (·.target))
    (id : ConnectionId) : s'.targetOf id = s.targetOf id := by
  rw [targetOf_eq_getD, targetOf_eq_getD, h]

theorem traffic_updateWorker (s : Server) (id : WorkerId)
    (change : Worker → Except Error Worker) : s.Traffic ok [] (s.updateWorker id change).2 := by
  unfold updateWorker
  split
  · exact traffic_of_same rfl rfl
  · split <;> exact traffic_of_same rfl rfl

/-- A connection that is shut down keeps its address. -/
theorem traffic_closeConnection (s : Server) (id : ConnectionId)
    (hok : ok ⟨s.targetOf id, .shutdownService, none⟩) :
    s.Traffic ok [] (s.closeConnection id).2 := by
  let closed := { s with connections := s.connections.modify id fun c => { c with isOpen := false } }
  have htargets : closed.connections.map (·.target) = s.connections.map (·.target) :=
    map_modify_of_same fun _ _ => rfl
  have hclosed : s.Traffic ok [] closed := traffic_of_same rfl htargets
  have hreleased : closed.Traffic ok [] (s.closeConnection id).2 :=
    traffic_release closed (closed.targetOf id) .shutdownService
      (by rw [targetOf_congr htargets]; exact hok)
  exact hclosed.trans hreleased

/-- A request adds at most one call, which is recorded with the address it was sent to. -/
theorem traffic_serve (s : Server) (q : Request) (hq : q.Sends ok s) :
    s.Traffic ok [] (s.serve q).2 := by
  cases q with
  | startWorkflow target ns workflowType options args =>
    exact traffic_startWorkflow s target ns workflowType options args hq
  | subscribe _ | takeAnswer _ | addWorker _ => exact traffic_of_same rfl rfl
  | fetchHistory target ns e | describe target ns e => exact traffic_of_call _ hq rfl rfl
  | update target workflowId name => exact traffic_of_call _ hq rfl rfl
  | updateWorker id change => exact traffic_updateWorker s id change
  | attach target id => exact traffic_attach s target id hq
  | detach id =>
    show s.Traffic ok [] (s.detach id)
    rw [detach_eq]
    exact traffic_of_same rfl rfl
  | connect target => exact hq.elim
  | release target operation => exact traffic_release s target operation hq
  | closeConnection id => exact traffic_closeConnection s id hq

/-- Steps of tasks call nobody. -/
theorem traffic_step? {now i : Nat} {signals signals' : Signals}
    (h : s.step? now signals i = some (s', signals')) : s.Traffic ok [] s' := by
  have hsetting := step?_setting h
  have hcalls : ({ s' with tasks := s.tasks } : Server).calls = s.calls := by rw [hsetting.eq]
  exact traffic_of_same hcalls (congrArg _ hsetting.connections)

end Server

namespace World

variable {ok : Call → Prop} {opened opened' : List String} {w w' w'' : World}

/-- A request is served, or nothing happens at the server. -/
theorem traffic_of_server (hserver : w.server.Traffic ok opened w'.server)
    (hfactories : w'.factories = w.factories) : w.Traffic ok opened w' where
  server := hserver
  factories := hfactories ▸ List.prefix_rfl

theorem traffic_of_same (hserver : w'.server = w.server)
    (hfactories : w'.factories.map (·.target) = w.factories.map (·.target)) :
    w.Traffic ok [] w' where
  server := hserver ▸ Server.traffic_of_same rfl rfl
  factories := hfactories ▸ List.prefix_rfl

theorem Traffic.refl (w : World) : w.Traffic ok [] w := traffic_of_same rfl rfl

theorem Traffic.trans (h : w.Traffic ok opened w') (h' : w'.Traffic ok opened' w'') :
    w.Traffic ok (opened ++ opened') w'' :=
  ⟨h.server.trans h'.server, h.factories.trans h'.factories⟩

theorem traffic_serve (w : World) (q : Server.Request) (hq : q.Sends ok w.server) :
    w.Traffic ok [] { w with server := (w.server.serve q).2 } :=
  traffic_of_server (Server.traffic_serve w.server q hq) rfl

/-! ## The background -/

theorem traffic_sendCommand (w : World) (p : ProxyController) (c : ProxyCommand) :
    w.Traffic ok [] (w.sendCommand p c).2 := by
  unfold sendCommand sendRequest
  split
  · exact .refl w
  · dsimp only
    split
    · exact traffic_of_same rfl rfl
    · split <;> exact traffic_of_same rfl rfl

theorem traffic_sendDelayed (w : World) (i : Nat) : w.Traffic ok [] (w.sendDelayed i) := by
  unfold sendDelayed
  split
  · exact .refl w
  · rename_i d _
    exact (traffic_sendCommand w d.controller d.command).trans (traffic_of_same rfl rfl)

/-- Nothing that goes on by itself calls the server. -/
theorem Ticks.traffic (h : Ticks w w') : w.Traffic ok [] w' := by
  cases h with
  | time now => exact traffic_of_same rfl rfl
  | step h =>
    rcases step?_cases h with ⟨i, server, signals, hstep, rfl⟩ | ⟨i, rfl⟩
    · exact traffic_of_server (Server.traffic_step? hstep) rfl
    · exact traffic_sendDelayed w i

theorem traffic_of_ticked (h : Ticked w w') : w.Traffic ok [] w' := by
  induction h with
  | refl => exact .refl w
  | tail _ hlast ih => exact ih.trans hlast.traffic

/-! ## Calls through the SDK -/

theorem traffic_openLatch (w : World) (latch : SignalId) : w.Traffic ok [] (w.openLatch latch) := by
  unfold openLatch
  split
  · exact .refl w
  · exact traffic_of_server (Server.traffic_of_same rfl rfl) rfl

theorem traffic_guarded {α : Type} (point : SdkPoint) {call : World → Except Error α × World}
    (w : World) (hcall : ∀ sdk, w.Traffic ok [] (call { w with sdk }).2) :
    w.Traffic ok [] (guarded point call w).2 := by
  rcases guarded_cases point call w with hmade | ⟨e, hfailed⟩
  · rw [hmade]
    exact hcall _
  · rw [hfailed]
    exact traffic_of_same rfl rfl

theorem traffic_newClient (connection : ConnectionId) (ns : String) (w : World) :
    w.Traffic ok [] (newClient connection ns w).2 :=
  traffic_guarded .newClient w fun _ => traffic_of_same rfl rfl

theorem targets_modifyFactory (w : World) (id : FactoryId) (f : WorkerFactory → WorkerFactory)
    (hf : ∀ x, (f x).target = x.target) :
    (w.modifyFactory id f).factories.map (·.target) = w.factories.map (·.target) :=
  map_modify_of_same fun x _ => hf x

theorem traffic_asking {α : Type} (connection : ConnectionId)
    {call : Server → String → Except Error α × Server} (w : World)
    (hcall : w.server.Traffic ok [] (call w.server (w.server.targetOf connection)).2) :
    w.Traffic ok [] (asking connection call w).2 := by
  unfold asking
  dsimp only
  split
  · exact traffic_of_server hcall rfl
  · exact .refl w

theorem traffic_update (client : Client) (workflowId name : String) (w : World)
    (hok : ok ⟨w.server.targetOf client.connection, .update, none⟩) :
    w.Traffic ok [] (update client workflowId name w).2 := by
  unfold update
  split
  · exact traffic_of_same rfl rfl
  · rename_i sdk _
    have hserved : w.server.Traffic ok []
        (w.server.serve (.update (w.server.targetOf client.connection) workflowId name)).2 :=
      Server.traffic_serve w.server (.update _ workflowId name) hok
    exact traffic_of_server hserved rfl

theorem traffic_detachAll (w : World) (ids : List WorkerId) :
    w.Traffic ok [] (w.detachAll ids) := by
  unfold detachAll
  induction ids generalizing w with
  | nil => exact .refl w
  | cons id ids ih => exact (traffic_serve w (.detach id) trivial).trans (ih _)

theorem traffic_attachAll (w : World) (target : String) (ids : List WorkerId)
    (hok : ok ⟨target, .pollTaskQueue, none⟩) : w.Traffic ok [] (w.attachAll target ids) := by
  unfold attachAll
  induction ids generalizing w with
  | nil => exact .refl w
  | cons id ids ih => exact (traffic_serve w (.attach target id) hok).trans (ih _)

/-- The address of a factory. -/
def factoryTarget? (w : World) (id : FactoryId) : Option String :=
  (w.factories.map (·.target))[id]?

theorem factoryTarget?_of_factory? {id : FactoryId} {f : WorkerFactory}
    (h : w.factory? id = some f) : w.factoryTarget? id = some f.target := by
  rw [factoryTarget?, List.getElem?_map]
  exact congrArg (Option.map (·.target)) h

/-- No factory gets another address. -/
theorem Traffic.factoryTarget? (h : w.Traffic ok opened w') {id : FactoryId} {target : String}
    (htarget : w.factoryTarget? id = some target) : w'.factoryTarget? id = some target := by
  obtain ⟨rest, hrest⟩ := h.factories
  rw [World.factoryTarget?, ← hrest]
  exact getElem?_append_of_some htarget rest

/-- The workers of a factory are let go of at its address. -/
theorem traffic_shutdownFactory (id : FactoryId) (w : World)
    (hok : ∀ target, w.factoryTarget? id = some target →
      ok ⟨target, .shutdownWorkerFactory, none⟩) :
    w.Traffic ok [] (shutdownFactory id w).2 := by
  unfold shutdownFactory
  split
  · exact .refl w
  · rename_i f hf
    have hstopped : w.Traffic ok [] (w.modifyFactory id fun f => { f with running := false }) :=
      traffic_of_same rfl (targets_modifyFactory w id _ fun _ => rfl)
    have hdetached := hstopped.trans (traffic_detachAll _ f.workers)
    have htarget := hok f.target (factoryTarget?_of_factory? hf)
    exact hdetached.trans (traffic_serve _ (.release f.target .shutdownWorkerFactory) htarget)

/-- The workers of a factory poll its address. -/
theorem traffic_startFactory (id : FactoryId) (w : World)
    (hok : ∀ target, w.factoryTarget? id = some target → ok ⟨target, .pollTaskQueue, none⟩) :
    w.Traffic ok [] (startFactory id w).2 := by
  have hentered : w.Traffic ok [] (w.enter .start).2 := traffic_of_same rfl rfl
  unfold startFactory
  split
  · rename_i fault w₁ heq
    obtain rfl : (w.enter .start).2 = w₁ := congrArg Prod.snd heq
    split <;> exact hentered
  · rename_i w₁ heq
    obtain rfl : (w.enter .start).2 = w₁ := congrArg Prod.snd heq
    split
    · exact hentered
    · rename_i f hf
      have hstarted : w.Traffic ok []
          ((w.enter .start).2.modifyFactory id fun f => { f with running := true }) :=
        hentered.trans (traffic_of_same rfl (targets_modifyFactory _ id _ fun _ => rfl))
      have htarget := hok f.target (factoryTarget?_of_factory? hf)
      exact hstarted.trans (traffic_attachAll _ f.target f.workers htarget)

/-- A factory is made with the address of its client. -/
theorem traffic_newFactory (client : Client) (w : World) :
    w.Traffic ok [] (newFactory client w).2 ∧ ∀ id, (newFactory client w).1 = .ok id →
      (newFactory client w).2.factoryTarget? id = some (w.server.targetOf client.connection) := by
  unfold newFactory
  rcases guarded_cases .newWorkerFactory _ w with hmade | ⟨e, hfailed⟩
  · rw [hmade]
    refine ⟨⟨Server.traffic_of_same rfl rfl, ?_⟩, ?_⟩
    · rw [List.map_append]
      exact List.prefix_append _ _
    · rintro id ⟨⟩
      show (List.map _ (w.factories ++ _))[w.factories.length]? = _
      rw [List.map_append, ← List.length_map (·.target)]
      exact List.getElem?_concat_length
  · rw [hfailed]
    exact ⟨traffic_of_same rfl rfl, nofun⟩

theorem traffic_newWorker (factory : FactoryId) (queue : String) (w : World) :
    w.Traffic ok [] (newWorker factory queue w).2 := by
  refine traffic_guarded .newWorker w fun sdk => ?_
  split
  · exact traffic_of_same rfl rfl
  · refine ⟨Server.traffic_of_same rfl rfl, ?_⟩
    have htargets := targets_modifyFactory w factory
      (fun f => { f with workers := f.workers ++ [w.server.workers.length] }) fun _ => rfl
    exact htargets ▸ List.prefix_rfl

end World

/-! ## Programs that call nobody -/

/-- No call is recorded while the program runs, and no connection is opened. -/
def Program.Unheard {α : Type} (p : Program α) : Prop :=
  ∀ ok (w : World), w.Traffic ok [] (p.run w).2

namespace Program

open World

variable {α β : Type}

theorem unheard_pure (a : α) : (pure a : Program α).Unheard := fun _ w => .refl w

theorem Unheard.bind {p : Program α} (h : p.Unheard) {f : α → Program β}
    (hf : ∀ a, (f a).Unheard) : (p >>= f).Unheard := by
  intro ok w
  rw [run_bind']
  exact (h ok w).trans (hf _ ok _)

theorem unheard_look (view : World → α) : (look view).Unheard := fun _ w => .refl w

theorem unheard_waitFor (ready : World → Bool) (limit : Duration) :
    (waitFor ready limit).Unheard :=
  fun _ w => traffic_of_ticked (ticked_wait ready _ w)

theorem unheard_waitUntil (ready : World → Bool) : (waitUntil ready).Unheard :=
  fun _ w => traffic_of_ticked (ticked_wait ready none w)

/-- Whoever waits for a result looks at the server and calls nobody. -/
theorem unheard_result (e : Execution) : (result e).Unheard := by
  refine (unheard_look _).bind fun subscribed => ?_
  cases subscribed with
  | error e => exact unheard_pure _
  | ok sub => exact (unheard_waitFor _ _).bind fun _ => unheard_look _

end Program

/-! ## What a runner calls -/

namespace Runner

open World Program

/-- Whatever the runner calls in a world is of a kind, restarts of its worker apart. -/
structure MayCall (ok : Call → Prop) (r : Runner) (w : World) : Prop where
  start : ok ⟨w.server.targetOf r.initiatorClient.connection, .startWorkflow,
    some r.initiatorClient.ns⟩
  update : ok ⟨w.server.targetOf r.initiatorClient.connection, .update, none⟩
  history : ok ⟨w.server.targetOf r.initiatorService, .fetchHistory, some r.config.ns⟩
  describe : ok ⟨w.server.targetOf r.initiatorService, .describeExecution, some r.config.ns⟩
  /-- the workers of the current factory are let go of -/
  shutdown : ∀ factory target, r.manager.factory? = some factory →
    w.factoryTarget? factory = some target → ok ⟨target, .shutdownWorkerFactory, none⟩
  close : ∀ target, ok ⟨target, .shutdownService, none⟩

variable {ok : Call → Prop} {r : Runner} {w : World}

theorem traffic_shutdown (h : r.MayCall ok w) : w.Traffic ok [] (r.manager.shutdown.run w).2 := by
  unfold WorkerManager.shutdown
  split
  · rename_i factory hcurrent
    exact traffic_shutdownFactory factory w fun target => h.shutdown factory target hcurrent
  · exact .refl w

theorem traffic_onWorker {action : WorkerId → World → Except Error Unit × World}
    (haction : ∀ id, w.Traffic ok [] (action id w).2) :
    w.Traffic ok [] ((r.onWorker action).run w).2 := by
  unfold onWorker
  split
  · exact .refl w
  · exact haction _

theorem traffic_closeService (hclose : ∀ target, ok ⟨target, .shutdownService, none⟩)
    (connection : ConnectionId) (w : World) :
    w.Traffic ok [] (World.closeService connection w).2 :=
  World.traffic_serve w (.closeConnection connection) (hclose _)

theorem traffic_releaseAll (hclose : ∀ target, ok ⟨target, .shutdownService, none⟩)
    (ids : List ConnectionId) (w : World) : w.Traffic ok [] ((releaseAll ids).run w).2 := by
  induction ids generalizing w with
  | nil => exact .refl w
  | cons id ids ih =>
    rw [releaseAll, run_bind']
    exact (traffic_closeService hclose id w).trans (ih _)

/-- Every operation but restarting the worker makes no other calls. -/
theorem traffic_perform (h : r.MayCall ok w) {op : RunnerOp} (hop : op ≠ .restartWorker) :
    w.Traffic ok [] ((r.perform op).run w).2 := by
  cases op with
  | restartWorker => exact absurd rfl hop
  | view | loadPast | requests => exact .refl w
  | startWorkflow t options args =>
    exact World.traffic_serve w (.startWorkflow _ _ t options args) h.start
  | result e => exact (unheard_result e).bind (fun _ => unheard_pure _) _ w
  | history e =>
    exact traffic_asking _ w (Server.traffic_serve w.server (.fetchHistory _ _ e) h.history)
  | describe e =>
    exact traffic_asking _ w (Server.traffic_serve w.server (.describe _ _ e) h.describe)
  | update workflowId name | startUpdate workflowId name =>
    exact traffic_update _ workflowId name w h.update
  | shutdownWorker =>
    rw [perform, run_bind']
    exact traffic_shutdown h
  | consultWorker check =>
    rw [perform, run_bind']
    exact traffic_onWorker fun _ => .refl w
  | registerWorkflow f =>
    rw [perform, run_bind']
    exact traffic_onWorker fun id => World.traffic_serve w (.updateWorker id _) trivial
  | storeHistories histories => exact traffic_of_same rfl rfl
  | send command => exact traffic_sendCommand w r.proxy command
  | sendLater delay command => exact traffic_of_same rfl rfl
  | join ticket => exact unheard_waitUntil _ _ w
  | openLatch latch => exact traffic_openLatch w latch
  | awaitLatch latch limit => exact unheard_waitFor _ limit _ w
  | increment counter => exact traffic_of_same rfl rfl
  | sleep d => exact unheard_waitFor _ d _ w
  | settle => exact traffic_of_ticked (ticked_settle w)
  | closeService => exact traffic_closeService h.close _ w
  | setStatus status => exact traffic_of_same rfl rfl

end Runner

end Conformance
