import Conformance.Proofs.Background.Unnoticed
import Conformance.Runner.Run

/-!
# What a run sees of a stream

A stream to a listener is written to when a feature has ended, and by nobody else. Whatever the stream
does, a run of a feature goes the same way.

## Main definitions

- `Network.Stream` — what a stream does, and what has become of it
- `Blind`, `Program.Blind` — actions and programs that go the same way whatever the stream does
- `Unseen` — what is looked at does not depend on the stream

## Main statements

- `World.blind_wait` — whoever waits does not see the stream
- `Runner.blind_exec` — no script sees it
- `blind_runFeature` — nor does a whole run
-/

namespace Conformance

/-- How writing to a stream and closing it go, how often it has been written to, and what has
arrived. -/
structure Network.Stream where
  writeFault : Nat → Option FileError
  closeFault : Option FileError
  writes : Nat
  received : List UInt8

/-- The network with another stream. -/
def Network.withStream (n : Network) (x : Stream) : Network :=
  { n with
      writeFault := x.writeFault
      closeFault := x.closeFault
      writes := x.writes
      received := x.received }

/-- The world with another stream. -/
def World.withStream (w : World) (x : Network.Stream) : World :=
  { w with network := w.network.withStream x }

open World

variable {α β : Type}

/-- An action goes the same way whatever the stream does, and leaves the stream alone. -/
def Blind (action : World → α × World) : Prop :=
  ∀ x w, action (w.withStream x) = ((action w).1, (action w).2.withStream x)

/-- What is looked at does not depend on the stream. -/
def Unseen (view : World → α) : Prop := ∀ x w, view (w.withStream x) = view w

@[simp] theorem World.server_withStream (w : World) (x : Network.Stream) :
    (w.withStream x).server = w.server := rfl

@[simp] theorem World.sdk_withStream (w : World) (x : Network.Stream) :
    (w.withStream x).sdk = w.sdk := rfl

@[simp] theorem World.factory?_withStream (w : World) (x : Network.Stream) (id : FactoryId) :
    (w.withStream x).factory? id = w.factory? id := rfl

/-- The control endpoint does not see the stream. -/
theorem Network.post_withStream (n : Network) (x : Stream) (url : Url) :
    (n.withStream x).post url = ((n.post url).1, (n.post url).2.withStream x) := by
  unfold post
  dsimp only [withStream]
  cases n.respond (n.attempts + 1) n.status <;> rfl

namespace World

/-! ## The background -/

theorem blind_sendCommand (p : ProxyController) (c : ProxyCommand) :
    Blind fun w => w.sendCommand p c := by
  intro x w
  unfold sendCommand sendRequest
  cases p.commandUrl c.method c.params with
  | error e => rfl
  | ok url =>
    have hpost := Network.post_withStream w.network x url
    dsimp only [withStream]
    rw [hpost]
    cases (w.network.post url).1 with
    | none => rfl
    | some status =>
      dsimp only
      by_cases hstatus : 400 ≤ status
      · rw [if_pos hstatus, if_pos hstatus]
      · rw [if_neg hstatus, if_neg hstatus]

theorem sendDelayed_withStream (w : World) (x : Network.Stream) (i : Nat) :
    (w.withStream x).sendDelayed i = (w.sendDelayed i).withStream x := by
  unfold sendDelayed
  dsimp only [withStream]
  cases w.delayed[i]? with
  | none => rfl
  | some d =>
    have hsent := blind_sendCommand d.controller d.command x w
    dsimp only [withStream] at hsent ⊢
    rw [hsent]

theorem step?_withStream (w : World) (x : Network.Stream) :
    (w.withStream x).step? = w.step?.map fun w => w.withStream x := by
  unfold step?
  dsimp only [withStream]
  cases w.server.stepFirst? w.clock w.signals with
  | some next => rfl
  | none =>
    have hdue : (w.withStream x).dueIndex? = w.dueIndex? := rfl
    dsimp only [withStream] at hdue ⊢
    rw [hdue, Option.map_map]
    exact congrArg (fun f => w.dueIndex?.map f) (funext fun i => sendDelayed_withStream w x i)

/-- The background does not see the stream. -/
theorem unnoticed_withStream (x : Network.Stream) : Unnoticed fun w => w.withStream x where
  step? w := step?_withStream w x
  clock _ := rfl
  nextTime? _ := rfl
  advanceTo _ _ := rfl

theorem settle_withStream (w : World) (x : Network.Stream) :
    (w.withStream x).settle = w.settle.withStream x :=
  (unnoticed_withStream x).settle w

/-- Whoever waits for something that does not depend on the stream waits the same way. -/
theorem blind_wait {ready : World → Bool} (hready : Unseen ready) (deadline : Option Nat) :
    Blind fun w => w.wait ready deadline :=
  fun x => (unnoticed_withStream x).wait (hready x) deadline

theorem openLatch_withStream (w : World) (x : Network.Stream) (latch : SignalId) :
    (w.withStream x).openLatch latch = (w.openLatch latch).withStream x := by
  unfold openLatch
  by_cases hopen : w.signals.isOpen latch
  · rw [if_pos hopen]
    exact if_pos hopen
  · rw [if_neg hopen]
    exact if_neg hopen

/-! ## Calls -/

@[simp] theorem enter_withStream (w : World) (x : Network.Stream) (point : SdkPoint) :
    (w.withStream x).enter point = ((w.enter point).1, (w.enter point).2.withStream x) := rfl

theorem blind_guarded (point : SdkPoint) {call : World → Except Error α × World} (hcall : Blind call) :
    Blind (guarded point call) := by
  intro x w
  unfold guarded
  rw [enter_withStream]
  cases w.enter point with
  | mk fault w' =>
    match fault with
    | none | some ⟨_, _, none⟩ => exact hcall x w'
    | some ⟨_, _, some e⟩ => rfl

theorem blind_connect (target : String) : Blind (connect target) := by
  refine blind_guarded .connect fun x w => ?_
  simp only [server_withStream]
  split <;> rfl

theorem blind_newClient (connection : ConnectionId) (ns : String) : Blind (newClient connection ns) :=
  blind_guarded .newClient fun _ _ => rfl

theorem blind_newFactory (client : Client) : Blind (newFactory client) :=
  blind_guarded .newWorkerFactory fun _ _ => rfl

theorem blind_newWorker (factory : FactoryId) (queue : String) : Blind (newWorker factory queue) := by
  refine blind_guarded .newWorker fun x w => ?_
  by_cases hrunning : (w.factory? factory).map (·.running) = some true
  · rw [if_pos hrunning]
    exact if_pos hrunning
  · rw [if_neg hrunning]
    exact if_neg hrunning

@[simp] theorem modifyFactory_withStream (w : World) (x : Network.Stream) (id : FactoryId)
    (f : WorkerFactory → WorkerFactory) :
    (w.withStream x).modifyFactory id f = (w.modifyFactory id f).withStream x := rfl

@[simp] theorem attachAll_withStream (w : World) (x : Network.Stream) (target : String)
    (ids : List WorkerId) : (w.withStream x).attachAll target ids = (w.attachAll target ids).withStream x := by
  unfold attachAll
  exact List.foldl_hom (fun w : World => w.withStream x) fun _ _ => rfl

@[simp] theorem detachAll_withStream (w : World) (x : Network.Stream) (ids : List WorkerId) :
    (w.withStream x).detachAll ids = (w.detachAll ids).withStream x := by
  unfold detachAll
  exact List.foldl_hom (fun w : World => w.withStream x) fun _ _ => rfl

theorem blind_startFactory (id : FactoryId) : Blind (startFactory id) := by
  intro x w
  unfold startFactory
  rw [enter_withStream]
  cases w.enter .start with
  | mk fault w' =>
    match fault with
    | some ⟨_, _, none⟩ | some ⟨_, _, some e⟩ => rfl
    | none =>
      dsimp only
      rw [factory?_withStream]
      cases w'.factory? id <;> simp

theorem blind_shutdownFactory (id : FactoryId) : Blind (shutdownFactory id) := by
  intro x w
  unfold shutdownFactory
  simp only [factory?_withStream, modifyFactory_withStream, detachAll_withStream]
  split <;> rfl

theorem blind_asking (connection : ConnectionId) (call : Server → String → Except Error α × Server) :
    Blind (asking connection call) := by
  intro x w
  unfold asking
  dsimp only
  by_cases hopen : w.server.isOpen connection
  · rw [if_pos hopen]
    exact if_pos hopen
  · rw [if_neg hopen]
    exact if_neg hopen

theorem blind_update (client : Client) (workflowId name : String) : Blind (update client workflowId name) := by
  intro x w
  unfold update
  simp only [sdk_withStream]
  split <;> rfl

theorem blind_startUpdate (client : Client) (workflowId name : String) :
    Blind (startUpdate client workflowId name) := by
  intro x w
  unfold startUpdate
  rw [blind_update client workflowId name x w]

end World

/-! ## Programs -/

/-- A run of the program goes the same way whatever the stream does. -/
def Program.Blind (p : Program α) : Prop := Conformance.Blind p.run

namespace Program

theorem blind_pure (a : α) : (pure a : Program α).Blind := fun _ => overlooks_pure _ a

theorem Blind.bind {p : Program α} (h : p.Blind) {f : α → Program β} (hf : ∀ a, (f a).Blind) :
    (p >>= f).Blind :=
  fun x => Overlooks.bind (h x) fun a => hf a x

theorem Blind.bindT {p : ExceptT Error Program α} {f : α → ExceptT Error Program β}
    (h : p.run.Blind) (hf : ∀ a, (f a).run.Blind) : (p >>= f).run.Blind := by
  rw [ExceptT.run_bind]
  refine h.bind fun result => ?_
  cases result with
  | ok a => exact hf a
  | error e => exact blind_pure _

theorem blind_lift {action : World → α × World} (h : Conformance.Blind action) : (lift action).Blind := h

theorem blind_look {view : World → α} (h : Unseen view) : (look view).Blind :=
  fun x => overlooks_look (h x)

theorem blind_change {f : World → World} (h : ∀ x w, f (w.withStream x) = (f w).withStream x) :
    (change f).Blind :=
  fun x w => congrArg (Prod.mk ()) (h x w)

theorem blind_waitFor {ready : World → Bool} (h : Unseen ready) (limit : Duration) :
    (waitFor ready limit).Blind :=
  fun x => (unnoticed_withStream x).waitFor (h x) limit

theorem blind_waitUntil {ready : World → Bool} (h : Unseen ready) : (waitUntil ready).Blind :=
  fun x w => congrArg (fun waited => ((), waited.2)) (blind_wait h none x w)

theorem blind_result (e : Execution) : (result e).Blind :=
  fun x => (unnoticed_withStream x).result (fun _ => rfl) (fun _ => rfl) e

end Program

/-! ## Runs -/

namespace Runner

open Program

variable (r : Runner)

theorem blind_onWorker {action : WorkerId → World → Except Error Unit × World}
    (h : ∀ id, Conformance.Blind (action id)) : (r.onWorker action).Blind := by
  unfold onWorker
  cases r.manager.worker with
  | error e => exact blind_pure _
  | ok id => exact blind_lift (h id)

theorem blind_restartWorker : r.restartWorker.Blind := by
  have hbuild : (WorkerManager.build r.workerClient r.feature r.config.taskQueue).run.Blind := by
    unfold WorkerManager.build
    refine Blind.bindT (blind_lift (blind_newFactory _)) fun factory => ?_
    refine Blind.bindT (blind_lift (blind_newWorker _ _)) fun worker => ?_
    refine Blind.bindT (blind_lift fun _ _ => rfl) fun _ => ?_
    exact Blind.bindT (blind_lift (blind_startFactory _)) fun _ => blind_pure _
  refine Blind.bind (hbuild.bind fun built => ?_) fun _ => blind_pure _
  cases built <;> exact blind_pure _

theorem blind_shutdown (m : WorkerManager) : m.shutdown.Blind := by
  unfold WorkerManager.shutdown
  cases m.factory? with
  | none => exact blind_pure _
  | some factory => exact blind_lift (blind_shutdownFactory factory)

/-- No operation sees the stream. -/
theorem blind_perform (op : RunnerOp) : (r.perform op).Blind := by
  cases op with
  | view | loadPast | requests => exact (blind_look fun _ _ => rfl).bind fun _ => blind_pure _
  | startWorkflow | closeService | storeHistories | sendLater =>
    exact Blind.bind (blind_lift fun _ _ => rfl) fun _ => blind_pure _
  | result e => exact (blind_result e).bind fun _ => blind_pure _
  | history e | describe e => exact (blind_lift (blind_asking _ _)).bind fun _ => blind_pure _
  | update id name => exact (blind_lift (blind_update _ id name)).bind fun _ => blind_pure _
  | startUpdate id name => exact (blind_lift (blind_startUpdate _ id name)).bind fun _ => blind_pure _
  | restartWorker => exact r.blind_restartWorker
  | shutdownWorker => exact (blind_shutdown r.manager).bind fun _ => blind_pure _
  | consultWorker | registerWorkflow =>
    exact (r.blind_onWorker fun _ _ _ => rfl).bind fun _ => blind_pure _
  | send command => exact (blind_lift (blind_sendCommand _ command)).bind fun _ => blind_pure _
  | join ticket => exact (blind_waitUntil fun _ _ => rfl).bind fun _ => blind_pure _
  | openLatch latch =>
    exact (blind_change fun x w => openLatch_withStream w x latch).bind fun _ => blind_pure _
  | awaitLatch latch limit => exact (blind_waitFor (fun _ _ => rfl) limit).bind fun _ => blind_pure _
  | increment | setStatus => exact (blind_change fun _ _ => rfl).bind fun _ => blind_pure _
  | sleep d =>
    exact ((blind_waitFor (fun _ _ => rfl) d).bind fun _ => blind_pure _).bind fun _ => blind_pure _
  | settle => exact (blind_change fun x w => settle_withStream w x).bind fun _ => blind_pure _

/-- No script sees the stream. -/
theorem blind_exec (script : Script α) (r : Runner) : (exec script r).Blind := by
  induction script generalizing r with
  | done result => exact blind_pure _
  | call op next ih => exact (r.blind_perform op).bind fun reply => ih reply.1 reply.2

theorem blind_connectTo (target : String) : (connectTo target).Blind := by
  refine (blind_lift (blind_connect target)).bind fun connected => ?_
  cases connected <;> exact blind_pure _

theorem blind_releaseAll (ids : List ConnectionId) : (releaseAll ids).Blind := by
  induction ids with
  | nil => exact blind_pure _
  | cons id ids ih => exact (blind_lift fun _ _ => rfl).bind fun _ => ih

theorem blind_assemble (config : Config) (prepared : PreparedFeature) (feature : Feature)
    (service directService : ConnectionId) :
    (assemble config prepared feature service directService).Blind := by
  refine (blind_lift (blind_newClient _ _)).bind fun made => ?_
  cases made with
  | error e => exact blind_pure _
  | ok client =>
    refine (blind_lift (blind_newClient _ _)).bind fun made => ?_
    cases made with
    | error e => exact blind_pure _
    | ok directClient =>
      refine (blind_restartWorker _).bind fun restarted => ?_
      obtain ⟨result, runner⟩ := restarted
      cases result <;> exact blind_pure _

theorem blind_openConnections (config : Config) (prepared : PreparedFeature) (feature : Feature) :
    (openConnections config prepared feature).Blind := by
  refine (blind_connectTo _).bind fun connected => ?_
  cases connected with
  | error e => exact blind_pure _
  | ok service =>
    refine (blind_connectTo _).bind fun connected => ?_
    cases connected with
    | error e => exact (blind_releaseAll _).bind fun _ => blind_pure _
    | ok directService =>
      refine (blind_assemble _ _ _ _ _).bind fun assembled => ?_
      cases assembled with
      | error e => exact (blind_releaseAll _).bind fun _ => blind_pure _
      | ok runner => exact blind_pure _

theorem blind_launch (config : Config) (prepared : PreparedFeature) : (launch config prepared).Blind := by
  unfold launch
  cases config.validate with
  | error e => exact blind_pure _
  | ok =>
    refine Blind.bind (blind_lift fun _ _ => rfl) fun feature => ?_
    cases feature.skipReason with
    | some reason => exact blind_pure _
    | none => exact blind_openConnections config prepared feature

theorem blind_close : r.close.Blind := by
  refine (blind_shutdown r.manager).bind fun _ => ?_
  refine (blind_lift fun _ _ => rfl).bind fun _ => ?_
  exact (blind_lift fun _ _ => rfl).bind fun _ => blind_pure _

end Runner

/-- A run of a feature has the same outcome whatever the stream does, and leaves the stream alone. -/
theorem blind_runFeature (config : Config) (prepared : PreparedFeature) :
    (runFeature config prepared).Blind := by
  refine Program.Blind.bind ?_ fun _ => Program.blind_pure _
  refine (Runner.blind_launch config prepared).bind fun launched => ?_
  cases launched with
  | error e => exact Program.blind_pure _
  | ok runner =>
    refine (Runner.blind_exec _ runner).bind fun ran => ?_
    exact ran.2.blind_close.bind fun _ => Program.blind_pure _

end Conformance
