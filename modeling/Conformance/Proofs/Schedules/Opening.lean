import Conformance.Proofs.Schedules.Rules
import Conformance.Proofs.Server.Accounting
import Conformance.Proofs.Server.Holdings
import Conformance.Runner.Run

/-!
# Opening in every schedule

What a launch does to a dormant world whose SDK makes the calls that it is asked for: two connections
and two clients, and then a factory with one worker, which polls. Nothing else happens meanwhile.

## Main definitions

- `Sdk.Makes`, `Sdk.Strikes` — calls that are made one after another, or up to a fault
- `World.Prepares` — worlds that differ in what is only prepared
- `World.connected`, `World.equipped`, `World.staffed`, `World.manned` — a world with connections more,
  with a factory, with a worker, and with a worker that polls
- `Runner.opened` — the runner that a launch makes

## Main statements

- `Program.goes_build` — a worker is built, and polls
- `Program.goes_build_of_strikes` — a worker is not built, and nothing polls that has not polled before
- `Runner.goes_launch` — a launch succeeds
-/

namespace Conformance

/-! ## Calls and faults -/

namespace Sdk

/-- The SDK after calls at some points, one after another. -/
def entered (s : Sdk) (points : List SdkPoint) : Sdk := points.foldl (fun s point => (s.enter point).2) s

/-- No fault replaces any of some calls that are made one after another. -/
def Makes : Sdk → List SdkPoint → Prop
  | _, [] => True
  | s, point :: rest => (s.enter point).1 = none ∧ (s.enter point).2.Makes rest

/-- The first fault that replaces one of some calls that are made one after another has the error. -/
def Strikes (e : Error) : Sdk → List SdkPoint → Prop
  | _, [] => False
  | s, point :: rest =>
    (∃ nth, (s.enter point).1 = some ⟨point, nth, some e⟩) ∨
      (s.enter point).1 = none ∧ (s.enter point).2.Strikes e rest

variable {s : Sdk} {points points' : List SdkPoint}

theorem makes_append :
    s.Makes (points ++ points') ↔ s.Makes points ∧ (s.entered points).Makes points' := by
  induction points generalizing s with
  | nil => simp [Makes, entered]
  | cons point points ih => simp [Makes, ih, entered, and_assoc]

theorem makes_of_no_faults (h : s.faults = []) (points : List SdkPoint) : s.Makes points := by
  induction points generalizing s with
  | nil => trivial
  | cons point points ih =>
    refine ⟨?_, ih h⟩
    unfold enter
    rw [h]
    rfl

/-- Counting calls changes nothing else. -/
theorem entered_eq (s : Sdk) (points : List SdkPoint) :
    s.entered points = { s with counts := (s.entered points).counts } := by
  induction points generalizing s with
  | nil => rfl
  | cons point points ih => exact ih _

@[simp] theorem name_entered (s : Sdk) (points : List SdkPoint) : (s.entered points).name = s.name := by
  rw [entered_eq]

@[simp] theorem version_entered (s : Sdk) (points : List SdkPoint) :
    (s.entered points).version = s.version := by
  rw [entered_eq]

@[simp] theorem faults_entered (s : Sdk) (points : List SdkPoint) :
    (s.entered points).faults = s.faults := by
  rw [entered_eq]

end Sdk

namespace World

/-! ## Single calls -/

variable {w : World}

theorem guarded_of_makes {α : Type} {point : SdkPoint} (h : (w.sdk.enter point).1 = none)
    (call : World → Except Error α × World) :
    guarded point call w = call { w with sdk := (w.sdk.enter point).2 } := by
  have henter : w.enter point = (none, { w with sdk := (w.sdk.enter point).2 }) := Prod.ext h rfl
  unfold guarded
  rw [henter]

theorem guarded_of_strikes {α : Type} {point : SdkPoint} {nth : Nat} {e : Error}
    (h : (w.sdk.enter point).1 = some ⟨point, nth, some e⟩)
    (call : World → Except Error α × World) :
    guarded point call w = (.error e, { w with sdk := (w.sdk.enter point).2 }) := by
  have henter : w.enter point = (some ⟨point, nth, some e⟩, { w with sdk := (w.sdk.enter point).2 }) :=
    Prod.ext h rfl
  unfold guarded
  rw [henter]

theorem connect_of_makes (h : (w.sdk.enter .connect).1 = none) (hrefused : w.server.refused = [])
    (target : String) :
    connect target w = (.ok w.server.connections.length, { w with
      sdk := (w.sdk.enter .connect).2
      server := { w.server with connections := w.server.connections ++ [{ target }] }
      metrics := w.metrics ++ [("loopback_connections_opened", 1)] }) := by
  have hconnect : w.server.connect target = (.ok w.server.connections.length,
      { w.server with connections := w.server.connections ++ [{ target }] }) := by
    unfold Server.connect
    rw [if_neg]
    rw [hrefused]
    exact Bool.false_ne_true
  unfold connect
  rw [guarded_of_makes h]
  dsimp only
  rw [hconnect]

theorem newClient_of_makes (h : (w.sdk.enter .newClient).1 = none) (connection : ConnectionId)
    (ns : String) :
    newClient connection ns w = (.ok ⟨connection, ns⟩, { w with sdk := (w.sdk.enter .newClient).2 }) := by
  unfold newClient
  rw [guarded_of_makes h]

theorem newFactory_of_makes (h : (w.sdk.enter .newWorkerFactory).1 = none) (client : Client) :
    newFactory client w = (.ok w.factories.length, { w with
      sdk := (w.sdk.enter .newWorkerFactory).2
      factories := w.factories ++ [{ target := w.server.targetOf client.connection }] }) := by
  unfold newFactory
  rw [guarded_of_makes h]

theorem newFactory_of_strikes {nth : Nat} {e : Error}
    (h : (w.sdk.enter .newWorkerFactory).1 = some ⟨.newWorkerFactory, nth, some e⟩) (client : Client) :
    newFactory client w = (.error e, { w with sdk := (w.sdk.enter .newWorkerFactory).2 }) :=
  guarded_of_strikes h _

theorem newWorker_of_strikes {nth : Nat} {e : Error}
    (h : (w.sdk.enter .newWorker).1 = some ⟨.newWorker, nth, some e⟩) (factory : FactoryId)
    (queue : String) :
    newWorker factory queue w = (.error e, { w with sdk := (w.sdk.enter .newWorker).2 }) :=
  guarded_of_strikes h _

theorem startFactory_of_strikes {nth : Nat} {e : Error}
    (h : (w.sdk.enter .start).1 = some ⟨.start, nth, some e⟩) (factory : FactoryId) :
    startFactory factory w = (.error e, { w with sdk := (w.sdk.enter .start).2 }) := by
  have henter : w.enter .start = (some ⟨.start, nth, some e⟩, { w with sdk := (w.sdk.enter .start).2 }) :=
    Prod.ext h rfl
  unfold startFactory
  rw [henter]

theorem modify_concat_length {α : Type} (l : List α) (a : α) (f : α → α) :
    (l ++ [a]).modify l.length f = l ++ [f a] := by
  induction l with
  | nil => rfl
  | cons b l ih => simp [ih]

/-- A worker is made for the factory that was made last. -/
theorem newWorker_of_makes (h : (w.sdk.enter .newWorker).1 = none) {before : List WorkerFactory}
    {target : String} (hfactories : w.factories = before ++ [({ target } : WorkerFactory)])
    (queue : String) :
    newWorker before.length queue w = (.ok w.server.workers.length, { w with
      sdk := (w.sdk.enter .newWorker).2
      server := { w.server with workers := w.server.workers ++ [{ taskQueue := queue }] }
      factories := before ++ [{ target, workers := [w.server.workers.length] }] }) := by
  have hget : w.factories[before.length]? = some { target } := by
    rw [hfactories]
    exact List.getElem?_concat_length
  have hnot : ¬ (w.factory? before.length).map (·.running) = some true := by
    rw [factory?, hget]
    exact nofun
  unfold newWorker
  rw [guarded_of_makes h]
  refine (if_neg hnot).trans ?_
  dsimp only [modifyFactory]
  rw [hfactories, modify_concat_length]
  rfl

theorem updateWorker_of_ok {before : List Worker} {x x' : Worker}
    {change : Worker → Except Error Worker} (hworkers : w.server.workers = before ++ [x])
    (hchange : change x = .ok x') :
    updateWorker before.length change w =
      (.ok (), { w with server := { w.server with workers := before ++ [x'] } }) := by
  have hworker : w.server.worker? before.length = some x := by
    unfold Server.worker?
    rw [hworkers]
    exact List.getElem?_concat_length
  unfold updateWorker
  rw [Server.updateWorker_eq hworker, hchange]
  dsimp only [Server.modifyWorker]
  rw [hworkers, modify_concat_length]

/-- A factory that was made last is started with its one worker, which polls its queue then. Nobody waits
there. -/
theorem startFactory_of_makes (h : (w.sdk.enter .start).1 = none) {before : List WorkerFactory}
    {target : String} {worker : WorkerId} {x : Worker}
    (hfactories : w.factories = before ++ [{ target, workers := [worker] }])
    (hworker : w.server.worker? worker = some x) (hwaiting : w.server.waiting x.taskQueue = []) :
    startFactory before.length w = (.ok (), { w with
      sdk := (w.sdk.enter .start).2
      factories := before ++ [{ target, workers := [worker], running := true }]
      server := { w.server with
        pollers := w.server.pollers.insert x.taskQueue worker
        pending := w.server.pending.erase x.taskQueue
        calls := w.server.calls ++ [⟨target, .pollTaskQueue, none⟩] } }) := by
  have henter : w.enter .start = (none, { w with sdk := (w.sdk.enter .start).2 }) := Prod.ext h rfl
  have hget : w.factories[before.length]? = some { target, workers := [worker] } := by
    rw [hfactories]
    exact List.getElem?_concat_length
  have hattach := Server.attach_eq hworker target
  rw [hwaiting, List.map_nil, List.append_nil] at hattach
  unfold startFactory
  rw [henter]
  dsimp only [factory?]
  rw [hget]
  dsimp only [modifyFactory, attachAll, List.foldl_cons, List.foldl_nil]
  rw [hattach, hfactories, modify_concat_length]
  rfl

/-! ## Worlds that are prepared -/

/-- The worlds differ in connections, workers and factories, and in what is counted only; factories are
only added. -/
structure Prepares (w w' : World) : Prop where
  world : w' = { w with
    server := w'.server, sdk := w'.sdk, factories := w'.factories, metrics := w'.metrics
    instances := w'.instances }
  server : w'.server = { w.server with
    workers := w'.server.workers, connections := w'.server.connections }
  sdk : w'.sdk = { w.sdk with counts := w'.sdk.counts }
  factories : w.factories <+: w'.factories

variable {w' w'' : World}

theorem Prepares.refl (w : World) : w.Prepares w := ⟨rfl, rfl, rfl, List.prefix_rfl⟩

theorem Prepares.trans (h : w.Prepares w') (h' : w'.Prepares w'') : w.Prepares w'' := by
  have hworld := h'.world
  have hserver := h'.server
  have hsdk := h'.sdk
  rw [h.world] at hworld
  rw [h.server] at hserver
  rw [h.sdk] at hsdk
  exact ⟨hworld, hserver, hsdk, h.factories.trans h'.factories⟩

theorem Prepares.dormant (h : w.Prepares w') (hw : w.Dormant) : w'.Dormant := by
  refine hw.of_same ?_ ?_ ?_
  · rw [h.server]
  · rw [h.world]
  · rw [h.world]

theorem Prepares.factory? (h : w.Prepares w') {id : FactoryId} {f : WorkerFactory}
    (hf : w.factory? id = some f) : w'.factory? id = some f := by
  obtain ⟨made, hmade⟩ := h.factories
  have hlt := (List.getElem?_eq_some_iff.mp hf).1
  unfold World.factory?
  rw [← hmade, List.getElem?_append_left hlt]
  exact hf

theorem Prepares.waiting (h : w.Prepares w') (queue : String) :
    w'.server.waiting queue = w.server.waiting queue := by
  rw [h.server]
  rfl

/-- The world after a factory has been made. -/
def equipped (w : World) (target : String) : World :=
  { w with
    sdk := (w.sdk.enter .newWorkerFactory).2
    factories := w.factories ++ [{ target }] }

/-- The world after a factory has made a worker. -/
def staffed (w : World) (target : String) (x : Worker) : World :=
  { w with
    sdk := ((w.sdk.enter .newWorkerFactory).2.enter .newWorker).2
    factories := w.factories ++ [{ target, workers := [w.server.workers.length] }]
    server := { w.server with workers := w.server.workers ++ [x] } }

theorem prepares_equipped (w : World) (target : String) : w.Prepares (w.equipped target) :=
  ⟨rfl, rfl, rfl, List.prefix_append ..⟩

theorem prepares_staffed (w : World) (target : String) (x : Worker) :
    w.Prepares (w.staffed target x) :=
  ⟨rfl, rfl, rfl, List.prefix_append ..⟩

/-- The world with a worker more, of which a factory more has made it a poller of its queue. -/
def manned (w : World) (target : String) (x : Worker) : World :=
  { w with
    sdk := w.sdk.entered [.newWorkerFactory, .newWorker, .start]
    factories := w.factories ++ [{ target, workers := [w.server.workers.length], running := true }]
    server := { w.server with
      workers := w.server.workers ++ [x]
      pollers := w.server.pollers.insert x.taskQueue w.server.workers.length
      pending := w.server.pending.erase x.taskQueue
      calls := w.server.calls ++ [⟨target, .pollTaskQueue, none⟩] } }

end World

/-! ## Building a worker -/

namespace Program

open World

variable {α β : Type} {Inv : World → Prop} {w w' w'' : World}

/-- Programs one after another, as long as they succeed. -/
theorem Goes.bindT {p : ExceptT Error Program α} {f : α → ExceptT Error Program β} {a : α}
    {b : Except Error β} (h : Goes Inv p.run w (.ok a) w') (hf : Goes Inv (f a).run w' b w'') :
    Goes Inv (p >>= f).run w b w'' := by
  rw [ExceptT.run_bind]
  exact h.bind hf

/-- A failure ends them. -/
theorem Goes.bindT_error {p : ExceptT Error Program α} {f : α → ExceptT Error Program β} {e : Error}
    (h : Goes Inv p.run w (.error e) w') (hinv : Inv w') : Goes Inv (p >>= f).run w (.error e) w' := by
  rw [ExceptT.run_bind]
  exact h.bind (goes_pure hinv)

variable {feature : Feature} {queue : String} {x : Worker}

section

variable (hw : w.Dormant) (hinv : ∀ w', w.Prepares w' → Inv w')
include hw hinv

theorem goes_newFactory (h : (w.sdk.enter .newWorkerFactory).1 = none) (client : Client) :
    Goes Inv (lift (World.newFactory client)) w (.ok w.factories.length)
      (w.equipped (w.server.targetOf client.connection)) :=
  goes_lift hw (hinv w (.refl w)) (newFactory_of_makes h client) (hinv _ (prepares_equipped ..))

/-- A worker is made and prepared in two steps. -/
theorem goes_newWorker (hprepare : feature.prepare { taskQueue := queue } = .ok x)
    (h : ((w.sdk.enter .newWorkerFactory).2.enter .newWorker).1 = none) (target : String) :
    Goes Inv (lift (World.newWorker w.factories.length queue)) (w.equipped target)
        (.ok w.server.workers.length) (w.staffed target { taskQueue := queue }) ∧
      Goes Inv (lift (World.updateWorker w.server.workers.length feature.prepare))
        (w.staffed target { taskQueue := queue }) (.ok ()) (w.staffed target x) := by
  have hfactory := prepares_equipped w target
  have hraw := prepares_staffed w target { taskQueue := queue }
  have hprepared := prepares_staffed w target x
  refine ⟨?_, ?_⟩
  · exact goes_lift (hfactory.dormant hw) (hinv _ hfactory)
      (newWorker_of_makes (w := w.equipped target) h rfl queue) (hinv _ hraw)
  · exact goes_lift (hraw.dormant hw) (hinv _ hraw)
      (updateWorker_of_ok (w := w.staffed target { taskQueue := queue }) rfl hprepare)
      (hinv _ hprepared)

/-- A worker is built, and polls its queue. -/
theorem goes_build (hmakes : w.sdk.Makes [.newWorkerFactory, .newWorker, .start])
    (hprepare : feature.prepare { taskQueue := queue } = .ok x)
    (hwaiting : w.server.waiting x.taskQueue = []) (client : Client)
    (hinv' : Inv (w.manned (w.server.targetOf client.connection) x)) :
    Goes Inv (WorkerManager.build client feature queue).run w
      (.ok (w.factories.length, w.server.workers.length))
      (w.manned (w.server.targetOf client.connection) x) := by
  obtain ⟨hfactory, hworker, hstart, -⟩ := hmakes
  obtain ⟨hnew, hupdate⟩ := goes_newWorker hw hinv hprepare hworker
    (w.server.targetOf client.connection)
  have hready := prepares_staffed w (w.server.targetOf client.connection) x
  unfold WorkerManager.build
  refine (goes_newFactory hw hinv hfactory client).bindT ?_
  refine hnew.bindT (hupdate.bindT (Goes.bindT (a := ()) ?_ (goes_pure hinv')))
  refine goes_lift (hready.dormant hw) (hinv _ hready) (startFactory_of_makes (x := x) hstart rfl ?_ ?_)
    hinv'
  · exact List.getElem?_concat_length
  · exact (hready.waiting _).trans hwaiting

/-- A worker is not built, and what has been made for it is left behind. -/
theorem goes_build_of_strikes {e : Error}
    (hstrikes : w.sdk.Strikes e [.newWorkerFactory, .newWorker, .start])
    (hprepare : feature.prepare { taskQueue := queue } = .ok x) (client : Client) :
    ∃ w', w.Prepares w' ∧
      Goes Inv (WorkerManager.build client feature queue).run w (.error e) w' := by
  have counted : ∀ {v : World} (point : SdkPoint), w.Prepares v →
      w.Prepares { v with sdk := (v.sdk.enter point).2 } := fun _ h =>
    h.trans ⟨rfl, rfl, rfl, List.prefix_rfl⟩
  unfold WorkerManager.build
  obtain ⟨nth, hfactory⟩ | ⟨hfactory, hrest⟩ := hstrikes
  · have hend := counted .newWorkerFactory (.refl w)
    have hfails := goes_lift hw (hinv w (.refl w)) (newFactory_of_strikes hfactory client) (hinv _ hend)
    exact ⟨_, hend, hfails.bindT_error (hinv _ hend)⟩
  have hmade := goes_newFactory hw hinv hfactory client
  have hbare := prepares_equipped w (w.server.targetOf client.connection)
  obtain ⟨nth, hworker⟩ | ⟨hworker, hrest⟩ := hrest
  · have hend := counted .newWorker hbare
    have hfails := goes_lift (hbare.dormant hw) (hinv _ hbare)
      (newWorker_of_strikes (w := w.equipped _) hworker w.factories.length queue) (hinv _ hend)
    exact ⟨_, hend, hmade.bindT (hfails.bindT_error (hinv _ hend))⟩
  obtain ⟨hnew, hupdate⟩ := goes_newWorker hw hinv hprepare hworker
    (w.server.targetOf client.connection)
  have hready := prepares_staffed w (w.server.targetOf client.connection) x
  obtain ⟨nth, hstart⟩ | ⟨-, hrest⟩ := hrest
  · have hend := counted .start hready
    have hfails := goes_lift (hready.dormant hw) (hinv _ hready)
      (startFactory_of_strikes (w := w.staffed _ x) hstart w.factories.length) (hinv _ hend)
    exact ⟨_, hend, hmade.bindT (hnew.bindT (hupdate.bindT (hfails.bindT_error (hinv _ hend))))⟩
  · exact hrest.elim

end

end Program

/-! ## Launching a runner -/

/-- The calls of a launch that a fault can replace. -/
def Runner.launchCalls : List SdkPoint :=
  [.connect, .connect, .newClient, .newClient, .newWorkerFactory, .newWorker, .start]

namespace World

/-- The world with an instance and two connections more, each with a client. -/
def connected (w : World) (proxied direct : String) : World :=
  { w with
    instances := w.instances + 1
    sdk := w.sdk.entered [.connect, .connect, .newClient, .newClient]
    server := { w.server with
      connections := w.server.connections ++ [{ target := proxied }] ++ [{ target := direct }] }
    metrics := w.metrics ++ [("loopback_connections_opened", 1)] ++
      [("loopback_connections_opened", 1)] }

/-- Both connections are open. -/
theorem isOpen_connected {s : Server} {before : List Connection} {proxied direct : String}
    (h : s.connections = before ++ [{ target := proxied }] ++ [{ target := direct }]) :
    s.isOpen before.length = true ∧ s.isOpen (before.length + 1) = true := by
  unfold Server.isOpen
  rw [h]
  simp

end World

namespace Runner

open World Program

/-- The runner that is opened for an instance of a feature. -/
def opened (config : Config) (prepared : PreparedFeature) (w : World) : Runner where
  config
  dir := prepared.dir
  methods := prepared.methods
  feature := prepared.instanceAt (w.instances + 1)
  service := w.server.connections.length
  directService := w.server.connections.length + 1
  client := ⟨w.server.connections.length,
    (prepared.instanceAt (w.instances + 1)).clientNamespace config.ns⟩
  directClient := ⟨w.server.connections.length + 1,
    (prepared.instanceAt (w.instances + 1)).clientNamespace config.ns⟩
  manager := .replaceWith {} w.factories.length w.server.workers.length
  proxy := ⟨config.proxyControl⟩

/-- The world after a launch. -/
def launched (config : Config) (prepared : PreparedFeature) (x : Worker) (w : World) : World :=
  let f := prepared.instanceAt (w.instances + 1)
  let w' := w.connected (f.serviceTarget config.server) config.direct
  w'.manned (w'.server.targetOf (opened config prepared w).workerClient.connection) x

variable {Inv : World → Prop} {config : Config} {prepared : PreparedFeature} {w w' : World}

theorem goes_connectTo (hw : w.Dormant) (hinv : Inv w) {target : String}
    (h : (w.sdk.enter .connect).1 = none) (hrefused : w.server.refused = [])
    (hinv' : Inv { w with
      sdk := (w.sdk.enter .connect).2
      server := { w.server with connections := w.server.connections ++ [{ target }] }
      metrics := w.metrics ++ [("loopback_connections_opened", 1)] }) :
    Goes Inv (connectTo target) w (.ok w.server.connections.length) { w with
      sdk := (w.sdk.enter .connect).2
      server := { w.server with connections := w.server.connections ++ [{ target }] }
      metrics := w.metrics ++ [("loopback_connections_opened", 1)] } := by
  unfold connectTo
  exact (goes_lift hw hinv (connect_of_makes h hrefused target) hinv').bind (goes_pure hinv')

theorem goes_restartWorker {r : Runner} {factory : FactoryId} {worker : WorkerId} (hinv' : Inv w')
    (h : Goes Inv (WorkerManager.build r.workerClient r.feature r.config.taskQueue).run w
      (.ok (factory, worker)) w') :
    Goes Inv r.restartWorker w
      (.ok (), { r with manager := r.manager.replaceWith factory worker }) w' := by
  have hrestart : Goes Inv (r.manager.restart r.workerClient r.feature r.config.taskQueue) w
      (.ok (), r.manager.replaceWith factory worker) w' := by
    unfold WorkerManager.restart
    exact h.bind (goes_pure hinv')
  exact hrestart.bind (goes_pure hinv')

/-- A worker that is not built leaves its runner as it is. -/
theorem goes_restartWorker_of_error {r : Runner} {e : Error} (hinv' : Inv w')
    (h : Goes Inv (WorkerManager.build r.workerClient r.feature r.config.taskQueue).run w (.error e)
      w') :
    Goes Inv r.restartWorker w (.error e, r) w' := by
  have hrestart : Goes Inv (r.manager.restart r.workerClient r.feature r.config.taskQueue) w
      (.error e, r.manager) w' := by
    unfold WorkerManager.restart
    exact h.bind (goes_pure hinv')
  exact hrestart.bind (goes_pure hinv')

/-- A runner is put together on two open connections: both clients are made, and a worker is started. -/
theorem goes_assemble {feature : Feature} (hw : w.Dormant) (hinv : ∀ w', w.Prepares w' → Inv w')
    (hmakes : w.sdk.Makes [.newClient, .newClient, .newWorkerFactory, .newWorker, .start]) {x : Worker}
    (hprepare : feature.prepare { taskQueue := config.taskQueue } = .ok x)
    (hwaiting : w.server.waiting x.taskQueue = []) {service directService : ConnectionId} {r : Runner}
    (hr : r = { config, feature, service, directService
                dir := prepared.dir
                methods := prepared.methods
                client := ⟨service, feature.clientNamespace config.ns⟩
                directClient := ⟨directService, feature.clientNamespace config.ns⟩
                manager := .replaceWith {} w.factories.length w.server.workers.length
                proxy := ⟨config.proxyControl⟩ })
    (hw' : w' = World.manned { w with sdk := w.sdk.entered [.newClient, .newClient] }
      (w.server.targetOf r.workerClient.connection) x) (hinv' : Inv w') :
    Goes Inv (assemble config prepared feature service directService) w (.ok r) w' := by
  subst hr hw'
  obtain ⟨hclient, hdirectClient, hbuild⟩ := hmakes
  let w₁ : World := { w with sdk := (w.sdk.enter .newClient).2 }
  let w₂ : World := { w₁ with sdk := (w₁.sdk.enter .newClient).2 }
  have h₁ : w.Prepares w₁ := ⟨rfl, rfl, rfl, List.prefix_rfl⟩
  have h₂ : w.Prepares w₂ := ⟨rfl, rfl, rfl, List.prefix_rfl⟩
  have hfirst := goes_lift hw (hinv w (.refl w))
    (newClient_of_makes hclient service (feature.clientNamespace config.ns)) (hinv w₁ h₁)
  have hsecond := goes_lift (h₁.dormant hw) (hinv w₁ h₁)
    (newClient_of_makes hdirectClient directService (feature.clientNamespace config.ns)) (hinv w₂ h₂)
  unfold assemble
  refine hfirst.bind (hsecond.bind (Goes.bind (goes_restartWorker hinv' ?_) (goes_pure hinv')))
  exact goes_build (h₂.dormant hw) (fun v hv => hinv v (h₂.trans hv)) hbuild hprepare hwaiting _ hinv'

/-- A launch succeeds whose settings are valid, whose feature can be prepared, and whose calls are made:
it opens two connections and starts one worker. -/
theorem goes_launch (hw : w.Dormant) (hinv : ∀ w', w.Prepares w' → Inv w')
    (hvalid : config.validate = .ok ())
    (hskip : (prepared.instanceAt (w.instances + 1)).skipReason = none)
    (hmakes : w.sdk.Makes launchCalls) (hrefused : w.server.refused = []) {x : Worker}
    (hprepare : (prepared.instanceAt (w.instances + 1)).prepare { taskQueue := config.taskQueue } =
      .ok x)
    (hwaiting : w.server.waiting x.taskQueue = []) (hinv' : Inv (launched config prepared x w)) :
    Goes Inv (launch config prepared) w (.ok (opened config prepared w))
      (launched config prepared x w) := by
  let f := prepared.instanceAt (w.instances + 1)
  obtain ⟨hproxied, hdirect, hassemble⟩ := hmakes
  -- the worlds between the calls differ from the first one in what is prepared
  let w₁ : World := { w with instances := w.instances + 1 }
  let w₂ : World := { w₁ with
    sdk := (w₁.sdk.enter .connect).2
    server := { w₁.server with
      connections := w₁.server.connections ++ [{ target := f.serviceTarget config.server }] }
    metrics := w₁.metrics ++ [("loopback_connections_opened", 1)] }
  let w₃ : World := { w₂ with
    sdk := (w₂.sdk.enter .connect).2
    server := { w₂.server with
      connections := w₂.server.connections ++ [{ target := config.direct }] }
    metrics := w₂.metrics ++ [("loopback_connections_opened", 1)] }
  have h₁ : w.Prepares w₁ := ⟨rfl, rfl, rfl, List.prefix_rfl⟩
  have h₂ : w.Prepares w₂ := ⟨rfl, rfl, rfl, List.prefix_rfl⟩
  have h₃ : w.Prepares w₃ := ⟨rfl, rfl, rfl, List.prefix_rfl⟩
  have hlength : w₂.server.connections.length = w.server.connections.length + 1 := by
    show (w.server.connections ++ [_]).length = _
    rw [List.length_append]
    rfl
  have hinstance : Goes Inv (newInstance prepared) w f w₁ :=
    goes_lift hw (hinv w (.refl w)) rfl (hinv w₁ h₁)
  have hassembled : Goes Inv
      (assemble config prepared f w.server.connections.length (w.server.connections.length + 1)) w₃
      (.ok (opened config prepared w)) (launched config prepared x w) :=
    goes_assemble (h₃.dormant hw) (fun v hv => hinv v (h₃.trans hv)) hassemble hprepare
      ((h₃.waiting _).trans hwaiting) rfl rfl hinv'
  unfold launch
  rw [hvalid]
  refine hinstance.bind ?_
  rw [hskip]
  refine (goes_connectTo (h₁.dormant hw) (hinv _ h₁) hproxied hrefused (hinv _ h₂)).bind ?_
  refine (goes_connectTo (h₂.dormant hw) (hinv _ h₂) hdirect hrefused (hinv _ h₃)).bind ?_
  rw [hlength]
  exact hassembled.bind (goes_pure hinv')

end Runner

end Conformance
