import Conformance.Proofs.Runner.Traffic

/-!
# Where the calls of a run go

A run has two connections, one through the proxy and one past it. Its feature chooses one of them for
initiating calls and one for its worker. Every operation picks a client or a connection on its own;
all of them pick the one that was chosen.

## Main definitions

- `Feature.initiatorTarget`, `Feature.workerTarget` — the addresses that a feature has chosen
- `Feature.Routes` — a call that goes where it should
- `Runner.Wired` — the connections, clients and the factory of a runner are those it should have
- `Runner.Routed` — a wired runner, and what has been called for it
- `Runner.BothConnect` — both connections of a run are opened

## Main statements

- `Runner.ensures_exec_routed` — every script calls where it should and leaves a runner that is wired
- `Runner.routed_launch` — a runner opens its two connections in order
- `calls_are_routed` — so does a whole run

## Design notes

What is recorded is compared with what was recorded before, so that a run may start in a world in which
others have been before it.
-/

namespace Conformance

/-- The calls with which runs of workflows are started and looked after. -/
def Operation.IsInitiating : Operation → Prop
  | .startWorkflow | .update | .fetchHistory | .describeExecution => True
  | _ => False

/-- The calls of a worker. -/
def Operation.IsPolling : Operation → Prop
  | .pollTaskQueue | .shutdownWorkerFactory => True
  | _ => False

namespace Feature

/-- The address of initiating calls. -/
def initiatorTarget (f : Feature) (config : Config) : String :=
  if f.initiatorUsesProxy then f.serviceTarget config.server else config.direct

/-- The address of the worker. -/
def workerTarget (f : Feature) (config : Config) : String :=
  if f.workerUsesProxy then f.serviceTarget config.server else config.direct

/-- The call goes where the feature wants calls of its kind to go. -/
structure Routes (f : Feature) (config : Config) (c : Call) : Prop where
  initiating : c.operation.IsInitiating → c.target = f.initiatorTarget config
  polling : c.operation.IsPolling → c.target = f.workerTarget config

end Feature

/-! ## Runners -/

open World Program

variable {config : Config} {feature : Feature}

/-- The connection of a number goes to an address. -/
def Server.Dials (s : Server) (id : ConnectionId) (target : String) : Prop :=
  (s.connections.map (·.target))[id]? = some target

theorem Server.Dials.targetOf {s : Server} {id : ConnectionId} {target : String}
    (h : s.Dials id target) : s.targetOf id = target := by
  rw [Dials, List.getElem?_map, Option.map_eq_some_iff] at h
  obtain ⟨c, hc, rfl⟩ := h
  rw [Server.targetOf, hc]

theorem Server.Traffic.dials {ok : Call → Prop} {opened : List String} {s s' : Server}
    (h : s.Traffic ok opened s') {id : ConnectionId} {target : String} (hdials : s.Dials id target) :
    s'.Dials id target := by
  rw [Dials, h.connections]
  exact getElem?_append_of_some hdials opened

/-- The runner has the connections, the clients and the factory that its feature has chosen. -/
structure Runner.Wired (config : Config) (feature : Feature) (r : Runner) (w : World) : Prop where
  sameConfig : r.config = config
  sameFeature : r.feature = feature
  service : w.server.Dials r.service (feature.serviceTarget config.server)
  directService : w.server.Dials r.directService config.direct
  client : r.client.connection = r.service
  directClient : r.directClient.connection = r.directService
  factory : ∀ factory, r.manager.factory? = some factory →
    w.factoryTarget? factory = some (feature.workerTarget config)

namespace Runner

variable {r : Runner} {w w' : World}

theorem Wired.traffic {ok : Call → Prop} {opened : List String} (h : r.Wired config feature w)
    (htraffic : w.Traffic ok opened w') : r.Wired config feature w' where
  sameConfig := h.sameConfig
  sameFeature := h.sameFeature
  service := htraffic.server.dials h.service
  directService := htraffic.server.dials h.directService
  client := h.client
  directClient := h.directClient
  factory factory hcurrent := htraffic.factoryTarget? (h.factory factory hcurrent)

section

variable (h : r.Wired config feature w)
include h

theorem Wired.targetOf_initiatorClient :
    w.server.targetOf r.initiatorClient.connection = feature.initiatorTarget config := by
  unfold initiatorClient Feature.initiatorTarget
  rw [h.sameFeature]
  split
  · rw [h.client, h.service.targetOf]
  · rw [h.directClient, h.directService.targetOf]

theorem Wired.targetOf_initiatorService :
    w.server.targetOf r.initiatorService = feature.initiatorTarget config := by
  unfold initiatorService Feature.initiatorTarget
  rw [h.sameFeature]
  split
  · exact h.service.targetOf
  · exact h.directService.targetOf

theorem Wired.targetOf_workerClient :
    w.server.targetOf r.workerClient.connection = feature.workerTarget config := by
  unfold workerClient Feature.workerTarget
  rw [h.sameFeature]
  split
  · rw [h.client, h.service.targetOf]
  · rw [h.directClient, h.directService.targetOf]

end

/-- A runner that is wired, in a world that no other calls have led to than those that go where they
should. -/
structure Routed (config : Config) (feature : Feature) (w₀ : World) (opened : List String)
    (r : Runner) (w : World) : Prop where
  traffic : w₀.Traffic (feature.Routes config) opened w
  wired : r.Wired config feature w

variable {w₀ : World} {opened : List String}

theorem Routed.trans (h : Routed config feature w₀ opened r w)
    (htraffic : w.Traffic (feature.Routes config) [] w') :
    Routed config feature w₀ opened r w' where
  traffic := by
    have hmore := h.traffic.trans htraffic
    rwa [List.append_nil] at hmore
  wired := h.wired.traffic htraffic

/-! ## Operations -/

/-- An initiating call goes where it should. -/
theorem routes_initiating {operation : Operation} {target : String} {ns : Option String}
    (hpolling : ¬ operation.IsPolling) (htarget : target = feature.initiatorTarget config) :
    feature.Routes config ⟨target, operation, ns⟩ :=
  ⟨fun _ => htarget, fun h => absurd h hpolling⟩

/-- A call of a worker goes where it should. -/
theorem routes_polling {operation : Operation} {target : String} {ns : Option String}
    (hinitiating : ¬ operation.IsInitiating) (htarget : target = feature.workerTarget config) :
    feature.Routes config ⟨target, operation, ns⟩ :=
  ⟨fun h => absurd h hinitiating, fun _ => htarget⟩

/-- A connection may be shut down at any address. -/
theorem routes_shutdownService (target : String) (ns : Option String) :
    feature.Routes config ⟨target, .shutdownService, ns⟩ :=
  ⟨fun h => h.elim, fun h => h.elim⟩

/-- A runner that is wired calls where it should. -/
theorem Wired.mayCall (h : r.Wired config feature w) : r.MayCall (feature.Routes config) w where
  start := routes_initiating id h.targetOf_initiatorClient
  update := routes_initiating id h.targetOf_initiatorClient
  history := routes_initiating id h.targetOf_initiatorService
  describe := routes_initiating id h.targetOf_initiatorService
  shutdown factory target hcurrent htarget := by
    rw [h.factory factory hcurrent] at htarget
    exact routes_polling id (Option.some.inj htarget).symm
  close target := routes_shutdownService target none

/-! ## Restarting the worker -/

theorem ensures_routed {α : Type} {p : Program α} {P : World → Prop}
    (h : ∀ w, P w → Routed config feature w₀ opened r w ∧
      w.Traffic (feature.Routes config) [] (p.run w).2) :
    Ensures P p (fun _ => Routed config feature w₀ opened r) :=
  fun w hw => (h w hw).1.trans (h w hw).2

/-- A runner that is wired, and a factory with the address of its worker. -/
structure RoutedWith (config : Config) (feature : Feature) (w₀ : World) (opened : List String)
    (r : Runner) (factory : FactoryId) (w : World) : Prop where
  routed : Routed config feature w₀ opened r w
  factory : w.factoryTarget? factory = some (feature.workerTarget config)

theorem RoutedWith.trans {factory : FactoryId}
    (h : RoutedWith config feature w₀ opened r factory w)
    (htraffic : w.Traffic (feature.Routes config) [] w') :
    RoutedWith config feature w₀ opened r factory w' where
  routed := h.routed.trans htraffic
  factory := htraffic.factoryTarget? h.factory

/-- What happens with a factory at hand ends with it at hand, also where it fails. -/
theorem ensures_routedWith {α : Type} {factory : FactoryId} {action : World → Except Error α × World}
    (h : ∀ w, RoutedWith config feature w₀ opened r factory w →
      w.Traffic (feature.Routes config) [] (action w).2) :
    Ensures (RoutedWith config feature w₀ opened r factory) (lift action)
      (OnResult (fun _ => RoutedWith config feature w₀ opened r factory)
        (Routed config feature w₀ opened r)) := by
  refine ensures_lift fun w hw => ?_
  have hafter := hw.trans (h w hw)
  cases (action w).1 with
  | ok a => exact hafter
  | error e => exact hafter.routed

theorem ensures_newFactory_routed :
    Ensures (Routed config feature w₀ opened r) (lift (World.newFactory r.workerClient))
      (OnResult (RoutedWith config feature w₀ opened r) (Routed config feature w₀ opened r)) := by
  refine ensures_lift fun w hw => ?_
  have hmade : w.Traffic (feature.Routes config) [] (World.newFactory r.workerClient w).2 ∧ _ :=
    traffic_newFactory r.workerClient w
  obtain ⟨htraffic, htarget⟩ := hmade
  have hafter := hw.trans htraffic
  cases hresult : (World.newFactory r.workerClient w).1 with
  | ok factory => exact ⟨hafter, hw.wired.targetOf_workerClient ▸ htarget factory hresult⟩
  | error e => exact hafter

/-- A worker polls the address that its feature has chosen. -/
theorem ensures_build_routed (prepared : Feature) (queue : String) :
    Ensures (Routed config feature w₀ opened r)
      (WorkerManager.build r.workerClient prepared queue).run
      (OnResult (fun pair => RoutedWith config feature w₀ opened r pair.1)
        (Routed config feature w₀ opened r)) := by
  unfold WorkerManager.build
  refine ensures_newFactory_routed.bindT fun factory => ?_
  refine (ensures_routedWith fun w _ => traffic_newWorker factory queue w).bindT fun worker => ?_
  refine (ensures_routedWith fun w _ =>
    World.traffic_serve w (.updateWorker worker _) trivial).bindT fun _ => ?_
  refine (ensures_routedWith fun w hw => traffic_startFactory factory w fun target htarget =>
    routes_polling id ?_).bindT fun _ => ?_
  · rw [hw.factory] at htarget
    exact (Option.some.inj htarget).symm
  · exact ensures_pure _ fun _ h => h

theorem ensures_restartWorker_routed (r : Runner) :
    Ensures (Routed config feature w₀ opened r) r.restartWorker
      (fun restarted => Routed config feature w₀ opened restarted.2) := by
  unfold restartWorker WorkerManager.restart
  refine Ensures.bind (Q := fun restarted w =>
    Routed config feature w₀ opened { r with manager := restarted.2 } w) ?_ fun restarted => ?_
  · refine (ensures_build_routed r.feature r.config.taskQueue).bind fun result => ?_
    cases result with
    | error e => exact ensures_pure _ fun w h => h
    | ok pair =>
      refine ensures_pure _ fun w h => ⟨h.routed.traffic, ?_⟩
      obtain ⟨hconfig, hfeature, hservice, hdirect, hclient, hdirectClient, -⟩ := h.routed.wired
      refine ⟨hconfig, hfeature, hservice, hdirect, hclient, hdirectClient, ?_⟩
      rintro factory ⟨⟩
      exact h.factory
  · exact ensures_pure _ fun w h => h

/-- Every operation calls where it should and leaves a runner that is wired. -/
theorem ensures_perform_routed (r : Runner) (op : RunnerOp) :
    Ensures (Routed config feature w₀ opened r) (r.perform op)
      (fun reply => Routed config feature w₀ opened reply.2) := by
  by_cases hop : op = .restartWorker
  · subst hop
    exact ensures_restartWorker_routed r
  · intro w h
    rw [(r.stays_perform hop w).1]
    exact h.trans (traffic_perform h.wired.mayCall hop)

/-- So does every script, also one that ends with an error. -/
theorem ensures_exec_routed {α : Type} (script : Script α) (r : Runner) :
    Ensures (Routed config feature w₀ opened r) (exec script r)
      (fun ended => Routed config feature w₀ opened ended.2) := by
  induction script generalizing r with
  | done result => exact fun w h => h
  | call op next ih => exact (ensures_perform_routed r op).bind fun reply => ih reply.1 reply.2

/-- A runner lets go at the addresses it has called. -/
theorem traffic_close {w : World} (h : Routed config feature w₀ opened r w) :
    w₀.Traffic (feature.Routes config) opened (r.close.run w).2 := by
  have hservice : ∀ id, Ensures (Routed config feature w₀ opened r) (lift (World.closeService id))
      (fun _ => Routed config feature w₀ opened r) :=
    fun id => ensures_routed fun w hw =>
      ⟨hw, traffic_closeService (routes_shutdownService · none) id w⟩
  have hclosed : Ensures (Routed config feature w₀ opened r) r.close
      (fun _ => Routed config feature w₀ opened r) := by
    refine (ensures_routed fun w hw => ⟨hw, traffic_shutdown hw.wired.mayCall⟩).bind fun worker => ?_
    refine (hservice r.directService).bind fun direct => ?_
    refine (hservice r.service).bind fun proxied => ?_
    exact ensures_pure _ fun w hw => hw
  exact (hclosed w h).traffic

/-! ## Opening -/

/-- The addresses of the connections that are opened for a runner: the proxied one, and then the direct
one if the first could be opened. -/
def dialled (config : Config) (feature : Feature) (w : World) : List String :=
  let proxied := feature.serviceTarget config.server
  match (connectTo proxied).run w with
  | (.error _, _) => []
  | (.ok _, w') =>
    match (connectTo config.direct).run w' with
    | (.error _, _) => [proxied]
    | (.ok _, _) => [proxied, config.direct]

theorem dialled_prefix (config : Config) (feature : Feature) (w : World) :
    dialled config feature w <+: [feature.serviceTarget config.server, config.direct] := by
  unfold dialled
  dsimp only
  split
  · exact List.nil_prefix
  · split
    · exact List.prefix_append [feature.serviceTarget config.server] [config.direct]
    · exact List.prefix_rfl

/-- A connection is opened at its address, or nothing happens. -/
theorem traffic_connectTo {ok : Call → Prop} (target : String) (w : World) :
    (∃ e w', (connectTo target).run w = (.error e, w') ∧ w.Traffic ok [] w') ∨
      ∃ id w', (connectTo target).run w = (.ok id, w') ∧ w.Traffic ok [target] w' ∧
        w'.server.Dials id target := by
  unfold connectTo
  rw [run_bind', run_lift]
  unfold World.connect
  rcases guarded_cases .connect _ w with hmade | ⟨e, hfailed⟩
  · rw [hmade]
    dsimp only
    rcases Server.connect_cases w.server target with ⟨e, hconnect⟩ | hconnect
    · rw [hconnect]
      exact .inl ⟨_, _, rfl, traffic_of_same rfl rfl⟩
    · rw [hconnect]
      refine .inr ⟨_, _, rfl, traffic_of_server ⟨⟨[], ?_, nofun⟩, ?_⟩ rfl, ?_⟩
      · exact (List.append_nil _).symm
      · exact List.map_append
      · show (List.map _ (w.server.connections ++ _))[w.server.connections.length]? = _
        rw [List.map_append, ← List.length_map (·.target)]
        exact List.getElem?_concat_length
  · rw [hfailed]
    exact .inl ⟨_, _, rfl, traffic_of_same rfl rfl⟩

/-- Two connections that go to the addresses of the feature, in a world that no other calls have led to
than those that go where they should. -/
structure Dialled (config : Config) (feature : Feature) (w₀ : World) (opened : List String)
    (service directService : ConnectionId) (w : World) : Prop where
  traffic : w₀.Traffic (feature.Routes config) opened w
  service : w.server.Dials service (feature.serviceTarget config.server)
  directService : w.server.Dials directService config.direct

theorem ensures_newClient_dialled {service directService : ConnectionId} (connection : ConnectionId)
    (ns : String) :
    Ensures (Dialled config feature w₀ opened service directService)
      (lift (World.newClient connection ns))
      (fun result w => Dialled config feature w₀ opened service directService w ∧
        ∀ client, result = .ok client → client.connection = connection) := by
  refine ensures_lift fun w h => ⟨?_, fun client hclient => ?_⟩
  · have htraffic : w.Traffic (feature.Routes config) [] (World.newClient connection ns w).2 :=
      traffic_newClient connection ns w
    have hmore := h.traffic.trans htraffic
    rw [List.append_nil] at hmore
    exact ⟨hmore, htraffic.server.dials h.service, htraffic.server.dials h.directService⟩
  · unfold World.newClient at hclient
    rcases guarded_cases .newClient (fun w => (.ok (⟨connection, ns⟩ : Client), w)) w with
      hmade | ⟨e, hfailed⟩
    · rw [hmade] at hclient
      cases hclient
      rfl
    · rw [hfailed] at hclient
      cases hclient

/-- On two open connections a runner is wired, or it is not made. -/
theorem ensures_assemble_routed (prepared : PreparedFeature) (service directService : ConnectionId) :
    Ensures (Dialled config feature w₀ opened service directService)
      (assemble config prepared feature service directService)
      (OnResult (Routed config feature w₀ opened)
        (w₀.Traffic (feature.Routes config) opened)) := by
  unfold assemble
  refine (ensures_newClient_dialled service _).bind fun result => ?_
  cases result with
  | error e => exact ensures_pure _ fun w h => h.1.traffic
  | ok client =>
    refine Ensures.bind (Q := fun result w =>
      (Dialled config feature w₀ opened service directService w ∧ client.connection = service) ∧
        ∀ directClient, result = .ok directClient → directClient.connection = directService)
      ?_ fun result => ?_
    · intro w h
      obtain ⟨hdialled, hconnection⟩ := ensures_newClient_dialled directService _ w h.1
      exact ⟨⟨hdialled, h.2 client rfl⟩, hconnection⟩
    · cases result with
      | error e => exact ensures_pure _ fun w h => h.1.1.traffic
      | ok directClient =>
        let runner : Runner :=
          { config, feature, service, directService, client, directClient
            dir := prepared.dir
            methods := prepared.methods
            proxy := ⟨config.proxyControl⟩ }
        have hrestart : Ensures (Routed config feature w₀ opened runner) runner.restartWorker _ :=
          ensures_restartWorker_routed runner
        refine (hrestart.consequence (fun w h => ?_) fun _ _ h => h).bind fun restarted => ?_
        · obtain ⟨⟨hdialled, hclient⟩, hdirectClient⟩ := h
          exact ⟨hdialled.traffic, rfl, rfl, hdialled.service, hdialled.directService, hclient,
            hdirectClient directClient rfl, nofun⟩
        · obtain ⟨result, r⟩ := restarted
          cases result with
          | error e => exact ensures_pure _ fun w h => h.traffic
          | ok _ => exact ensures_pure _ fun w h => h

/-- A runner is opened on the connections that are dialled for it, or it is not made. -/
theorem routed_openConnections (prepared : PreparedFeature) (w : World) :
    OnResult (Routed config feature w (dialled config feature w))
      (w.Traffic (feature.Routes config) (dialled config feature w))
      ((openConnections config prepared feature).run w).1
      ((openConnections config prepared feature).run w).2 := by
  unfold openConnections dialled
  rw [run_bind']
  dsimp only
  rcases traffic_connectTo (feature.serviceTarget config.server) w with
    ⟨e, w₁, hconnect, htraffic⟩ | ⟨service, w₁, hconnect, htraffic, hservice⟩
  · rw [hconnect]
    exact htraffic
  · rw [hconnect]
    dsimp only
    rw [run_bind']
    rcases traffic_connectTo config.direct w₁ with
      ⟨e, w₂, hconnect', htraffic'⟩ | ⟨directService, w₂, hconnect', htraffic', hdirect⟩
    · rw [hconnect']
      dsimp only
      rw [run_bind']
      exact (htraffic.trans htraffic').trans (traffic_releaseAll (routes_shutdownService · none) [service] w₂)
    · rw [hconnect']
      dsimp only
      rw [run_bind']
      have hdialled : Dialled config feature w [feature.serviceTarget config.server, config.direct]
          service directService w₂ :=
        ⟨htraffic.trans htraffic', htraffic'.server.dials hservice, hdirect⟩
      have hassembled := ensures_assemble_routed prepared service directService w₂ hdialled
      generalize (assemble config prepared feature service directService).run w₂ = assembled
        at hassembled
      obtain ⟨result, w₃⟩ := assembled
      cases result with
      | ok r => exact hassembled
      | error e =>
        dsimp only
        rw [run_bind']
        exact Traffic.trans hassembled
          (traffic_releaseAll (routes_shutdownService · none) [directService, service] w₃)

end Runner

/-! ## Whole runs -/

/-- The settings are valid, the feature does not want to be skipped, and both connections of a run are
opened. -/
def Runner.BothConnect (config : Config) (prepared : PreparedFeature) (w : World) : Prop :=
  let feature := prepared.instanceAt (w.instances + 1)
  config.validate = .ok () ∧ feature.skipReason = none ∧ ∃ service w' directService w'',
    (connectTo (feature.serviceTarget config.server)).run { w with instances := w.instances + 1 } =
      (.ok service, w') ∧
    (connectTo config.direct).run w' = (.ok directService, w'')

namespace Runner

theorem dialled_of_bothConnect {config : Config} {prepared : PreparedFeature} {w : World}
    (h : BothConnect config prepared w) :
    dialled config (prepared.instanceAt (w.instances + 1)) { w with instances := w.instances + 1 } =
      [(prepared.instanceAt (w.instances + 1)).serviceTarget config.server, config.direct] := by
  obtain ⟨-, -, service, w', directService, w'', hservice, hdirect⟩ := h
  unfold dialled
  dsimp only
  rw [hservice]
  dsimp only
  rw [hdirect]

/-- Launching a runner opens its connections in order, and calls where it should. -/
theorem routed_launch (config : Config) (prepared : PreparedFeature) (w : World) :
    let feature := prepared.instanceAt (w.instances + 1)
    ∃ opened, opened <+: [feature.serviceTarget config.server, config.direct] ∧
      (BothConnect config prepared w →
        opened = [feature.serviceTarget config.server, config.direct]) ∧
      OnResult (Routed config feature w opened) (w.Traffic (feature.Routes config) opened)
        ((launch config prepared).run w).1 ((launch config prepared).run w).2 := by
  intro feature
  have hinstance : (newInstance prepared).run w = (feature, { w with instances := w.instances + 1 }) :=
    rfl
  have hcounted : w.Traffic (feature.Routes config) [] { w with instances := w.instances + 1 } :=
    traffic_of_same rfl rfl
  unfold launch
  cases hvalid : config.validate with
  | error e => exact ⟨[], List.nil_prefix, fun h => (nomatch hvalid.symm.trans h.1), .refl w⟩
  | ok _ =>
    dsimp only
    rw [run_bind', hinstance]
    dsimp only
    cases hskip : feature.skipReason with
    | some reason =>
      exact ⟨[], List.nil_prefix, fun h => (nomatch hskip.symm.trans h.2.1), hcounted⟩
    | none =>
      refine ⟨_, dialled_prefix config feature _, dialled_of_bothConnect, ?_⟩
      have hopened : OnResult (Routed config feature _ _) _ _ _ :=
        routed_openConnections prepared { w with instances := w.instances + 1 }
      generalize (openConnections config prepared feature).run _ = result at hopened ⊢
      obtain ⟨opened, w'⟩ := result
      cases opened with
      | ok r => exact ⟨hcounted.trans hopened.traffic, hopened.wired⟩
      | error e => exact hcounted.trans hopened

end Runner

/-- Whatever a feature does in a run: with `proxied` the address that its hook makes of the server's,
and with the direct address of the settings, every call that starts or looks after workflows goes to the
address that is chosen for initiating calls, every call of a worker to the one that is chosen for the
worker, and the run opens the proxied connection first and then the direct one, and no other. -/
theorem calls_are_routed (config : Config) (prepared : PreparedFeature) (w : World) :
    let feature := prepared.instanceAt (w.instances + 1)
    let proxied := feature.serviceTarget config.server
    let after := ((runFeature config prepared).run w).2
    (∃ made, after.server.calls = w.server.calls ++ made ∧ ∀ c ∈ made,
      (c.operation.IsInitiating →
        c.target = if feature.initiatorUsesProxy then proxied else config.direct) ∧
      (c.operation.IsPolling →
        c.target = if feature.workerUsesProxy then proxied else config.direct)) ∧
    ∃ opened,
      after.server.connections.map (·.target) = w.server.connections.map (·.target) ++ opened ∧
      opened <+: [proxied, config.direct] ∧
      (Runner.BothConnect config prepared w → opened = [proxied, config.direct]) := by
  intro feature proxied after
  obtain ⟨opened, hprefix, hboth, hlaunch⟩ := Runner.routed_launch config prepared w
  have htraffic : w.Traffic (feature.Routes config) opened after := by
    subst after
    unfold runFeature runResult
    rw [run_bind', run_bind']
    generalize (Runner.launch config prepared).run w = launched at hlaunch ⊢
    obtain ⟨result, w₁⟩ := launched
    cases result with
    | error e => exact hlaunch
    | ok runner =>
      dsimp only
      rw [run_bind']
      have hran : Runner.Routed config feature w opened _ _ :=
        Runner.ensures_exec_routed runner.feature.script runner w₁ hlaunch
      rw [run_bind']
      exact Runner.traffic_close hran
  obtain ⟨⟨made, hmade, hroutes⟩, hconnections⟩ := htraffic.server
  exact ⟨⟨made, hmade, fun c hc => ⟨(hroutes c hc).initiating, (hroutes c hc).polling⟩⟩, opened,
    hconnections, hprefix, hboth⟩

/-- A worker that polls past the proxy, and a workflow that is started through it. -/
theorem calls_of_direct_worker :
    let config : Config :=
      { server := "proxy", directServer := some "direct", ns := "default", taskQueue := "queue" }
    let start : Script Execution := Script.perform (.startWorkflow "Flow" { taskQueue := "queue" } [])
    let prepared : PreparedFeature :=
      ⟨"mixed", fun _ => { workflows := [], execute := Script.bind start fun _ => pure none }⟩
    let after := ((runFeature config prepared).run {}).2
    after.server.targetsOf "start_workflow" = ["proxy"] ∧
      after.server.targetsOf "poll_task_queue" = ["direct"] ∧
      after.server.targetsOf "shutdown_worker_factory" = ["direct"] ∧
      after.server.connections.map (·.target) = ["proxy", "direct"] := by
  intro config start prepared after
  obtain ⟨-, opened, hconnections, -, hboth⟩ := calls_are_routed config prepared {}
  have hvalid : config.validate = .ok () := by
    subst config
    rfl
  have hopened := hboth ⟨hvalid, rfl, 0, _, 1, _, rfl, rfl⟩
  rw [hopened] at hconnections
  refine ⟨?_, ?_, ?_, hconnections⟩ <;>
  · subst config start prepared after
    rfl

end Conformance
