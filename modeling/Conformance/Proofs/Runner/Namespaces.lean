import Conformance.Proofs.Runner.Routing

/-!
# The namespaces that a run names

A namespace reaches the server on two paths. A workflow is started through a client, which was made with
the namespace that the feature has chosen; whoever asks a service for a history or a report names the
namespace of the settings. The two are the same only for a feature that keeps the namespace of the
settings.

## Main definitions

- `Call.Names` — a call that names the one namespace for a start and the other one for a question
- `Program.Calls` — a program whose calls and whose value are of a kind
- `Runner.Named` — a runner with the settings and the clients of its run

## Main statements

- `Runner.calls_exec` — every script names the two namespaces, and leaves a runner that is named
- `namespaces_of_run` — so does a whole run
- `namespaces_of_own_client` — a run whose calls do not name the same namespace
-/

namespace Conformance

/-- A workflow is started in the one namespace, and asked about in the other. -/
structure Call.Names (started asked : String) (c : Call) : Prop where
  start : c.operation = .startWorkflow → c.ns = some started
  history : c.operation = .fetchHistory → c.ns = some asked
  describe : c.operation = .describeExecution → c.ns = some asked

/-- Calls other than starts and questions may name any namespace or none. -/
theorem Call.names_of_other {started asked target : String} {operation : Operation}
    {ns : Option String} (hstart : operation ≠ .startWorkflow) (hhistory : operation ≠ .fetchHistory)
    (hdescribe : operation ≠ .describeExecution) : Names started asked ⟨target, operation, ns⟩ :=
  ⟨fun h => absurd h hstart, fun h => absurd h hhistory, fun h => absurd h hdescribe⟩

/-! ## Programs and their calls -/

open World

/-- From whatever world the program runs, all calls that it makes are of a kind, and its value is of
another. -/
def Program.Calls {α : Type} (ok : Call → Prop) (p : Program α) (Q : α → Prop) : Prop :=
  ∀ w, Q (p.run w).1 ∧ ∃ opened, w.Traffic ok opened (p.run w).2

namespace Program

variable {α β : Type} {ok : Call → Prop} {Q : α → Prop} {R : β → Prop}

theorem calls_of_traffic {p : Program α} (h : ∀ w : World, w.Traffic ok [] (p.run w).2) :
    p.Calls ok fun _ => True :=
  fun w => ⟨trivial, [], h w⟩

theorem calls_pure {a : α} (h : Q a) : (pure a : Program α).Calls ok Q :=
  fun w => ⟨h, [], .refl w⟩

/-- A failure has no value. -/
theorem calls_error (e : Error) :
    (pure (.error e) : Program (Except Error α)).Calls ok fun result => ∀ a, result = .ok a → Q a :=
  calls_pure nofun

theorem calls_ok {a : α} (h : Q a) :
    (pure (.ok a) : Program (Except Error α)).Calls ok fun result => ∀ a, result = .ok a → Q a :=
  calls_pure fun _ heq => Except.ok.inj heq ▸ h

theorem Calls.bind {p : Program α} (h : p.Calls ok Q) {f : α → Program β}
    (hf : ∀ a, Q a → (f a).Calls ok R) : (p >>= f).Calls ok R := by
  intro w
  obtain ⟨hvalue, opened, hfirst⟩ := h w
  obtain ⟨hend, opened', hsecond⟩ := hf _ hvalue (p.run w).2
  rw [run_bind']
  exact ⟨hend, opened ++ opened', hfirst.trans hsecond⟩

/-- Programs one after another, up to the first failure. -/
theorem Calls.bindT {p : ExceptT Error Program α} (h : p.run.Calls ok fun _ => True)
    {f : α → ExceptT Error Program β} (hf : ∀ a, (f a).run.Calls ok fun _ => True) :
    (p >>= f).run.Calls ok fun _ => True := by
  rw [ExceptT.run_bind]
  refine h.bind fun result _ => ?_
  cases result with
  | ok a => exact hf a
  | error e => exact calls_pure trivial

/-- Nothing but polling is recorded for a worker that is built. -/
theorem calls_build (hpoll : ∀ target, ok ⟨target, .pollTaskQueue, none⟩) (client : Client)
    (feature : Feature) (queue : String) :
    (WorkerManager.build client feature queue).run.Calls ok fun _ => True := by
  unfold WorkerManager.build
  refine Calls.bindT (calls_of_traffic fun w => (traffic_newFactory client w).1) fun factory => ?_
  refine Calls.bindT (calls_of_traffic fun w => traffic_newWorker factory queue w) fun worker => ?_
  refine Calls.bindT (calls_of_traffic fun w =>
    World.traffic_serve w (.updateWorker worker _) trivial) fun _ => ?_
  refine Calls.bindT (calls_of_traffic fun w =>
    traffic_startFactory factory w fun target _ => hpoll target) fun _ => ?_
  exact calls_pure trivial

end Program

/-! ## Runners -/

namespace Runner

open Program

variable {started : String} {config : Config} {r : Runner}

/-- The runner has the settings of its run, and both clients name the namespace of the feature. -/
structure Named (config : Config) (started : String) (r : Runner) : Prop where
  config : r.config = config
  client : r.client.ns = started
  directClient : r.directClient.ns = started

theorem Named.initiatorClient (h : r.Named config started) : r.initiatorClient.ns = started := by
  unfold Runner.initiatorClient
  split
  · exact h.client
  · exact h.directClient

theorem Named.mayCall (h : r.Named config started) (w : World) :
    r.MayCall (Call.Names started config.ns) w where
  start := ⟨fun _ => congrArg some h.initiatorClient, nofun, nofun⟩
  update := Call.names_of_other nofun nofun nofun
  history := ⟨nofun, fun _ => by rw [h.config], nofun⟩
  describe := ⟨nofun, nofun, fun _ => by rw [h.config]⟩
  shutdown _ _ _ _ := Call.names_of_other nofun nofun nofun
  close _ := Call.names_of_other nofun nofun nofun

/-- A runner whose worker is replaced keeps its settings and its clients. -/
theorem calls_restartWorker (h : r.Named config started) :
    r.restartWorker.Calls (Call.Names started config.ns) fun restarted =>
      restarted.2.Named config started := by
  unfold restartWorker WorkerManager.restart
  refine Calls.bind (Q := fun _ => True) ?_ fun restarted _ => ?_
  · refine (calls_build (fun _ => Call.names_of_other nofun nofun nofun) _ _ _).bind fun result _ => ?_
    cases result with
    | ok pair => exact calls_pure trivial
    | error e => exact calls_pure trivial
  · exact calls_pure ⟨h.config, h.client, h.directClient⟩

theorem calls_perform (h : r.Named config started) (op : RunnerOp) :
    (r.perform op).Calls (Call.Names started config.ns) fun reply => reply.2.Named config started := by
  by_cases hop : op = .restartWorker
  · subst hop
    exact calls_restartWorker h
  · refine fun w => ⟨?_, [], traffic_perform (h.mayCall w) hop⟩
    show Named config started ((r.perform op).run w).1.2
    rw [(r.stays_perform hop w).1]
    exact h

/-- Whatever a script does, it names the namespace of the clients for a start and that of the settings
for a question. -/
theorem calls_exec {α : Type} (script : Script α) (h : r.Named config started) :
    (exec script r).Calls (Call.Names started config.ns) fun ended =>
      ended.2.Named config started := by
  induction script generalizing r with
  | done result => exact calls_pure h
  | call op next ih => exact (calls_perform h op).bind fun reply hreply => ih reply.1 hreply

theorem calls_closeService (connection : ConnectionId) :
    (lift (World.closeService connection)).Calls (Call.Names started config.ns) fun _ => True :=
  calls_of_traffic fun w =>
    traffic_closeService (fun _ => Call.names_of_other nofun nofun nofun) connection w

theorem calls_releaseAll (ids : List ConnectionId) :
    (releaseAll ids).Calls (Call.Names started config.ns) fun _ => True :=
  calls_of_traffic fun w =>
    traffic_releaseAll (fun _ => Call.names_of_other nofun nofun nofun) ids w

theorem calls_close (h : r.Named config started) :
    r.close.Calls (Call.Names started config.ns) fun _ => True := by
  refine Calls.bind (calls_of_traffic fun w => traffic_shutdown (h.mayCall w)) fun _ _ => ?_
  refine (calls_closeService _).bind fun _ _ => ?_
  refine (calls_closeService _).bind fun _ _ => ?_
  exact calls_pure trivial

/-! ## Opening -/

/-- A client is made with the namespace that it is asked for. -/
theorem calls_newClient {ok : Call → Prop} (connection : ConnectionId) (ns : String) :
    (lift (World.newClient connection ns)).Calls ok fun result =>
      ∀ client, result = .ok client → client.ns = ns := by
  refine fun w => ⟨fun client hclient => ?_, [], traffic_newClient connection ns w⟩
  rw [run_lift, World.newClient] at hclient
  rcases guarded_cases .newClient (fun w => (.ok (⟨connection, ns⟩ : Client), w)) w with
    hmade | ⟨e, hfailed⟩
  · rw [hmade] at hclient
    cases hclient
    rfl
  · rw [hfailed] at hclient
    cases hclient

/-- A runner that is opened is named. -/
theorem calls_assemble (config : Config) (prepared : PreparedFeature) (feature : Feature)
    (service directService : ConnectionId) :
    (assemble config prepared feature service directService).Calls
      (Call.Names (feature.clientNamespace config.ns) config.ns) fun result =>
        ∀ r, result = .ok r → r.Named config (feature.clientNamespace config.ns) := by
  unfold assemble
  refine (calls_newClient service _).bind fun result hclient => ?_
  cases result with
  | error e => exact calls_error e
  | ok client =>
    refine (calls_newClient directService _).bind fun result hdirectClient => ?_
    cases result with
    | error e => exact calls_error e
    | ok directClient =>
      let runner : Runner :=
        { config, feature, service, directService, client, directClient
          dir := prepared.dir
          methods := prepared.methods
          proxy := ⟨config.proxyControl⟩ }
      have hnamed : runner.Named config (feature.clientNamespace config.ns) :=
        ⟨rfl, hclient client rfl, hdirectClient directClient rfl⟩
      refine (calls_restartWorker hnamed).bind fun restarted h => ?_
      obtain ⟨result, r⟩ := restarted
      cases result with
      | error e => exact calls_error e
      | ok _ => exact calls_ok h

/-- Connecting is not recorded as a call. -/
theorem calls_connectTo {ok : Call → Prop} (target : String) :
    (connectTo target).Calls ok fun _ => True := by
  intro w
  rcases @traffic_connectTo ok target w with ⟨e, w', hrun, htraffic⟩ | ⟨id, w', hrun, htraffic, -⟩
  · rw [hrun]
    exact ⟨trivial, _, htraffic⟩
  · rw [hrun]
    exact ⟨trivial, _, htraffic⟩

theorem calls_openConnections (config : Config) (prepared : PreparedFeature) (feature : Feature) :
    (openConnections config prepared feature).Calls
      (Call.Names (feature.clientNamespace config.ns) config.ns) fun result =>
        ∀ r, result = .ok r → r.Named config (feature.clientNamespace config.ns) := by
  unfold openConnections
  refine (calls_connectTo _).bind fun result _ => ?_
  cases result with
  | error e => exact calls_error e
  | ok service =>
    refine (calls_connectTo _).bind fun result _ => ?_
    cases result with
    | error e => exact (calls_releaseAll _).bind fun _ _ => calls_error e
    | ok directService =>
      refine (calls_assemble config prepared feature service directService).bind fun result h => ?_
      cases result with
      | error e => exact (calls_releaseAll _).bind fun _ _ => calls_error e
      | ok r => exact calls_ok (h r rfl)

/-- Launching a runner names the namespaces of the instance of the feature that it makes. -/
theorem calls_launch (config : Config) (prepared : PreparedFeature) (w : World) :
    let started := (prepared.instanceAt (w.instances + 1)).clientNamespace config.ns
    (∀ r, ((launch config prepared).run w).1 = .ok r → r.Named config started) ∧
      ∃ opened, w.Traffic (Call.Names started config.ns) opened
        ((launch config prepared).run w).2 := by
  intro started
  unfold launch
  cases config.validate with
  | error e => exact calls_error e w
  | ok _ =>
    -- which instance is opened depends on the world, so the step that makes it is taken by hand
    let feature := prepared.instanceAt (w.instances + 1)
    have hinstance : (newInstance prepared).run w =
        (feature, { w with instances := w.instances + 1 }) := rfl
    have hcounted : w.Traffic (Call.Names started config.ns) []
        { w with instances := w.instances + 1 } := traffic_of_same rfl rfl
    dsimp only
    rw [run_bind', hinstance]
    dsimp only
    cases feature.skipReason with
    | some reason =>
      obtain ⟨hnamed, opened, htraffic⟩ := calls_error (.skipped reason)
        { w with instances := w.instances + 1 }
      exact ⟨hnamed, [] ++ opened, hcounted.trans htraffic⟩
    | none =>
      obtain ⟨hnamed, opened, htraffic⟩ := calls_openConnections config prepared feature
        { w with instances := w.instances + 1 }
      exact ⟨hnamed, [] ++ opened, hcounted.trans htraffic⟩

/-- Executing, checking and closing name what the runner names. -/
theorem calls_run_close (h : r.Named config started) :
    (r.run >>= fun ran => ran.2.close >>= fun closed => pure (closing ran.1 closed)).Calls
      (Call.Names started config.ns) fun _ => True := by
  refine (calls_exec _ h).bind fun ran hran => ?_
  exact (calls_close hran).bind fun _ _ => calls_pure trivial

end Runner

/-! ## Whole runs -/

/-- Whatever a feature does in a run: every workflow is started in the namespace that its hook makes of
that of the settings, and every history and every report is asked for in the namespace of the settings
itself. So the two agree throughout if the feature keeps the namespace of the settings; otherwise no
start and no question of the run agree. -/
theorem namespaces_of_run (config : Config) (prepared : PreparedFeature) (w : World) :
    let feature := prepared.instanceAt (w.instances + 1)
    let after := ((runFeature config prepared).run w).2
    ∃ made, after.server.calls = w.server.calls ++ made ∧
      (∀ c ∈ made, (c.operation = .startWorkflow → c.ns = some (feature.clientNamespace config.ns)) ∧
        (c.operation = .fetchHistory ∨ c.operation = .describeExecution → c.ns = some config.ns)) ∧
      ∀ c ∈ made, ∀ d ∈ made, c.operation = .startWorkflow →
        (d.operation = .fetchHistory ∨ d.operation = .describeExecution) →
        (c.ns = d.ns ↔ feature.clientNamespace config.ns = config.ns) := by
  intro feature after
  obtain ⟨hnamed, opened, hlaunched⟩ := Runner.calls_launch config prepared w
  have htraffic : ∃ opened,
      w.Traffic (Call.Names (feature.clientNamespace config.ns) config.ns) opened after := by
    subst after
    unfold runFeature runResult
    rw [Program.run_bind', Program.run_bind']
    generalize (Runner.launch config prepared).run w = launched at hnamed hlaunched ⊢
    obtain ⟨result, w'⟩ := launched
    cases result with
    | error e => exact ⟨opened, hlaunched⟩
    | ok r =>
      obtain ⟨-, opened', hran⟩ := Runner.calls_run_close (hnamed r rfl) w'
      exact ⟨opened ++ opened', hlaunched.trans hran⟩
  obtain ⟨_, ⟨made, hmade, hnames⟩, -⟩ := htraffic.imp fun _ h => h.server
  have hstart : ∀ c ∈ made, c.operation = .startWorkflow →
      c.ns = some (feature.clientNamespace config.ns) := fun c hc => (hnames c hc).start
  have hask : ∀ c ∈ made, c.operation = .fetchHistory ∨ c.operation = .describeExecution →
      c.ns = some config.ns := fun c hc h => h.elim (hnames c hc).history (hnames c hc).describe
  refine ⟨made, hmade, fun c hc => ⟨hstart c hc, hask c hc⟩, fun c hc d hd hc' hd' => ?_⟩
  rw [hstart c hc hc', hask d hd hd', Option.some_inj]

/-- The feature has its workflows in a namespace of its own, and its histories are asked for in that of
the settings. -/
theorem namespaces_of_own_client :
    let config : Config := { server := "server:1", ns := "default", taskQueue := "queue" }
    let prepared : PreparedFeature := ⟨"own", fun _ =>
      { workflows := [], clientNamespace := fun _ => "own"
        execute := do
          let e ← Script.perform (.startWorkflow "Flow" { taskQueue := "queue" } [])
          let _ ← Script.perform (.history e)
          let _ ← Script.perform (.describe e)
          return none }⟩
    let after := ((runFeature config prepared).run {}).2
    config.validate = .ok () ∧
      after.server.calls.filterMap (fun c => c.ns.map fun ns => (c.operation, ns)) =
        [(.startWorkflow, "own"), (.fetchHistory, "default"), (.describeExecution, "default")] := by
  intro config prepared after
  have hvalid : config.validate = .ok () := by
    subst config
    rfl
  refine ⟨hvalid, ?_⟩
  subst config prepared after
  decide +kernel

end Conformance
