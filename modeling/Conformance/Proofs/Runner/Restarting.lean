import Conformance.Proofs.Runner.Holds

/-!
# A worker is restarted as a whole or not at all

A new worker is built step by step, and any step may fail. Up to the last one nothing that is there is
touched: what is made stands beside it. Only a worker that has been started takes the place of the
current one.

## Main definitions

- `World.MadeBeside` — new workers and factories, and nothing else
- `WorkerManager.Reached` — what restarts and shutdowns lead to
- `WorkerManager.Counted` — a factory and a worker, or neither, and the number of restarts

## Main statements

- `Worker.registerAll_eq_ok_iff`, `Feature.prepare_eq_ok_iff` — what is registered on a new worker
- `WorkerManager.ensures_build_beside` — how a worker is built
- `WorkerManager.restart_all_or_nothing` — a restart, and the manager in every state
-/

namespace Conformance

/-! ## Registration -/

namespace Worker

theorem register_eq_ok_iff {w w' : Worker} {f : Workflow} : w.register f = .ok w' ↔
    w.workflow? f.method.name = none ∧ w' = { w with workflows := w.workflows ++ [f] } := by
  unfold register
  cases w.workflow? f.method.name with
  | none => simp [eq_comm]
  | some g => simp

/-- Workflows are registered if each of them has a name of its own, which is not in use yet. -/
theorem registerAll_eq_ok_iff {w w' : Worker} {fs : List Workflow} : w.registerAll fs = .ok w' ↔
    (fs.map (·.method.name)).Nodup ∧ (∀ f ∈ fs, w.workflow? f.method.name = none) ∧
      w' = { w with workflows := w.workflows ++ fs } := by
  induction fs generalizing w with
  | nil => simp [registerAll, eq_comm]
  | cons f fs ih =>
    rw [registerAll]
    cases hregister : w.register f with
    | error e =>
      have hused : w.workflow? f.method.name ≠ none := by
        intro hnone
        have := register_eq_ok_iff.mpr ⟨hnone, rfl⟩
        rw [hregister] at this
        cases this
      simp [hused]
    | ok w₁ =>
      obtain ⟨hnone, hw₁⟩ := register_eq_ok_iff.mp hregister
      have hlookup : ∀ g : Workflow, w₁.workflow? g.method.name = none ↔
          f.method.name ≠ g.method.name ∧ w.workflow? g.method.name = none := by
        intro g
        rw [workflow?_of_register hregister]
        by_cases hname : f.method.name = g.method.name <;> simp [hname]
      have hall : (∀ g ∈ fs, w₁.workflow? g.method.name = none) ↔
          f.method.name ∉ fs.map (·.method.name) ∧
            ∀ g ∈ fs, w.workflow? g.method.name = none := by
        simp only [hlookup, List.mem_map, not_exists, not_and, ← forall_and, eq_comm]
      dsimp only
      rw [ih, hall, hw₁, List.map_cons, List.nodup_cons, List.forall_mem_cons]
      simp only [List.append_assoc, List.singleton_append, hnone, true_and]
      tauto

end Worker

/-- A worker is prepared if the hook of the feature succeeds and the workflows of the feature have
names of their own. It then has what the hook has registered and what the feature brings. -/
theorem Feature.prepare_eq_ok_iff {f : Feature} {w x : Worker} : f.prepare w = .ok x ↔
    ∃ hooked, f.prepareWorker w = .ok hooked ∧ (f.workflows.map (·.method.name)).Nodup ∧
      (∀ g ∈ f.workflows, hooked.workflow? g.method.name = none) ∧
      x = match f.activities with
        | some a => { hooked with workflows := hooked.workflows ++ f.workflows }.setActivities a
        | none => { hooked with workflows := hooked.workflows ++ f.workflows } := by
  unfold prepare
  cases f.prepareWorker w with
  | error e => simp [Bind.bind, Except.bind]
  | ok hooked =>
    cases hregister : hooked.registerAll f.workflows with
    | error e =>
      have hnot : ¬((f.workflows.map (·.method.name)).Nodup ∧
          ∀ g ∈ f.workflows, hooked.workflow? g.method.name = none) := by
        rintro ⟨hnodup, hunused⟩
        have := Worker.registerAll_eq_ok_iff.mpr ⟨hnodup, hunused, rfl⟩
        rw [hregister] at this
        cases this
      simp only [Bind.bind, Except.bind, hregister, reduceCtorEq, Except.ok.injEq, false_iff]
      rintro ⟨_, rfl, hnodup, hunused, -⟩
      exact hnot ⟨hnodup, hunused⟩
    | ok w₁ =>
      obtain ⟨hnodup, hunused, rfl⟩ := Worker.registerAll_eq_ok_iff.mp hregister
      simp only [Bind.bind, Except.bind, hregister, Pure.pure, Except.pure, Except.ok.injEq,
        exists_eq_left', hnodup, true_and]
      rw [and_iff_right hunused]
      exact eq_comm

/-- What a prepared worker holds: what the hook has registered, and all that the feature brings. -/
structure Feature.HeldBy (f : Feature) (hooked x : Worker) : Prop where
  workflows : x.workflows = hooked.workflows ++ f.workflows
  found : ∀ g ∈ f.workflows, x.workflow? g.method.name = some g
  activities : x.activities = f.activities.or hooked.activities

theorem Feature.heldBy_of_prepare {f : Feature} {w x : Worker} (h : f.prepare w = .ok x) :
    ∃ hooked, f.prepareWorker w = .ok hooked ∧ f.HeldBy hooked x := by
  obtain ⟨hooked, hhook, hnodup, hunused, hx⟩ := prepare_eq_ok_iff.mp h
  have hworkflows : x.workflows = hooked.workflows ++ f.workflows := by
    rw [hx]
    cases f.activities <;> rfl
  refine ⟨hooked, hhook, hworkflows, fun g hg => ?_, ?_⟩
  · rw [Worker.workflow?, hworkflows, List.find?_append]
    have hearlier : hooked.workflows.find? (fun g' => g'.method.name = g.method.name) = none :=
      hunused g hg
    rw [hearlier, Option.none_or, List.find?_eq_some_iff_append]
    obtain ⟨before, after, hsplit⟩ := List.append_of_mem hg
    refine ⟨by simp, before, after, hsplit, fun g' hg' => ?_⟩
    have hne : g'.method.name ≠ g.method.name := by
      rw [hsplit, List.map_append, List.map_cons] at hnodup
      have hdisjoint := (List.nodup_append.mp hnodup).2.2
      exact hdisjoint _ (List.mem_map_of_mem hg') _ List.mem_cons_self
    simp [hne]
  · rw [hx]
    cases f.activities <;> rfl

/-! ## Building a worker -/

/-- Workers and factories have been made, and nothing else has happened at the server. -/
structure World.MadeBeside (w : World) (workers : List Worker) (factories : List WorkerFactory)
    (w' : World) : Prop where
  server : w'.server = { w.server with workers := w.server.workers ++ workers }
  factories : w'.factories = w.factories ++ factories

/-- Counting a call makes nothing. -/
theorem World.MadeBeside.enter {w w' : World} {workers : List Worker}
    {factories : List WorkerFactory} (h : w.MadeBeside workers factories w') (point : SdkPoint) :
    w.MadeBeside workers factories (w'.enter point).2 :=
  ⟨h.server, h.factories⟩

open World Program

namespace WorkerManager

variable {w₀ : World}

/-- Some workers and factories are left beside what is there. -/
def LeftBeside (w₀ w : World) : Prop := ∃ workers factories, w₀.MadeBeside workers factories w

theorem beside_newFactory (client : Client) :
    Ensures (w₀.MadeBeside [] []) (lift (World.newFactory client))
      (OnResult (fun factory w => factory = w₀.factories.length ∧
          ∃ target, w₀.MadeBeside [] [{ target }] w)
        (LeftBeside w₀)) := by
  refine ensures_guarded (fun w hw => hw.enter _) (fun w hw => ⟨_, _, hw⟩) fun w hw => ?_
  have hfactories : w.factories = w₀.factories := by
    rw [hw.factories, List.append_nil]
  refine ⟨by rw [hfactories], w.server.targetOf client.connection, hw.server, ?_⟩
  rw [← hfactories]

theorem beside_newWorker (target queue : String) :
    Ensures (w₀.MadeBeside [] [{ target }]) (lift (World.newWorker w₀.factories.length queue))
      (OnResult (fun worker w => worker = w₀.server.workers.length ∧
          w₀.MadeBeside [{ taskQueue := queue }] [{ target, workers := [worker] }] w)
        (LeftBeside w₀)) := by
  refine ensures_guarded (fun w hw => hw.enter _) (fun w hw => ⟨_, _, hw⟩) fun w hw => ?_
  have hworkers : w.server.workers = w₀.server.workers := by
    rw [hw.server]
    exact List.append_nil _
  split
  · exact ⟨_, _, hw⟩
  · refine ⟨congrArg List.length hworkers, ?_, ?_⟩
    · rw [← hworkers, Server.addWorker]
      show Server.mk .. = Server.mk ..
      rw [hw.server]
    · show w.factories.modify w₀.factories.length _ = _
      rw [hw.factories]
      exact List.modifyTailIdx_add _ 0 w₀.factories _

theorem beside_prepare (feature : Feature) (queue : String) (factories : List WorkerFactory) :
    Ensures (w₀.MadeBeside [{ taskQueue := queue }] factories)
      (lift (World.updateWorker w₀.server.workers.length feature.prepare))
      (OnResult (fun _ w => ∃ x, feature.prepare { taskQueue := queue } = .ok x ∧
          w₀.MadeBeside [x] factories w)
        (LeftBeside w₀)) := by
  refine ensures_lift fun w hw => ?_
  have hworkers : w.server.workers = w₀.server.workers ++ [{ taskQueue := queue }] := by
    rw [hw.server]
  have hnew : w.server.worker? w₀.server.workers.length = some { taskQueue := queue } := by
    rw [Server.worker?, hworkers]
    exact List.getElem?_concat_length
  unfold World.updateWorker
  dsimp only
  rw [Server.updateWorker_eq hnew]
  cases hprepare : feature.prepare { taskQueue := queue } with
  | error e => exact ⟨_, _, hw⟩
  | ok x =>
    refine ⟨x, rfl, ?_, hw.factories⟩
    have hmodified : w.server.workers.modify w₀.server.workers.length (fun _ => x) =
        w₀.server.workers ++ [x] := by
      rw [hworkers]
      exact List.modifyTailIdx_add _ 0 w₀.server.workers _
    show Server.mk .. = Server.mk ..
    rw [hmodified, hw.server]

/-- A worker that has been built and started: it is the only one of a new factory, it has been
prepared for its feature, and all workers and factories that were there still are. -/
structure Placed (w₀ : World) (feature : Feature) (queue : String) (pair : FactoryId × WorkerId)
    (w : World) : Prop where
  fresh : pair = (w₀.factories.length, w₀.server.workers.length)
  workers : ∃ x, feature.prepare { taskQueue := queue } = .ok x ∧
    w.server.workers = w₀.server.workers ++ [x]
  factories : ∃ f : WorkerFactory, f.workers = [pair.2] ∧ w.factories = w₀.factories ++ [f]

theorem workers_attachAll (w : World) (target : String) (ids : List WorkerId) :
    (w.attachAll target ids).server.workers = w.server.workers ∧
      (w.attachAll target ids).factories = w.factories := by
  unfold attachAll
  induction ids generalizing w with
  | nil => exact ⟨rfl, rfl⟩
  | cons id ids ih =>
    have hattach : (w.server.attach target id).workers = w.server.workers := by
      cases hx : w.server.worker? id with
      | none => rw [Server.attach, hx]
      | some x => rw [Server.attach_eq hx]; rfl
    obtain ⟨hworkers, hfactories⟩ := ih { w with server := w.server.attach target id }
    exact ⟨hworkers.trans hattach, hfactories⟩

theorem placed_start {feature : Feature} {queue : String} {x : Worker} {factory : WorkerFactory}
    (hprepare : feature.prepare { taskQueue := queue } = .ok x)
    (hfactory : factory.workers = [w₀.server.workers.length]) :
    Ensures (w₀.MadeBeside [x] [factory]) (lift (World.startFactory w₀.factories.length))
      (OnResult (fun _ => Placed w₀ feature queue (w₀.factories.length, w₀.server.workers.length))
        (LeftBeside w₀)) := by
  refine ensures_lift fun w hw => ?_
  have hentered := hw.enter .start
  have hworkers : (w.enter .start).2.server.workers = w₀.server.workers ++ [x] := by
    rw [hentered.server]
  unfold World.startFactory
  split
  · rename_i fault w₁ heq
    obtain rfl : (w.enter .start).2 = w₁ := congrArg Prod.snd heq
    -- a fault without an error lets the call succeed, and nothing is done
    cases fault.error with
    | some e => exact ⟨_, _, hentered⟩
    | none => exact ⟨rfl, ⟨x, hprepare, hworkers⟩, factory, hfactory, hentered.factories⟩
  · rename_i w₁ heq
    obtain rfl : (w.enter .start).2 = w₁ := congrArg Prod.snd heq
    have hfound : (w.enter .start).2.factory? w₀.factories.length = some factory := by
      rw [World.factory?, hentered.factories]
      exact List.getElem?_concat_length
    have hmodified : ((w.enter .start).2.modifyFactory w₀.factories.length
        fun f => { f with running := true }).factories =
          w₀.factories ++ [{ factory with running := true }] := by
      rw [modifyFactory, hentered.factories]
      exact List.modifyTailIdx_add _ 0 w₀.factories _
    rw [hfound]
    dsimp only
    obtain ⟨hattached, hfactories⟩ := workers_attachAll
      ((w.enter .start).2.modifyFactory w₀.factories.length fun f => { f with running := true })
      factory.target factory.workers
    refine ⟨rfl, ⟨x, hprepare, hattached.trans hworkers⟩, { factory with running := true },
      hfactory, ?_⟩
    exact hfactories.trans hmodified

/-- A worker is built and started, or whatever has been made is left beside what was there. -/
theorem ensures_build_beside (client : Client) (feature : Feature) (queue : String) :
    Ensures (w₀.MadeBeside [] []) (build client feature queue).run
      (OnResult (Placed w₀ feature queue) (LeftBeside w₀)) := by
  unfold build
  refine (beside_newFactory client).bindT fun factory => ?_
  rintro w ⟨rfl, target, hw⟩
  revert w
  refine (beside_newWorker target queue).bindT fun worker => ?_
  rintro w ⟨rfl, hw⟩
  revert w
  refine (beside_prepare feature queue _).bindT fun _ => ?_
  rintro w ⟨x, hprepare, hw⟩
  revert w
  refine (placed_start hprepare rfl).bindT fun _ => ?_
  exact ensures_pure _ fun _ h => h

/-! ## Restarts -/

theorem build_beside (client : Client) (feature : Feature) (queue : String) (w : World) :
    OnResult (Placed w feature queue) (LeftBeside w) ((build client feature queue).run.run w).1
      ((build client feature queue).run.run w).2 :=
  ensures_build_beside client feature queue w
    ⟨by rw [List.append_nil], by rw [List.append_nil]⟩

/-- A restart that fails changes neither the manager nor the server, but for workers that nobody
uses. -/
theorem restart_of_error {m m' : WorkerManager} {client : Client} {feature : Feature}
    {queue : String} {w w' : World} {e : Error}
    (h : (m.restart client feature queue).run w = ((.error e, m'), w')) :
    m' = m ∧ LeftBeside w w' := by
  have hbuild := build_beside client feature queue w
  rw [restart, run_bind'] at h
  generalize (build client feature queue).run.run w = built at hbuild h
  obtain ⟨result, w₁⟩ := built
  cases result with
  | ok pair => cases h
  | error e' =>
    cases h
    exact ⟨rfl, hbuild⟩

/-- A restart that succeeds puts a new pair in the place of the current one. -/
theorem restart_of_ok {m m' : WorkerManager} {client : Client} {feature : Feature}
    {queue : String} {w w' : World}
    (h : (m.restart client feature queue).run w = ((.ok (), m'), w')) :
    ∃ factory worker, m' = m.replaceWith factory worker ∧
      Placed w feature queue (factory, worker) w' := by
  have hbuild := build_beside client feature queue w
  rw [restart, run_bind'] at h
  generalize (build client feature queue).run.run w = built at hbuild h
  obtain ⟨result, w₁⟩ := built
  cases result with
  | ok pair =>
    cases h
    exact ⟨pair.1, pair.2, rfl, hbuild⟩
  | error e' => cases h

/-- What a sequence of restarts and shutdowns leads to, with the number of restarts that have
succeeded. In between anything else may happen that makes no factories and workers. -/
inductive Reached : Nat → WorkerManager → World → Prop
  | fresh (w : World) : Reached 0 {} w
  | restarted {n : Nat} {m m' : WorkerManager} {w w' : World} (h : Reached n m w)
      {client : Client} {feature : Feature} {queue : String}
      (hrun : (m.restart client feature queue).run w = ((.ok (), m'), w')) : Reached (n + 1) m' w'
  | refused {n : Nat} {m m' : WorkerManager} {w w' : World} (h : Reached n m w)
      {client : Client} {feature : Feature} {queue : String} {e : Error}
      (hrun : (m.restart client feature queue).run w = ((.error e, m'), w')) : Reached n m' w'
  | shutDown {n : Nat} {m : WorkerManager} {w : World} (h : Reached n m w) :
      Reached n m (m.shutdown.run w).2
  | meanwhile {n : Nat} {m : WorkerManager} {w w' : World} (h : Reached n m w)
      (hstays : w.Stays w') : Reached n m w'

/-- A factory is there with this worker only, and so is the worker. -/
def Present (w : World) (factory : FactoryId) (worker : WorkerId) : Prop :=
  (w.factories.map (·.workers))[factory]? = some [worker] ∧ worker < w.server.workers.length

variable {factory : FactoryId} {worker : WorkerId}

theorem Present.stays {w w' : World} (h : Present w factory worker) (hstays : w.Stays w') :
    Present w' factory worker := by
  unfold Present
  rw [hstays.factories, hstays.releases.length_workers]
  exact h

theorem Present.beside {w w' : World} (h : Present w factory worker) (hbeside : LeftBeside w w') :
    Present w' factory worker := by
  obtain ⟨workers, factories, hbeside⟩ := hbeside
  unfold Present
  rw [hbeside.factories, hbeside.server, List.map_append, List.length_append]
  exact ⟨getElem?_append_of_some h.1 _, Nat.lt_add_right _ h.2⟩

theorem Placed.present {w w' : World} {feature : Feature} {queue : String}
    (h : Placed w feature queue (factory, worker) w') : Present w' factory worker := by
  obtain ⟨hpair, ⟨x, -, hworkers⟩, f, hf, hfactories⟩ := h
  obtain ⟨rfl, rfl⟩ := Prod.mk.inj hpair
  unfold Present
  rw [hworkers, hfactories, List.map_append, List.length_append, List.map_singleton, hf]
  refine ⟨?_, Nat.lt_succ_self _⟩
  rw [← List.length_map (·.workers)]
  exact List.getElem?_concat_length

/-- The successful restarts are counted. Before the first one there is neither a factory nor a worker,
and after it there are both: the factory of the last one, with its worker. -/
structure Counted (n : Nat) (m : WorkerManager) (w : World) : Prop where
  starts : m.starts = n
  paired : n = 0 ∧ m.factory? = none ∧ m.worker? = none ∨ 0 < n ∧ ∃ factory worker,
    m.factory? = some factory ∧ m.worker? = some worker ∧ Present w factory worker

/-- What leaves a pair there that was there leaves all pairs there. -/
theorem Counted.mono {n : Nat} {m : WorkerManager} {w w' : World} (h : Counted n m w)
    (hpresent : ∀ factory worker, Present w factory worker → Present w' factory worker) :
    Counted n m w' where
  starts := h.starts
  paired := by
    refine h.paired.imp_right ?_
    rintro ⟨hpos, factory, worker, hfactory, hworker, hthere⟩
    exact ⟨hpos, factory, worker, hfactory, hworker, hpresent factory worker hthere⟩

/-- In every state the factory and the worker are both there or both missing, and the successful
restarts are counted. -/
theorem Reached.counted {n : Nat} {m : WorkerManager} {w : World} (h : Reached n m w) :
    Counted n m w := by
  induction h with
  | fresh w => exact ⟨rfl, .inl ⟨rfl, rfl, rfl⟩⟩
  | restarted h hrun ih =>
    obtain ⟨factory, worker, rfl, hplaced⟩ := restart_of_ok hrun
    exact ⟨congrArg (· + 1) ih.starts,
      .inr ⟨Nat.succ_pos _, factory, worker, rfl, rfl, hplaced.present⟩⟩
  | refused h hrun ih =>
    obtain ⟨rfl, hbeside⟩ := restart_of_error hrun
    exact ih.mono fun factory worker hpresent => hpresent.beside hbeside
  | @shutDown n m w h ih =>
    exact ih.mono fun factory worker hpresent => hpresent.stays (m.stays_shutdown w)
  | meanwhile h hstays ih => exact ih.mono fun factory worker hpresent => hpresent.stays hstays

/-- In every state the factory and the worker are both there if a restart has succeeded and both missing
if none has, and the successful ones are counted. A restart that fails leaves the manager as it was; at
the server there is nothing new but workers of which nobody knows, so nobody polls who did not, and no
workflow is handed out. A restart that succeeds is counted, and puts a new factory and a new worker in
the place of the current ones; the worker holds what the hook of the feature has registered and what
the feature brings. -/
theorem restart_all_or_nothing {n : Nat} {m : WorkerManager} {w : World} (h : Reached n m w)
    (client : Client) (feature : Feature) (queue : String) :
    (m.starts = n ∧ (n = 0 ∧ m.factory? = none ∧ m.worker? = none ∨ 0 < n ∧ ∃ factory worker,
      m.factory? = some factory ∧ m.worker? = some worker ∧ Present w factory worker)) ∧
    match (m.restart client feature queue).run w with
    | ((.error _, m'), w') =>
        m' = m ∧ w'.server = { w.server with workers := w'.server.workers } ∧
          w.server.workers <+: w'.server.workers ∧ w.factories <+: w'.factories
    | ((.ok (), m'), w') =>
        m'.starts = m.starts + 1 ∧
          ∃ factory worker, m'.factory? = some factory ∧ m'.worker? = some worker ∧
          w.factory? factory = none ∧ w.server.worker? worker = none ∧ Present w' factory worker ∧
          ∃ hooked x, feature.prepareWorker { taskQueue := queue } = .ok hooked ∧
            w'.server.worker? worker = some x ∧ feature.HeldBy hooked x := by
  refine ⟨⟨h.counted.starts, h.counted.paired⟩, ?_⟩
  split
  · rename_i e m' w' hrun
    obtain ⟨rfl, workers, factories, hserver, hfactories⟩ := restart_of_error hrun
    refine ⟨rfl, ?_, ?_, ?_⟩
    · rw [hserver]
    · rw [hserver]
      exact List.prefix_append _ _
    · rw [hfactories]
      exact List.prefix_append _ _
  · rename_i m' w' hrun
    obtain ⟨factory, worker, rfl, hplaced⟩ := restart_of_ok hrun
    have hpresent := hplaced.present
    obtain ⟨hfresh, ⟨x, hprepare, hworkers⟩, -⟩ := hplaced
    obtain ⟨rfl, rfl⟩ := Prod.mk.inj hfresh
    obtain ⟨hooked, hhook, hheld⟩ := Feature.heldBy_of_prepare hprepare
    refine ⟨rfl, _, _, rfl, rfl, ?_, ?_, hpresent, hooked, x, hhook, ?_, hheld⟩
    · exact List.getElem?_eq_none_iff.mpr (Nat.le_refl _)
    · exact List.getElem?_eq_none_iff.mpr (Nat.le_refl _)
    · rw [Server.worker?, hworkers]
      exact List.getElem?_concat_length

/-- A first restart succeeds, and the start of a second worker fails: the first one stays. -/
theorem second_restart_refused :
    let sdk : Sdk := { faults := [⟨.start, 2, some (.config "no start")⟩] }
    let feature : Feature := { workflows := [] }
    let m : WorkerManager := { factory? := some 0, worker? := some 0, starts := 1 }
    ∃ w, (({} : WorkerManager).restart ⟨0, "default"⟩ feature "queue").run { sdk } =
        ((.ok (), m), w) ∧
      ∃ w', (m.restart ⟨0, "default"⟩ feature "queue").run w =
          ((.error (.config "no start"), m), w') ∧
        w'.server.pollers = w.server.pollers ∧ w'.server.tasks = w.server.tasks := by
  intro sdk feature m
  let counts : Table SdkPoint Nat :=
    ((Table.empty.insert .newWorkerFactory 1).insert .newWorker 1).insert .start 1
  let w : World :=
    { sdk := { sdk with counts }
      factories := [{ target := "", workers := [0], running := true }]
      server :=
        { workers := [{ taskQueue := "queue" }]
          pollers := Table.empty.insert "queue" 0
          pending := Table.empty.erase "queue"
          calls := [⟨"", .pollTaskQueue, none⟩] } }
  have hfirst : (({} : WorkerManager).restart ⟨0, "default"⟩ feature "queue").run { sdk } =
      ((.ok (), m), w) := rfl
  have hrefused : ((m.restart ⟨0, "default"⟩ feature "queue").run w).1 =
      (.error (.config "no start"), m) := rfl
  have hsecond := restart_all_or_nothing (.restarted (.fresh _) hfirst) ⟨0, "default"⟩ feature
    "queue"
  refine ⟨w, hfirst, ?_⟩
  generalize (m.restart ⟨0, "default"⟩ feature "queue").run w = second at hrefused hsecond
  obtain ⟨_, w'⟩ := second
  subst hrefused
  have hserver := hsecond.2.2.1
  exact ⟨w', rfl, by rw [hserver], by rw [hserver]⟩

end WorkerManager

end Conformance
