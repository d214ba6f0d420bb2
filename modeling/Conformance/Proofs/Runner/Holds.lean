import Conformance.Proofs.Runner.Frame
import Conformance.Proofs.Runner.Triples

/-!
# What a runner holds

A runner holds the connections it has opened and the worker it has started last. A worker that is
started takes over the queue from the one before it, so that one worker is all there is to stop.

## Main definitions

- `Holds` — what has been opened since a given world and not been let go of
- `Feature.pollQueue` — the queue on which the workers of a feature poll

## Main statements

- `Holds.stays` — ordinary operations change nothing about it
- `WorkerManager.ensures_restart` — a new worker takes the place of the current one
- `WorkerManager.ensures_shutdown` — no worker is left

## Design notes

A fault without an error lets the start of a factory succeed without effect. The worker would then
not take over the queue of the one before it, which would be forgotten. Faults of this kind are left
out by a hypothesis.
-/

namespace Conformance

open World

/-- The queue on which the workers of a feature poll. A feature may choose another one than it is
given. -/
def Feature.pollQueue (f : Feature) (queue : String) : String :=
  match f.prepare { taskQueue := queue } with
  | .ok w => w.taskQueue
  | .error _ => queue

/-- What is held in the world `w` beyond what was there in `w₀`: connections, and the worker that
polls the queue, which is the only worker of its factory. The manager knows both or neither. -/
structure Holds (w₀ : World) (connections : List ConnectionId) (queue : String)
    (manager : WorkerManager) (w : World) : Prop where
  reached : ∃ log, Server.Run w₀.server log w.server
  /-- what is open was there or is held -/
  connections : ∀ id, w.server.isOpen id = true →
    id < w₀.server.connections.length ∨ id ∈ connections
  /-- who polls was there or is the current worker -/
  pollers : ∀ queue' id, w.server.pollers.get? queue' = some id →
    id < w₀.server.workers.length ∨ queue' = queue ∧ manager.worker? = some id
  paired : manager.factory?.isSome = manager.worker?.isSome
  current : ∀ factory id, manager.factory? = some factory → manager.worker? = some id →
    (w.factories.map (·.workers))[factory]? = some [id] ∧
      (w.server.workers.map (·.taskQueue))[id]? = some queue
  faults : w.sdk.faults = w₀.sdk.faults

section

variable {w₀ w w' : World} {connections : List ConnectionId} {queue : String}
  {manager : WorkerManager}

/-- At first nothing is held. -/
theorem holds_start (h : w.server.PolledByWorkers) (queue : String) :
    Holds w [] queue {} w where
  reached := ⟨[], .start⟩
  connections _ hopen := Or.inl (Server.lt_of_isOpen hopen)
  pollers queue' id hid := Or.inl (h queue' id hid)
  paired := rfl
  current _ _ hfactory := nomatch hfactory
  faults := rfl

/-- Without a worker the queue does not matter. -/
theorem Holds.any_queue (h : Holds w₀ connections queue {} w) (queue' : String) :
    Holds w₀ connections queue' {} w where
  reached := h.reached
  connections := h.connections
  pollers queue'' id hid := by
    refine (h.pollers queue'' id hid).imp_right ?_
    rintro ⟨-, hnone⟩
    cases hnone
  paired := rfl
  current _ _ hfactory := nomatch hfactory
  faults := h.faults

/-- What opens nothing changes nothing about what is held. -/
theorem Holds.stays (h : Holds w₀ connections queue manager w) (hstays : w.Stays w') :
    Holds w₀ connections queue manager w' where
  reached := by
    obtain ⟨log, hrun⟩ := h.reached
    obtain ⟨log', hrun', -⟩ := hstays.server
    exact ⟨_, hrun.trans hrun'⟩
  connections id hopen := h.connections id (hstays.releases.connections id hopen)
  pollers queue' id hid := h.pollers queue' id (hstays.releases.pollers queue' id hid)
  paired := h.paired
  current factory id hfactory hworker := by
    rw [hstays.factories, hstays.releases.queues]
    exact h.current factory id hfactory hworker
  faults := hstays.faults.trans h.faults

/-- A request that is served at the server is part of what has happened. -/
theorem Holds.reached_serve (h : Holds w₀ connections queue manager w) (q : Server.Request) :
    ∃ log, Server.Run w₀.server log (w.server.serve q).2 := by
  obtain ⟨log, hrun⟩ := h.reached
  exact ⟨_, hrun.serve q⟩

end

namespace Program

variable {α : Type} {w₀ : World} {connections : List ConnectionId} {queue : String}
  {manager : WorkerManager}

theorem ensures_of_stays {p : Program α} (h : p.Stays) :
    Ensures (Holds w₀ connections queue manager) p
      (fun _ => Holds w₀ connections queue manager) :=
  fun w hw => hw.stays (h w)

/-- A call that a fault may replace fails without effect then. -/
theorem ensures_guarded {point : SdkPoint} {call : World → Except Error α × World}
    {P : World → Prop} {Q : α → World → Prop} {E : World → Prop}
    (hP : ∀ w, P w → P (w.enter point).2) (hE : ∀ w, P w → E w)
    (hcall : ∀ w, P w → OnResult Q E (call w).1 (call w).2) :
    Ensures P (lift (guarded point call)) (OnResult Q E) := by
  intro w hw
  have hentered := hP w hw
  rw [run_lift]
  rcases guarded_cases point call w with hmade | ⟨e, hfailed⟩
  · rw [hmade]
    exact hcall _ hentered
  · rw [hfailed]
    exact hE _ hentered

/-- A connection that is opened is held. -/
theorem ensures_connect (target : String) :
    Ensures (Holds w₀ connections queue manager) (lift (World.connect target))
      (OnResult (fun id => Holds w₀ (id :: connections) queue manager)
        (Holds w₀ connections queue manager)) := by
  refine ensures_guarded (fun w h => h.stays (stays_enter w _)) (fun _ h => h) ?_
  intro w h
  have hreached := h.reached_serve (.connect target)
  have hserve : (w.server.serve (.connect target)).2 = (w.server.connect target).2 := rfl
  rw [hserve] at hreached
  rcases Server.connect_cases w.server target with ⟨error, hconnect⟩ | hconnect
  · rw [hconnect]
    exact h
  · rw [hconnect] at hreached ⊢
    refine ⟨hreached, ?_, h.pollers, h.paired, h.current, h.faults⟩
    intro id hopen
    rcases Server.isOpen_append rfl hopen with hopen | rfl
    · exact (h.connections id hopen).imp_right (List.mem_cons_of_mem _)
    · exact Or.inr List.mem_cons_self

/-- A connection that is shut down is held no longer. -/
theorem ensures_closeService (id : ConnectionId) :
    Ensures (Holds w₀ (id :: connections) queue manager) (lift (World.closeService id))
      (fun _ => Holds w₀ connections queue manager) := by
  refine ensures_lift fun w h => ?_
  have hstays := h.stays (stays_closeService id w)
  refine ⟨hstays.reached, ?_, hstays.pollers, hstays.paired, hstays.current, hstays.faults⟩
  intro id' hopen
  have hclosed : w.server.isOpen id' = true ∧ decide (id ≠ id') = true := by
    rw [← Bool.and_eq_true, ← Server.isOpen_closeConnection]
    exact hopen
  refine (h.connections id' hclosed.1).imp_right fun hmem => ?_
  exact (List.mem_cons.mp hmem).resolve_left fun heq => of_decide_eq_true hclosed.2 heq.symm

end Program

/-! ## The current worker -/

theorem getElem?_append_of_some {α : Type} {l : List α} {i : Nat} {a : α} (h : l[i]? = some a)
    (l' : List α) : (l ++ l')[i]? = some a := by
  rw [List.getElem?_append_left (List.getElem?_eq_some_iff.mp h).1, h]

theorem worker_of_queue {s : Server} {id : WorkerId} {queue : String}
    (h : (s.workers.map (·.taskQueue))[id]? = some queue) :
    ∃ x, s.worker? id = some x ∧ x.taskQueue = queue := by
  rw [List.getElem?_map] at h
  exact Option.map_eq_some_iff.mp h

theorem factory_of_workers {w : World} {id : FactoryId} {ids : List WorkerId}
    (h : (w.factories.map (·.workers))[id]? = some ids) :
    ∃ f, w.factory? id = some f ∧ f.workers = ids := by
  rw [List.getElem?_map] at h
  exact Option.map_eq_some_iff.mp h

namespace WorkerManager

open Program

variable {w₀ : World} {connections : List ConnectionId} {queue : String}
  {manager : WorkerManager}

/-- A factory without a worker has been made. -/
structure NewFactory (w₀ : World) (connections : List ConnectionId) (queue : String)
    (manager : WorkerManager) (factory : FactoryId) (w : World) : Prop where
  holds : Holds w₀ connections queue manager w
  factory : (w.factories.map (·.workers))[factory]? = some []

/-- A worker has been made in a factory of its own, and it is on a queue. -/
structure NewWorker (w₀ : World) (connections : List ConnectionId) (queue : String)
    (manager : WorkerManager) (factory : FactoryId) (worker : WorkerId)
    (w : World) : Prop where
  holds : Holds w₀ connections queue manager w
  factory : (w.factories.map (·.workers))[factory]? = some [worker]

theorem NewFactory.stays {w w' : World} {factory : FactoryId}
    (h : NewFactory w₀ connections queue manager factory w) (hstays : w.Stays w') :
    NewFactory w₀ connections queue manager factory w' where
  holds := h.holds.stays hstays
  factory := hstays.factories ▸ h.factory

theorem ensures_newFactory (client : Client) :
    Ensures (Holds w₀ connections queue manager) (lift (World.newFactory client))
      (OnResult (NewFactory w₀ connections queue manager)
        (Holds w₀ connections queue manager)) := by
  refine ensures_guarded (fun w h => h.stays (stays_enter w _)) (fun _ h => h) ?_
  intro w h
  refine ⟨⟨h.reached, h.connections, h.pollers, h.paired, ?_, h.faults⟩, ?_⟩
  · intro factory id hfactory? hworker?
    obtain ⟨hfactory, hworker⟩ := h.current factory id hfactory? hworker?
    refine ⟨?_, hworker⟩
    rw [List.map_append]
    exact getElem?_append_of_some hfactory _
  · show (List.map _ (w.factories ++ _))[w.factories.length]? = _
    rw [List.map_append, ← List.length_map (·.workers)]
    exact List.getElem?_concat_length

/-- A worker that is made belongs to its factory, and to no other one. -/
theorem ensures_newWorker (factory : FactoryId) (given : String) :
    Ensures (NewFactory w₀ connections queue manager factory)
      (lift (World.newWorker factory given))
      (OnResult (fun worker w => NewWorker w₀ connections queue manager factory worker w ∧
          w.server.worker? worker = some { taskQueue := given })
        (Holds w₀ connections queue manager)) := by
  refine ensures_guarded (fun w h => h.stays (stays_enter w _)) (fun _ h => h.holds) ?_
  intro w h
  split
  · exact h.holds
  · have hreached := h.holds.reached_serve (.addWorker given)
    obtain ⟨f, hf, hworkers⟩ := factory_of_workers h.factory
    have hfactories : ∀ i, (((w.factories.modify factory fun f =>
        { f with workers := f.workers ++ [w.server.workers.length] }).map (·.workers))[i]?) =
          if factory = i then some [w.server.workers.length]
          else (w.factories.map (·.workers))[i]? := by
      intro i
      rw [getElem?_map_modify hf, hworkers]
      rfl
    refine ⟨⟨⟨hreached, h.holds.connections, h.holds.pollers, h.holds.paired, ?_, h.holds.faults⟩,
      ?_⟩, ?_⟩
    · intro factory' id hfactory? hworker?
      obtain ⟨hfactory, hworker⟩ := h.holds.current factory' id hfactory? hworker?
      -- the factory had no worker, so it is not that of the current one
      have hne : factory ≠ factory' := by
        rintro rfl
        rw [h.factory] at hfactory
        cases hfactory
      refine ⟨?_, ?_⟩
      · rw [← hfactory]
        exact (hfactories factory').trans (if_neg hne)
      · show (List.map _ (w.server.workers ++ _))[id]? = _
        rw [List.map_append]
        exact getElem?_append_of_some hworker _
    · exact (hfactories factory).trans (if_pos rfl)
    · exact List.getElem?_concat_length

/-- A worker is prepared for its feature, which sets its queue. -/
theorem ensures_prepare (feature : Feature) (factory : FactoryId) (worker : WorkerId)
    (given : String) (hqueue : feature.pollQueue given = queue) :
    Ensures (fun w => NewWorker w₀ connections queue manager factory worker w ∧
        w.server.worker? worker = some { taskQueue := given })
      (lift (World.updateWorker worker feature.prepare))
      (OnResult (fun _ w => NewWorker w₀ connections queue manager factory worker w ∧
          (w.server.workers.map (·.taskQueue))[worker]? = some queue)
        (Holds w₀ connections queue manager)) := by
  refine ensures_lift ?_
  rintro w ⟨h, hworker⟩
  have hreached := h.holds.reached_serve (.updateWorker worker feature.prepare)
  have hserve : (w.server.serve (.updateWorker worker feature.prepare)).2 =
      (w.server.updateWorker worker feature.prepare).2 := rfl
  rw [hserve] at hreached
  rw [Server.updateWorker_eq hworker] at hreached
  unfold World.updateWorker
  dsimp only
  rw [Server.updateWorker_eq hworker]
  cases hprepare : feature.prepare { taskQueue := given } with
  | error e => exact h.holds
  | ok x =>
    rw [hprepare] at hreached
    have hx : x.taskQueue = queue := by
      rw [← hqueue, Feature.pollQueue, hprepare]
    have hqueues : ∀ id, ((w.server.modifyWorker worker fun _ => x).workers.map
        (·.taskQueue))[id]? =
          if worker = id then some queue else (w.server.workers.map (·.taskQueue))[id]? := by
      intro id
      rw [← hx]
      exact getElem?_map_modify hworker id
    refine ⟨⟨⟨hreached, h.holds.connections, h.holds.pollers, h.holds.paired, ?_, h.holds.faults⟩,
      h.factory⟩, ?_⟩
    · intro factory' id hfactory? hworker?
      obtain ⟨hfactory, hid⟩ := h.holds.current factory' id hfactory? hworker?
      refine ⟨hfactory, (hqueues id).trans ?_⟩
      split
      · rfl
      · exact hid
    · exact (hqueues worker).trans (if_pos rfl)

/-- A worker that starts polling takes the place of the current one. -/
theorem NewWorker.attach {w : World} {factory : FactoryId} {worker : WorkerId}
    (h : NewWorker w₀ connections queue manager factory worker w)
    (hqueue : (w.server.workers.map (·.taskQueue))[worker]? = some queue) (target : String) :
    Holds w₀ connections queue (manager.replaceWith factory worker)
      { w with server := w.server.attach target worker } := by
  obtain ⟨x, hx, hxqueue⟩ := worker_of_queue hqueue
  have hreached := h.holds.reached_serve (.attach target worker)
  have hserve : (w.server.serve (.attach target worker)).2 = w.server.attach target worker := rfl
  rw [hserve] at hreached
  have hattach := Server.attach_eq hx target
  refine ⟨hreached, ?_, ?_, rfl, ?_, h.holds.faults⟩
  · rw [hattach]
    exact h.holds.connections
  · intro queue' id hid
    rw [hattach, hxqueue] at hid
    rw [Table.get?_insert] at hid
    by_cases heq : queue = queue'
    · rw [if_pos heq] at hid
      cases hid
      exact Or.inr ⟨heq.symm, rfl⟩
    · rw [if_neg heq] at hid
      -- the worker that polled the queue so far was the only one that could be forgotten
      refine (h.holds.pollers queue' id hid).imp_right ?_
      rintro ⟨hsame, -⟩
      exact absurd hsame.symm heq
  · intro factory' id hfactory hworker
    cases hfactory
    cases hworker
    refine ⟨h.factory, ?_⟩
    rw [hattach]
    exact hqueue

/-- Every fault of the start of a factory is an error. A start that does nothing and succeeds would
let the worker before it poll on, with nobody left to stop it. -/
def StartFails (w : World) : Prop :=
  ∀ fault ∈ w.sdk.faults, fault.point = .start → fault.error ≠ none

theorem StartFails.error {w w' : World} (h : StartFails w) {fault : Fault}
    (henter : w.enter .start = (some fault, w')) : ∃ e, fault.error = some e := by
  have hfind : (w.sdk.enter .start).1 = some fault := congrArg Prod.fst henter
  unfold Sdk.enter at hfind
  have hpoint := List.find?_some hfind
  rw [decide_eq_true_eq] at hpoint
  exact Option.ne_none_iff_exists'.mp (h fault (List.mem_of_find?_eq_some hfind) hpoint.1)

theorem ensures_startFactory (hfaults : StartFails w₀) (factory : FactoryId)
    (worker : WorkerId) :
    Ensures (fun w => NewWorker w₀ connections queue manager factory worker w ∧
        (w.server.workers.map (·.taskQueue))[worker]? = some queue)
      (lift (World.startFactory factory))
      (OnResult (fun _ => Holds w₀ connections queue (manager.replaceWith factory worker))
        (Holds w₀ connections queue manager)) := by
  refine ensures_lift ?_
  rintro w ⟨h, hqueue⟩
  have hentered := stays_enter w .start
  unfold World.startFactory
  split
  · rename_i fault w₁ henter
    -- the faults are those that were set at first
    have hstarts : StartFails w := by
      unfold StartFails
      rw [h.holds.faults]
      exact hfaults
    obtain ⟨e, he⟩ := hstarts.error henter
    rw [henter] at hentered
    rw [he]
    exact h.holds.stays hentered
  · rename_i w₁ henter
    have hsame : w₁ = (w.enter .start).2 := (congrArg Prod.snd henter).symm
    subst hsame
    obtain ⟨f, hf, hworkers⟩ := factory_of_workers h.factory
    have hf₁ : (w.enter .start).2.factory? factory = some f := hf
    rw [hf₁]
    dsimp only
    rw [hworkers]
    have hrunning : (w.enter .start).2.Stays ((w.enter .start).2.modifyFactory factory
        fun f => { f with running := true }) :=
      stays_of_same rfl (workers_modifyFactory _ factory _ fun _ => rfl) rfl
    have hstays := hentered.trans hrunning
    have hnew : NewWorker w₀ connections queue manager factory worker
        ((w.enter .start).2.modifyFactory factory fun f => { f with running := true }) :=
      ⟨h.holds.stays hstays, hstays.factories ▸ h.factory⟩
    exact hnew.attach hqueue f.target

/-- A worker is built and started, or the current one stays. -/
theorem ensures_build (hfaults : StartFails w₀) (client : Client) (feature : Feature)
    (given : String) (hqueue : feature.pollQueue given = queue) :
    Ensures (Holds w₀ connections queue manager) (build client feature given).run
      (OnResult (fun pair => Holds w₀ connections queue (manager.replaceWith pair.1 pair.2))
        (Holds w₀ connections queue manager)) := by
  unfold build
  refine (ensures_newFactory client).bindT fun factory => ?_
  refine (ensures_newWorker factory given).bindT fun worker => ?_
  refine (ensures_prepare feature factory worker given hqueue).bindT fun _ => ?_
  refine (ensures_startFactory hfaults factory worker).bindT fun _ => ?_
  exact ensures_pure _ fun _ h => h

/-- A new worker takes the place of the current one, or nothing changes. -/
theorem ensures_restart (hfaults : StartFails w₀) (m : WorkerManager) (client : Client)
    (feature : Feature) (given : String) (hqueue : feature.pollQueue given = queue) :
    Ensures (Holds w₀ connections queue m) (m.restart client feature given)
      (fun r w => Holds w₀ connections queue r.2 w ∧ ∀ e, r.1 = .error e → r.2 = m) := by
  unfold restart
  refine (ensures_build hfaults client feature given hqueue).bind fun result => ?_
  cases result with
  | ok pair => exact ensures_pure _ fun w h => ⟨h, fun e he => nomatch he⟩
  | error e => exact ensures_pure _ fun w h => ⟨h, fun _ _ => rfl⟩

/-- The worker of a factory that is shut down no longer polls. -/
theorem pollers_shutdownFactory {w : World} {factory : FactoryId} {worker : WorkerId}
    (h : Holds w₀ connections queue manager w) (hfactory? : manager.factory? = some factory)
    (hworker? : manager.worker? = some worker) :
    (World.shutdownFactory factory w).2.server.pollers.get? queue ≠ some worker := by
  obtain ⟨hfactory, hqueue⟩ := h.current factory worker hfactory? hworker?
  obtain ⟨f, hf, hworkers⟩ := factory_of_workers hfactory
  obtain ⟨x, hx, hxqueue⟩ := worker_of_queue hqueue
  have hpollers : (World.shutdownFactory factory w).2.server.pollers =
      (w.server.detach worker).pollers := by
    unfold World.shutdownFactory
    rw [hf]
    dsimp only
    rw [hworkers]
    unfold Server.release
    dsimp only
    split <;> rfl
  rw [hpollers, Server.detach, hx]
  dsimp only
  rw [hxqueue]
  split
  · rw [Table.get?_erase, if_pos rfl]
    exact (Option.some_ne_none worker).symm
  · assumption

/-- After the current worker is shut down, none is left. -/
theorem ensures_shutdown (m : WorkerManager) :
    Ensures (Holds w₀ connections queue m) m.shutdown (fun _ => Holds w₀ connections queue {}) := by
  unfold shutdown
  cases hfactory : m.factory? with
  | none =>
    refine ensures_pure _ fun w h => ⟨h.reached, h.connections, ?_, rfl, nofun, h.faults⟩
    intro queue' id hid
    refine (h.pollers queue' id hid).imp_right ?_
    rintro ⟨-, hworker⟩
    -- a manager without a factory has no worker either
    have hpaired := h.paired
    rw [hfactory, hworker] at hpaired
    cases hpaired
  | some factory =>
    refine ensures_lift fun w h => ?_
    have hstays := h.stays (stays_shutdownFactory factory w)
    refine ⟨hstays.reached, hstays.connections, ?_, rfl, nofun, hstays.faults⟩
    intro queue' id hid
    -- of what polls since the first world only the current worker is left, which has stopped
    rcases hstays.pollers queue' id hid with hold | ⟨rfl, hworker⟩
    · exact Or.inl hold
    · exact absurd hid (pollers_shutdownFactory h hfactory hworker)

end WorkerManager

end Conformance
