import Conformance.Proofs.Schedules.Rules
import Conformance.Runner.Run

/-!
# Running as one of the schedules

No run of a feature waits for the clock as such: it waits for a latch, for a completion or for a command
that is sent, each until a deadline at most. So running it is one of its schedules, and what every schedule
leads to is what a run leads to.

## Main statements

- `Runner.timeless_perform`, `Runner.timeless_exec` — operations and scripts
- `timeless_runFeature` — a whole run
-/

namespace Conformance

namespace Program

variable {α β : Type}

theorem timeless_pure (a : α) : (pure a : Program α).Timeless := trivial

theorem Timeless.bind {p : Program α} {f : α → Program β} (hp : p.Timeless)
    (hf : ∀ a, (f a).Timeless) : (p >>= f).Timeless := by
  induction p with
  | done a => exact hf a
  | act change next ih => exact fun w => ih w (hp w)
  | await ready deadline next ih => exact ⟨hp.1, fun met => ih met (hp.2 met)⟩

theorem timeless_lift (action : World → α × World) : (lift action).Timeless := fun _ => trivial

theorem timeless_look (view : World → α) : (look view).Timeless := fun _ => trivial

theorem timeless_change (f : World → World) : (change f).Timeless := fun _ => trivial

theorem timeless_waitFor {ready : World → Bool}
    (h : ∀ (w : World) now, ready (w.advanceTo now) = ready w) (limit : Duration) :
    (waitFor ready limit).Timeless :=
  fun _ => ⟨h, fun _ => trivial⟩

theorem timeless_sleep (d : Duration) : (sleep d).Timeless :=
  (timeless_waitFor (fun _ _ => rfl) d).bind fun _ => trivial

theorem timeless_result (e : Execution) : (result e).Timeless := by
  refine (timeless_look _).bind fun sub => ?_
  cases sub with
  | error e => exact trivial
  | ok sub => exact (timeless_waitFor (fun _ _ => rfl) _).bind fun _ => timeless_look _

/-- Programs that may fail, one after another. -/
theorem Timeless.bindT {p : ExceptT Error Program α} {f : α → ExceptT Error Program β}
    (hp : p.run.Timeless) (hf : ∀ a, (f a).run.Timeless) : (p >>= f).run.Timeless := by
  rw [ExceptT.run_bind]
  refine Timeless.bind hp fun result => ?_
  cases result with
  | error e => exact trivial
  | ok a => exact hf a

end Program

namespace Runner

open Program

theorem timeless_build (client : Client) (feature : Feature) (queue : String) :
    (WorkerManager.build client feature queue).run.Timeless := by
  unfold WorkerManager.build
  refine Timeless.bindT (timeless_lift _) fun factory => ?_
  refine Timeless.bindT (timeless_lift _) fun worker => ?_
  refine Timeless.bindT (timeless_lift _) fun _ => ?_
  exact Timeless.bindT (timeless_lift _) fun _ => timeless_pure _

theorem timeless_restartWorker (r : Runner) : r.restartWorker.Timeless := by
  refine Timeless.bind ?_ fun _ => timeless_pure _
  refine (timeless_build _ _ _).bind fun result => ?_
  cases result <;> exact trivial

theorem timeless_shutdown (m : WorkerManager) : m.shutdown.Timeless := by
  unfold WorkerManager.shutdown
  split
  · exact timeless_lift _
  · exact timeless_pure _

theorem timeless_onWorker (r : Runner) (action : WorkerId → World → Except Error Unit × World) :
    (r.onWorker action).Timeless := by
  unfold onWorker
  split
  · exact timeless_pure _
  · exact timeless_lift _

theorem timeless_perform (r : Runner) (op : RunnerOp) : (r.perform op).Timeless := by
  cases op with
  | view | loadPast | requests => exact (timeless_look _).bind fun _ => timeless_pure _
  | startWorkflow _ _ _ | history _ | describe _ | update _ _ | startUpdate _ _ | storeHistories _
  | send _ | sendLater _ _ | closeService =>
    exact (timeless_lift _).bind fun _ => timeless_pure _
  | openLatch _ | increment _ | settle | setStatus _ =>
    exact (timeless_change _).bind fun _ => timeless_pure _
  | result e => exact (timeless_result e).bind fun _ => timeless_pure _
  | restartWorker => exact r.timeless_restartWorker
  | shutdownWorker => exact (timeless_shutdown _).bind fun _ => timeless_pure _
  | consultWorker _ | registerWorkflow _ =>
    exact (r.timeless_onWorker _).bind fun _ => timeless_pure _
  | join _ => exact Timeless.bind ⟨fun _ _ => rfl, fun _ => trivial⟩ fun _ => timeless_pure _
  | awaitLatch _ limit =>
    exact (timeless_waitFor (fun _ _ => rfl) limit).bind fun _ => timeless_pure _
  | sleep d => exact (timeless_sleep d).bind fun _ => timeless_pure _

theorem timeless_exec {α : Type} (script : Script α) (r : Runner) : (exec script r).Timeless := by
  induction script generalizing r with
  | done result => exact trivial
  | call op next ih => exact (r.timeless_perform op).bind fun x => ih x.1 x.2

theorem timeless_connectTo (target : String) : (connectTo target).Timeless := by
  refine (timeless_lift _).bind fun result => ?_
  cases result <;> exact trivial

theorem timeless_releaseAll (ids : List ConnectionId) : (releaseAll ids).Timeless := by
  induction ids with
  | nil => exact trivial
  | cons id ids ih => exact (timeless_lift _).bind fun _ => ih

theorem timeless_assemble (config : Config) (prepared : PreparedFeature) (feature : Feature)
    (service directService : ConnectionId) :
    (assemble config prepared feature service directService).Timeless := by
  refine (timeless_lift _).bind fun client => ?_
  cases client with
  | error e => exact trivial
  | ok client =>
    refine (timeless_lift _).bind fun directClient => ?_
    cases directClient with
    | error e => exact trivial
    | ok directClient =>
      refine (timeless_restartWorker _).bind fun restarted => ?_
      obtain ⟨result, r⟩ := restarted
      cases result <;> exact trivial

theorem timeless_openConnections (config : Config) (prepared : PreparedFeature) (feature : Feature) :
    (openConnections config prepared feature).Timeless := by
  refine (timeless_connectTo _).bind fun service => ?_
  cases service with
  | error e => exact trivial
  | ok service =>
    refine (timeless_connectTo _).bind fun directService => ?_
    cases directService with
    | error e => exact (timeless_releaseAll _).bind fun _ => trivial
    | ok directService =>
      refine (timeless_assemble _ _ _ _ _).bind fun result => ?_
      cases result with
      | error e => exact (timeless_releaseAll _).bind fun _ => trivial
      | ok r => exact trivial

theorem timeless_launch (config : Config) (prepared : PreparedFeature) :
    (launch config prepared).Timeless := by
  unfold launch
  cases config.validate with
  | error e => exact trivial
  | ok _ =>
    refine (timeless_lift _).bind fun feature => ?_
    cases feature.skipReason with
    | some reason => exact trivial
    | none => exact timeless_openConnections _ _ _

theorem timeless_close (r : Runner) : r.close.Timeless := by
  refine (timeless_shutdown _).bind fun worker => ?_
  refine (timeless_lift _).bind fun direct => ?_
  exact (timeless_lift _).bind fun proxied => timeless_pure _

end Runner

/-- No run of a feature waits for the clock as such. -/
theorem timeless_runFeature (config : Config) (prepared : PreparedFeature) :
    (runFeature config prepared).Timeless := by
  refine Program.Timeless.bind ?_ fun _ => Program.timeless_pure _
  refine (Runner.timeless_launch config prepared).bind fun launched => ?_
  cases launched with
  | error e => exact trivial
  | ok r =>
    refine (Runner.timeless_exec _ r).bind fun ran => ?_
    exact ran.2.timeless_close.bind fun _ => trivial

end Conformance
