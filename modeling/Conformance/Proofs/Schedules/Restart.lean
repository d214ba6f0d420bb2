import Conformance.Features.WorkerRestart
import Conformance.Proofs.Files.Segments
import Conformance.Proofs.Schedules.Counting

/-!
# An activity that survives a restart of its worker

The worker of a run is stopped while its activity is under way, and another one takes its place. In every
schedule the activity ends only after the other worker has been started, and nothing polls in between. If
the other worker cannot be started, the run has failed, and its execution waits for ever.

## Main definitions

- `WorkerRestart.Orderly` — what holds all the time
- `WorkerRestart.Ends` — how the run ends

## Main statements

- `WorkerRestart.activity_survives_restart` — the run in every schedule, with and without a fault
-/

namespace Conformance

/-! ## A single fault -/

namespace Sdk

/-- How often a call has been counted. -/
def count (s : Sdk) (point : SdkPoint) : Nat := (s.counts.get? point).getD 0

variable {s : Sdk} {point : SdkPoint} {nth : Nat} {e : Error}

theorem count_enter (s : Sdk) (other point : SdkPoint) :
    (s.enter other).2.count point = s.count point + if other = point then 1 else 0 := by
  show (((s.counts.insert other (s.count other + 1)).get? point).getD 0) = _
  rw [Table.get?_insert]
  by_cases h : other = point
  · subst h
    simp
  · simp [h, count]

theorem count_entered (s : Sdk) (points : List SdkPoint) (point : SdkPoint) :
    (s.entered points).count point = s.count point + points.count point := by
  induction points generalizing s with
  | nil => rfl
  | cons other points ih =>
    show ((s.enter other).2.entered points).count point = _
    rw [ih, count_enter, List.count_cons]
    by_cases h : other = point
    · simp [h]
      omega
    · simp [h]

/-- With one fault, a call is replaced if it is the one. -/
theorem enter_of_single (h : s.faults = [⟨point, nth, some e⟩]) (other : SdkPoint) :
    (s.enter other).1 =
      if point = other ∧ nth = s.count other + 1 then some ⟨point, nth, some e⟩ else none := by
  show s.faults.find? _ = _
  rw [h]
  by_cases hhit : point = other ∧ nth = s.count other + 1
  · rw [if_pos hhit]
    exact List.find?_cons_of_pos (decide_eq_true hhit)
  · rw [if_neg hhit]
    exact (List.find?_cons_of_neg (by simpa [count] using hhit)).trans List.find?_nil

/-- The fault does not replace any of the calls before it. -/
theorem makes_of_single (h : s.faults = [⟨point, nth, some e⟩]) {points : List SdkPoint}
    (hlater : s.count point + points.count point < nth) : s.Makes points := by
  induction points generalizing s with
  | nil => trivial
  | cons other points ih =>
    rw [List.count_cons] at hlater
    refine ⟨?_, ih (s := (s.enter other).2) h ?_⟩
    · rw [enter_of_single h, if_neg]
      rintro ⟨rfl, hnth⟩
      simp at hlater
      omega
    · rw [count_enter]
      by_cases hsame : other = point
      · simp [hsame] at hlater ⊢
        omega
      · simp [hsame] at hlater ⊢
        exact hlater

/-- The fault replaces one of the calls that come next. -/
theorem strikes_of_single (h : s.faults = [⟨point, nth, some e⟩]) {points : List SdkPoint}
    (hnext : s.count point < nth) (hnow : nth ≤ s.count point + points.count point) :
    s.Strikes e points := by
  -- the calls that are left to the fault get fewer with each call at its point
  induction points generalizing s with
  | nil =>
    rw [List.count_nil] at hnow
    omega
  | cons other points ih =>
    rw [List.count_cons] at hnow
    unfold Strikes
    rw [enter_of_single h]
    by_cases hhit : point = other ∧ nth = s.count other + 1
    · rw [if_pos hhit]
      obtain ⟨rfl, -⟩ := hhit
      exact .inl ⟨nth, rfl⟩
    · rw [if_neg hhit]
      refine .inr ⟨rfl, ih (s := (s.enter other).2) h ?_ ?_⟩
      · rw [count_enter]
        by_cases hsame : other = point
        · subst hsame
          have hne : nth ≠ s.count other + 1 := fun hnth => hhit ⟨rfl, hnth⟩
          simp
          omega
        · simp [hsame]
          exact hnext
      · rw [count_enter]
        by_cases hsame : other = point
        · simp [hsame] at hnow ⊢
          omega
        · simp [hsame] at hnow ⊢
          exact hnow

end Sdk

namespace Features.WorkerRestart

open World Program

/-- What the workflow of an instance does. -/
def errand (scope : Nat) : Errand where
  method := workflow.method
  activityType := "block"
  started := started scope
  gate := restarted scope
  tail := .done (.ok (.int 1))

theorem serves_feature (scope : Nat) : (errand scope).Serves (feature scope) :=
  ⟨fun _ => rfl, rfl, rfl, rfl⟩

/-! ## What holds all the time -/

/-- What holds at every moment of a run that has begun in the world `w₀`: once the workflow has been
started, the end of its activity is on record only if a second worker has been started; and between the
end of the first worker and the start of the second one nothing polls the queue. -/
structure Orderly (w₀ : World) (queue : String) (w : World) : Prop where
  completes : ∀ r, w₀.server.starts < w.server.starts →
    w.server.executions.get? (Errand.nextRun queue w₀).workflowId = some r →
      r.history.has .activityTaskCompleted = true → 2 ≤ w₀.callsSince w .pollTaskQueue
  silent : w₀.callsSince w .shutdownWorkerFactory ≠ 0 → w₀.callsSince w .pollTaskQueue < 2 →
    w.server.pollers.get? queue = none

variable {w₀ w : World} {queue : String} {starts polls stops updates : Nat}

/-- Before the workflow is started. -/
theorem orderly_of_unstarted (h : w₀.Tally w starts polls 0 updates)
    (hstarts : w.server.starts = w₀.server.starts) : Orderly w₀ queue w where
  completes r hlt := absurd hlt (by omega)
  silent hstops := absurd h.stops hstops

/-- While the activity is open. -/
theorem orderly_of_open (h : w₀.Tally w starts polls stops updates) {r : ExecutionRecord}
    (hr : w.server.executions.get? (Errand.nextRun queue w₀).workflowId = some r)
    (hopen : r.history.has .activityTaskCompleted = false)
    (hsilent : stops ≠ 0 → w.server.pollers.get? queue = none) : Orderly w₀ queue w where
  completes r' _ hr' hcompleted := by
    cases hr.symm.trans hr'
    rw [hopen] at hcompleted
    cases hcompleted
  silent hstops _ := hsilent (h.stops ▸ hstops)

/-- After the second worker has been started. -/
theorem orderly_of_restarted (h : w₀.Tally w starts polls stops updates) (hpolls : 2 ≤ polls) :
    Orderly w₀ queue w where
  completes _ _ _ _ := h.polls ▸ hpolls
  silent _ hless := absurd hless (by rw [h.polls]; omega)

/-! ## How the run ends -/

/-- How a run ends that has begun in the world `w₀`.

- Without a fault it passes: two workers and one workflow have been started, and the result is 1.
- With a fault it has failed with the error. The execution goes on with an open activity and nothing else
  on record, nothing polls the queue, and whatever is left waits for ever. -/
def Ends (w₀ : World) (queue : String) (fault : Option (SdkPoint × Error)) (o : Outcome) (w : World) :
    Prop :=
  match fault with
  | none => o = .passed ∧ w₀.callsSince w .pollTaskQueue = 2 ∧ w₀.callsSince w .startWorkflow = 1 ∧
    w.server.starts = w₀.server.starts + 1 ∧
    w.server.completions.get? (Errand.nextRun queue w₀).runId = some (.ok (.int 1))
  | some (_, e) => o = .failed e.message ∧
    (∃ r, w.server.executions.get? (Errand.nextRun queue w₀).workflowId = some r ∧
      r.status = .running ∧ r.history.events.map (·.eventType) =
        [.workflowExecutionStarted, .activityTaskScheduled]) ∧
    w.server.completions.get? (Errand.nextRun queue w₀).runId = none ∧
    w.server.pollers.get? queue = none ∧ w.Dormant

/-! ## Up to the restart -/

/-- The feature as it is registered. -/
def prepared : PreparedFeature := ⟨dir, feature⟩

/-- The run that is started next. -/
def nextRun (config : Config) (w : World) : Run :=
  ⟨workflow.method, Errand.nextRun config.taskQueue w⟩

section

variable {config : Config} (hvalid : config.validate = .ok ()) (hclear : w₀.Clear config.taskQueue)

/-- The first worker has been stopped while the activity is under way, and no second one has been
started. -/
structure Halted (config : Config) (w₀ v : World) : Prop where
  holds : (errand (w₀.instances + 1)).Holds (Errand.nextRun config.taskQueue w₀).workflowId
    w₀.server.workers.length ((errand (w₀.instances + 1)).record config.taskQueue w₀) v
  tally : w₀.Tally v 1 1 1 0
  silent : v.server.pollers.get? config.taskQueue = none
  closable : (Runner.opened config prepared w₀).Closable v

/-- Another worker can be started. -/
structure Paused (config : Config) (w₀ v : World) : Prop extends Halted config w₀ v where
  starts : v.server.starts = w₀.server.starts + 1
  isOpen : v.server.isOpen (Runner.opened config prepared w₀).initiatorService = true
  waiting : v.server.waiting config.taskQueue = []
  sdk : v.sdk = w₀.sdk.entered Runner.launchCalls
  files : v.files = w₀.files

theorem Halted.orderly {v : World} (h : Halted config w₀ v) : Orderly w₀ config.taskQueue v :=
  orderly_of_open h.tally h.holds.record rfl fun _ => h.silent

/-- Preparing a second worker changes nothing of that. -/
theorem Halted.prepares {v v' : World} (h : Halted config w₀ v) (hv : v.Prepares v') :
    Halted config w₀ v' where
  holds := by
    apply h.holds.of_same <;> first | rw [hv.server] | rw [hv.world]
  tally := by
    apply h.tally.of_same
    rw [hv.server]
  silent := by
    rw [hv.server]
    exact h.silent
  closable := by
    obtain ⟨factory, worker, target, running, hcurrent, hfactory⟩ := h.closable.current
    refine ⟨⟨factory, worker, target, running, hcurrent, hv.factory? hfactory⟩, ?_⟩
    rw [hv.server]
    exact h.closable.failingShutdown

theorem Paused.advanceTo {v : World} (h : Paused config w₀ v) (now : Nat) :
    Paused config w₀ (v.advanceTo now) where
  holds := h.holds.of_same rfl rfl rfl rfl rfl
  tally := h.tally.of_same rfl
  starts := h.starts
  silent := h.silent
  closable := h.closable.of_same rfl rfl
  isOpen := h.isOpen
  waiting := h.waiting
  sdk := h.sdk
  files := h.files

/-- The world in which the workflow has been started. -/
def sentWorld (config : Config) (w₀ : World) : World :=
  (errand (w₀.instances + 1)).sent (Runner.opened config prepared w₀) w₀.server.workers.length
    (Runner.launched config prepared ((errand (w₀.instances + 1)).worker config.taskQueue) w₀)

theorem tally_sent (config : Config) (w₀ : World) : w₀.Tally (sentWorld config w₀) 1 1 0 0 :=
  (tally_launched ..).sent ..

include hvalid hclear

/-- The launch, in which all calls are made. -/
theorem goes_launched (hmakes : w₀.sdk.Makes Runner.launchCalls) :
    Goes (Orderly w₀ config.taskQueue) (Runner.launch config prepared) w₀
      (.ok (Runner.opened config prepared w₀))
      (Runner.launched config prepared ((errand (w₀.instances + 1)).worker config.taskQueue) w₀) := by
  refine Errand.goes_launch hvalid hclear (serves_feature _) hmakes (fun v hv => ?_) ?_
  · have hcalls : v.server.calls = w₀.server.calls := by rw [hv.server]
    have hstarts : v.server.starts = w₀.server.starts := by rw [hv.server]
    exact orderly_of_unstarted ((tally_self w₀).of_same hcalls) hstarts
  · exact orderly_of_unstarted (tally_launched ..) rfl

/-- The feature is ready once it has been launched. -/
theorem ready_launched : (errand (w₀.instances + 1)).Ready (Runner.opened config prepared w₀)
    w₀.factories.length w₀.server.workers.length
    (Runner.launched config prepared ((errand (w₀.instances + 1)).worker config.taskQueue) w₀) :=
  Errand.ready_launched hvalid hclear (serves_feature _) rfl

/-- The first worker is stopped while the activity is under way. -/
theorem paused_of_held {v : World} (target : String) (hv : (errand (w₀.instances + 1)).Held
      (Errand.nextRun config.taskQueue w₀).workflowId w₀.server.workers.length
      ((errand (w₀.instances + 1)).record config.taskQueue w₀) (sentWorld config w₀) v)
    (hfactory : v.factory? w₀.factories.length =
      some ⟨target, [w₀.server.workers.length], true⟩) :
    Paused config w₀ (v.stopped w₀.factories.length target w₀.server.workers.length) := by
  have hready := ready_launched hvalid hclear
  have hbackground := hv.outbound.background
  obtain ⟨host, hhost, hsame⟩ := hbackground.worker? hready.worker
  have hqueue : host.taskQueue = config.taskQueue := congrArg Worker.taskQueue hsame
  have htally : w₀.Tally v 1 1 0 0 := by
    refine (tally_sent config w₀).of_same ?_
    rw [hbackground.server]
  refine ⟨⟨hv.holds.of_same rfl rfl rfl rfl rfl,
    htally.append [⟨_, .shutdownWorkerFactory, none⟩] rfl, ?_, ⟨?_, ?_⟩⟩, ?_, ?_, ?_, ?_, ?_⟩
  -- the worker polled its own queue, so nothing does when it is detached
  · rw [← hqueue]
    refine pollers_detach hhost fun other hother => ?_
    rw [hqueue, hbackground.server] at hother
    exact Option.some.inj (hother.symm.trans hready.polls)
  · exact ⟨_, _, _, _, rfl, factory?_stopped hfactory⟩
  · show v.server.failingShutdown = []
    rw [hbackground.server]
    exact hclear.failingShutdown
  · show v.server.starts = _
    rw [hbackground.server]
    rfl
  · show v.server.isOpen _ = true
    rw [hbackground.server]
    exact hready.isOpen
  · show v.server.waiting config.taskQueue = []
    rw [hbackground.server]
    exact (Server.waiting_of_erase rfl _).trans (if_pos rfl)
  · show v.sdk = _
    rw [hbackground.world]
    rfl
  · show v.files = _
    rw [hbackground.world]
    rfl

/-- Whatever the schedule, the workflow is started, its activity gets under way, and the first worker is
stopped; then nothing polls for a while. -/
theorem surely_paused {Q : Except Error (Option Run) × Runner → World → Prop}
    (hnext : ∀ v, Paused config w₀ v → Surely (Orderly w₀ config.taskQueue) Q (Runner.exec (do
      Script.perform .restartWorker
      Script.perform (.openLatch (restarted (w₀.instances + 1)))
      return some (nextRun config w₀))
        (Runner.opened config prepared w₀), v)) :
    Surely (Orderly w₀ config.taskQueue) Q
      (Runner.exec (script (w₀.instances + 1)) (Runner.opened config prepared w₀),
        Runner.launched config prepared ((errand (w₀.instances + 1)).worker config.taskQueue) w₀) := by
  let x := errand (w₀.instances + 1)
  have hready := ready_launched hvalid hclear
  have houtbound : ∀ v, x.Outbound (Errand.nextRun config.taskQueue w₀).workflowId
      w₀.server.workers.length (x.record config.taskQueue w₀) (sentWorld config w₀) v →
        Orderly w₀ config.taskQueue v := by
    intro v hv
    have htally : w₀.Tally v 1 1 0 0 := by
      refine (tally_sent config w₀).of_same ?_
      rw [hv.background.server]
    obtain hr | hr := hv.record
    · exact orderly_of_open htally hr rfl fun hstops => absurd rfl hstops
    · exact orderly_of_open htally hr rfl fun hstops => absurd rfl hstops
  have hne : x.started ≠ x.gate := by
    have hname : "activity started" ≠ "worker restarted" := by decide
    exact fun heq => hname (congrArg SignalId.name heq)
  refine hready.surely_held startLimit (hclear.closed _) (hclear.closed _) hne
    (orderly_of_unstarted (tally_launched ..) rfl) houtbound ?_ (fun v hv => ?_)
  · rw [startLimit, Duration.ticks_ofSeconds]
    omega
  -- the activity is under way: stop the worker, and wait
  obtain ⟨target, hfactory⟩ := hready.factory
  have hbackground := hv.outbound.background
  have hpaused := paused_of_held hvalid hclear target hv (by
    rw [hbackground.world]
    exact hfactory)
  have hstops := Runner.goes_shutdown (r := Runner.opened config prepared w₀) hv.holds.dormant
    (houtbound v hv.outbound) rfl (by rw [hbackground.world]; exact hfactory)
    hpaused.closable.failingShutdown hpaused.orderly
  have hsleeps := goes_sleep (d := pause) hpaused.holds.dormant fun now =>
    (hpaused.advanceTo now).orderly
  refine Runner.goes_perform_bind .shutdownWorker
    (hstops.bind (goes_pure hpaused.orderly)) ?_
  refine Runner.goes_perform_bind (.sleep pause)
    (hsleeps.bind (goes_pure (hpaused.advanceTo _).orderly)) ?_
  exact hnext _ (hpaused.advanceTo _)

end

/-! ## With a second worker -/

variable {config : Config}

/-- The second worker has been started, and the activity may end. -/
structure Resumed (config : Config) (w₀ : World) (r : Runner) (v : World) : Prop where
  frees : (errand (w₀.instances + 1)).Frees (Errand.nextRun config.taskQueue w₀).workflowId
    w₀.server.workers.length ((errand (w₀.instances + 1)).record config.taskQueue w₀) (.ok (.int 1)) v
  tally : w₀.Tally v 1 2 1 0
  starts : v.server.starts = w₀.server.starts + 1
  serving : r.Serving (errand (w₀.instances + 1)) v
  settings : r.config = config
  accepted : (errand (w₀.instances + 1)).Accepted r.config r.dir (.int 1) v

/-- The world in which a second worker has been started. -/
def restartedWorld (config : Config) (w₀ v : World) : World :=
  v.manned (v.server.targetOf (Runner.opened config prepared w₀).workerClient.connection)
    ((errand (w₀.instances + 1)).worker config.taskQueue)

/-- The runner of that worker. -/
def restartedRunner (config : Config) (w₀ v : World) : Runner :=
  { Runner.opened config prepared w₀ with
    manager := (Runner.opened config prepared w₀).manager.replaceWith v.factories.length
      v.server.workers.length }

/-- With a second worker the activity may end. -/
theorem Paused.resumed {v : World} (h : Paused config w₀ v)
    (haccepted : (errand (w₀.instances + 1)).Accepted config dir (.int 1) w₀) :
    (restartedWorld config w₀ v).Dormant ∧ Orderly w₀ config.taskQueue (restartedWorld config w₀ v) ∧
      Resumed config w₀ (restartedRunner config w₀ v)
        ((restartedWorld config w₀ v).openLatch (restarted (w₀.instances + 1))) := by
  let x := errand (w₀.instances + 1)
  let w₁ := restartedWorld config w₀ v
  have htally : w₀.Tally w₁ 1 2 1 0 := h.tally.append [⟨_, .pollTaskQueue, none⟩] rfl
  have hholds : x.Holds _ _ _ w₁ := h.holds.of_same rfl rfl rfl rfl rfl
  have hserving : (restartedRunner config w₀ v).Serving x w₁ :=
    { current := ⟨_, _, _, _, rfl, List.getElem?_concat_length⟩
      failingShutdown := h.closable.failingShutdown
      isOpen := h.isOpen
      worker := ⟨_, _, rfl, List.getElem?_concat_length, rfl⟩ }
  have hopens : w₁.openLatch (restarted (w₀.instances + 1)) = { w₁ with
      signals := w₁.signals.openLatch x.gate, server := w₁.server.letThrough x.gate } :=
    hholds.openLatch_eq
  refine ⟨hholds.dormant, orderly_of_restarted htally (Nat.le_refl 2), hholds.frees (.done _), ?_, ?_,
    hserving.openLatch _, rfl, ?_⟩
  · refine htally.of_same ?_
    show (w₁.openLatch _).server.calls = _
    rw [hopens]
    rfl
  · show (w₁.openLatch _).server.starts = _
    rw [hopens]
    exact h.starts
  · show (errand (w₀.instances + 1)).Accepted config dir (.int 1) (w₁.openLatch _)
    rw [hopens]
    apply haccepted.of_same
    · show (v.sdk.entered _).name = _
      rw [Sdk.name_entered, h.sdk, Sdk.name_entered]
    · show (v.sdk.entered _).version = _
      rw [Sdk.version_entered, h.sdk, Sdk.version_entered]
    · exact h.files

theorem Resumed.orderly {r : Runner} {v : World} (h : Resumed config w₀ r v) :
    Orderly w₀ config.taskQueue v :=
  orderly_of_restarted h.tally (Nat.le_refl 2)

/-- The second worker is started, and the activity is let through. -/
theorem Paused.surely_resumed {v : World} (h : Paused config w₀ v)
    (haccepted : (errand (w₀.instances + 1)).Accepted config dir (.int 1) w₀)
    (hmakes : (w₀.sdk.entered Runner.launchCalls).Makes [.newWorkerFactory, .newWorker, .start]) :
    Surely (Orderly w₀ config.taskQueue)
      (fun y v => ∃ r, y = (.ok (some (nextRun config w₀)), r) ∧
        Resumed config w₀ r v)
      (Runner.exec (do
        Script.perform .restartWorker
        Script.perform (.openLatch (restarted (w₀.instances + 1)))
        return some (nextRun config w₀))
          (Runner.opened config prepared w₀), v) := by
  let r := Runner.opened config prepared w₀
  rw [← h.sdk] at hmakes
  obtain ⟨hdormant, horderly, hresumed⟩ := h.resumed haccepted
  have hbuilt := goes_build h.holds.dormant (fun _ hv => (h.prepares hv).orderly) hmakes
    ((serves_feature (w₀.instances + 1)).prepare config.taskQueue) h.waiting r.workerClient horderly
  refine Runner.goes_perform_bind .restartWorker (Runner.goes_restartWorker horderly hbuilt) ?_
  refine Runner.goes_perform_bind (.openLatch (restarted (w₀.instances + 1)))
    (Runner.goes_openLatch hdormant horderly hresumed.orderly _) ?_
  exact .done hresumed.orderly ⟨_, rfl, hresumed⟩

/-- An error of the second worker ends the script. -/
theorem Paused.goes_halted {v : World} {e : Error} (h : Paused config w₀ v)
    (hstrikes :
      (w₀.sdk.entered Runner.launchCalls).Strikes e [.newWorkerFactory, .newWorker, .start]) :
    ∃ v', Halted config w₀ v' ∧
      Goes (Orderly w₀ config.taskQueue)
        (Runner.exec (do
          Script.perform .restartWorker
          Script.perform (.openLatch (restarted (w₀.instances + 1)))
          return some (nextRun config w₀)) (Runner.opened config prepared w₀)) v
        (.error e, Runner.opened config prepared w₀) v' := by
  rw [← h.sdk] at hstrikes
  obtain ⟨v', hprepares, hbuilt⟩ := goes_build_of_strikes h.holds.dormant
    (fun _ hv => (h.prepares hv).orderly) hstrikes
    ((serves_feature (w₀.instances + 1)).prepare config.taskQueue)
    (Runner.opened config prepared w₀).workerClient
  have hhalted := h.prepares hprepares
  refine ⟨v', hhalted, Runner.goes_perform_error .restartWorker ?_ hhalted.orderly⟩
  exact Runner.goes_restartWorker_of_error hhalted.orderly hbuilt

/-- The run has been checked, and can be closed. -/
structure Finished (config : Config) (w₀ : World) (r : Runner) (v : World) : Prop where
  dormant : v.Dormant
  tally : w₀.Tally v 1 2 1 0
  starts : v.server.starts = w₀.server.starts + 1
  completion : v.server.completions.get? (Errand.nextRun config.taskQueue w₀).runId =
    some (.ok (.int 1))
  closable : r.Closable v

/-- The result of the workflow is accepted, and so are the histories. -/
theorem Resumed.surely_finished {r : Runner} {v : World} (h : Resumed config w₀ r v) :
    Surely (Orderly w₀ config.taskQueue) (fun y v => y = (.ok (), r) ∧ Finished config w₀ r v)
      (Runner.exec (do
        Script.checkResult (some (.int 1)) (nextRun config w₀)
        Script.checkHistories (nextRun config w₀)) r, v) := by
  have hsettings := h.settings
  subst hsettings
  have horderly : ∀ {u}, w₀.Tally u 1 2 1 0 → Orderly w₀ r.config.taskQueue u := fun htally =>
    orderly_of_restarted htally (Nat.le_refl 2)
  have hbackground : ∀ {u}, v.Background u → w₀.Tally u 1 2 1 0 := fun hu => h.tally.of_same (by
    rw [hu.server])
  have hchecked := h.frees.surely_checkResult h.serving (fun u hu => horderly (hbackground hu)) rfl rfl
  refine Runner.surely_exec_bind hchecked fun y u hy => ⟨(), r, hy.1, ?_⟩
  obtain ⟨-, hu, hsettled⟩ := hy
  have htally := hbackground hu
  have haccepted : (errand (w₀.instances + 1)).Accepted r.config r.dir (.int 1) u := by
    apply h.accepted.of_same <;> rw [hu.world]
  obtain ⟨v', hconsults, hchecks⟩ := hsettled.goes_checkHistories haccepted fun u' hu' =>
    horderly (htally.consults hu')
  refine hchecks.mono fun z u' hu' => ?_
  obtain ⟨rfl, rfl⟩ := hu'
  have hsettled' := hsettled.consults hconsults
  refine ⟨rfl, hsettled'.dormant, htally.consults hconsults, ?_, hsettled'.completion,
    hsettled'.serving.toClosable⟩
  rw [hconsults.server]
  show u.server.starts = _
  rw [hu.server]
  exact h.starts

/-! ## The whole run -/

/-- Releasing everything leaves a run that has passed as it is. -/
theorem Finished.closes {r : Runner} {v v' : World} (h : Finished config w₀ r v) (hcloses : v.Closes v') :
    Orderly w₀ config.taskQueue v' ∧ Ends w₀ config.taskQueue none .passed v' := by
  obtain ⟨stops, htally⟩ := h.tally.closes hcloses
  refine ⟨orderly_of_restarted htally (Nat.le_refl 2), rfl, htally.polls, htally.starts, ?_, ?_⟩
  · rw [hcloses.server]
    exact h.starts
  · rw [hcloses.server]
    exact h.completion

/-- Releasing everything leaves a run that has failed as it is: the factory that is current is stopped for
the second time. -/
theorem Halted.closes {v v' : World} (h : Halted config w₀ v) (hcloses : v.Closes v')
    (point : SdkPoint) {e : Error} (hskip : e.isSkip = false) : Orderly w₀ config.taskQueue v' ∧
      Ends w₀ config.taskQueue (some (point, e)) (Outcome.ofResult (.error e)) v' := by
  obtain ⟨stops, htally⟩ := h.tally.closes hcloses
  have hsilent := hcloses.pollers config.taskQueue h.silent
  have hholds := h.holds.closes hcloses
  refine ⟨orderly_of_open htally hholds.record rfl fun _ => hsilent, ?_, ⟨_, hholds.record, rfl, rfl⟩,
    hholds.unpublished, hsilent, hholds.dormant⟩
  show (if e.isSkip = true then _ else _) = _
  rw [hskip]
  rfl

section

variable (hvalid : config.validate = .ok ()) (hclear : w₀.Clear config.taskQueue)
include hvalid hclear

/-- If the second worker can be started, the run passes. -/
theorem surely_passes
    (hmakes : w₀.sdk.Makes (Runner.launchCalls ++ [.newWorkerFactory, .newWorker, .start]))
    (haccepted : (errand (w₀.instances + 1)).Accepted config dir (.int 1) w₀) :
    Surely (Orderly w₀ config.taskQueue) (Ends w₀ config.taskQueue none)
      (runFeature config prepared, w₀) := by
  obtain ⟨hlaunch, hsecond⟩ := Sdk.makes_append.mp hmakes
  refine surely_runFeature (R := fun x v => ∃ r, x = (.ok (), r) ∧ Finished config w₀ r v)
    (goes_launched hvalid hclear hlaunch) ?_ ?_
  · have hresumes := surely_paused hvalid hclear fun v hv => hv.surely_resumed haccepted hsecond
    refine Runner.surely_exec_bind hresumes ?_
    rintro x v ⟨r, rfl, hresumed⟩
    refine ⟨_, r, rfl, (hresumed.surely_finished).mono fun y u hu => ?_⟩
    exact ⟨r, hu⟩
  · rintro result r' v ⟨r, heq, hfinished⟩
    cases heq
    obtain ⟨v', hcloses, hgoes⟩ := hfinished.closable.goes_close hfinished.dormant fun u hu =>
      (hfinished.closes hu).1
    exact ⟨v', hgoes, hfinished.closes hcloses⟩

/-- If the second worker cannot be started, the run fails. -/
theorem surely_fails (hmakes : w₀.sdk.Makes Runner.launchCalls) {e : Error}
    (hstrikes :
      (w₀.sdk.entered Runner.launchCalls).Strikes e [.newWorkerFactory, .newWorker, .start])
    (point : SdkPoint) (hskip : e.isSkip = false) :
    Surely (Orderly w₀ config.taskQueue) (Ends w₀ config.taskQueue (some (point, e)))
      (runFeature config prepared, w₀) := by
  refine surely_runFeature (R := fun x v => x = (.error e, Runner.opened config prepared w₀) ∧
    Halted config w₀ v) (goes_launched hvalid hclear hmakes) ?_ ?_
  · refine Runner.surely_exec_error (surely_paused hvalid hclear fun v hv => ?_) fun _ h => h.orderly
    obtain ⟨v', hhalted, hgoes⟩ := hv.goes_halted hstrikes
    exact hgoes.mono fun x u hu => ⟨hu.1, hu.2 ▸ hhalted⟩
  · rintro result r v ⟨heq, hhalted⟩
    cases heq
    obtain ⟨v', hcloses, hgoes⟩ := hhalted.closable.goes_close hhalted.holds.dormant fun u hu =>
      (hhalted.closes hu point hskip).1
    exact ⟨v', hgoes, hhalted.closes hcloses point hskip⟩

end

/-- Each of the calls that make a worker is made once at the launch, and once at the restart. -/
theorem count_workerCalls : ∀ point ∈ [SdkPoint.newWorkerFactory, .newWorker, .start],
    Runner.launchCalls.count point = 1 ∧
      [SdkPoint.newWorkerFactory, .newWorker, .start].count point = 1 := by
  decide

/-- Whatever the schedule, the activity of a run outlives its worker. While the run goes on, the end of the
activity is on record only after a second worker has been started, and nothing polls the queue between the
end of the first worker and the start of the second one. Without a fault, and with stored histories that
replay, the run passes with two starts of a worker, one of a workflow, and the result 1. With a fault in the
place of one of the three calls that make the second worker, the run has failed with its error; the activity
stays open, the execution never ends, and nothing polls the queue any more. -/
theorem activity_survives_restart (hvalid : config.validate = .ok ())
    (hclear : w₀.Clear config.taskQueue) {fault : Option (SdkPoint × Error)}
    (hpoint : ∀ point e, fault = some (point, e) →
      point ∈ [SdkPoint.newWorkerFactory, .newWorker, .start] ∧ e.isSkip = false)
    (hfaults : w₀.sdk.faults =
      fault.toList.map fun f => ⟨f.1, w₀.sdk.count f.1 + 2, some f.2⟩)
    (haccepted : fault = none → (errand (w₀.instances + 1)).Accepted config dir (.int 1) w₀) :
    Surely (Orderly w₀ config.taskQueue) (Ends w₀ config.taskQueue fault)
      (runFeature config prepared, w₀) := by
  cases fault with
  | none => exact surely_passes hvalid hclear (Sdk.makes_of_no_faults hfaults _) (haccepted rfl)
  | some f =>
    obtain ⟨point, e⟩ := f
    obtain ⟨hmem, hskip⟩ := hpoint point e rfl
    obtain ⟨hlaunch, hsecond⟩ := count_workerCalls point hmem
    -- the second call at the point of the fault comes after the launch and before the restart is over
    refine surely_fails hvalid hclear (Sdk.makes_of_single hfaults ?_)
      (Sdk.strikes_of_single (Sdk.faults_entered .. |>.trans hfaults) ?_ ?_) point hskip
    · rw [hlaunch]
      omega
    · rw [Sdk.count_entered, hlaunch]
      omega
    · rw [Sdk.count_entered, hlaunch, hsecond]

/-- A world in which nothing has happened, without fixtures. The second start of a factory fails, or no call
does. -/
theorem activity_survives_failing_start :
    let config : Config := { server := "host", ns := "default", taskQueue := "queue" }
    let failing : World :=
      { sdk := { faults := [⟨.start, 2, some (.connection "host" "unreachable")⟩] } }
    (Surely (Orderly {} config.taskQueue) (Ends {} config.taskQueue none)
        (runFeature config prepared, {})) ∧
      Surely (Orderly failing config.taskQueue)
        (Ends failing config.taskQueue (some (.start, .connection "host" "unreachable")))
        (runFeature config prepared, failing) := by
  intro config failing
  have hvalid : config.validate = .ok () := by decide
  constructor
  · refine activity_survives_restart hvalid (clear_of_fresh rfl rfl rfl _)
      (fun _ _ h => absurd h.symm (Option.some_ne_none _)) rfl fun _ => ?_
    apply FixtureStore.accepts_of_missing
    unfold FixtureStore.forFeature
    rw [Path.segments_eq]
    decide +kernel
  · refine activity_survives_restart hvalid (clear_of_fresh rfl rfl rfl _) ?_ rfl
      fun h => absurd h (Option.some_ne_none _)
    rintro point e heq
    cases heq
    exact ⟨by decide, rfl⟩

end Features.WorkerRestart

end Conformance
