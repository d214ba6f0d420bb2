import Conformance.Proofs.Alone.Scripts
import Conformance.Proofs.Alone.Waiting
import Conformance.Proofs.Schedules.Rules

/-!
# Errands

An errand is a workflow with one activity. The activity tells that it is under way, and waits then until
it is let through. Whatever the schedule, its task gets to where it waits and no further; once it has been
let through, the workflow ends with what the activity ends with.

## Main definitions

- `Errand` — a workflow with such an activity
- `World.Carries` — the one task of a world, and the record of its run
- `Errand.Outbound` — how far an errand has got that has not been let through
- `Errand.Homebound` — how far it has got after that

## Main statements

- `Errand.surely_started` — whoever waits for the activity finds it waiting
- `Errand.surely_settled` — whoever waits for the end, after that, finds that the workflow has ended
-/

namespace Conformance

theorem Signals.count_openLatch (s : Signals) (latch counter : SignalId) :
    (s.openLatch latch).count counter = s.count counter := by
  unfold openLatch
  split <;> rfl

/-- A workflow that calls one activity and ends as the activity does. The activity opens a latch when it
is under way, and waits for another one; the tail is what it does after that. -/
structure Errand where
  method : WorkflowMethod
  activityType : String
  started : SignalId
  gate : SignalId
  tail : ActivityCode

/-- An activity ends without waiting, and without a change to latches and counters. -/
inductive ActivityCode.Ends (s : Signals) : ActivityCode → Ending → Prop
  | done (e : Ending) : Ends s (.done e) e
  | readCounter {counter : SignalId} {next : Nat → ActivityCode} {e : Ending}
      (h : Ends s (next (s.count counter)) e) : Ends s (.readCounter counter next) e
  | awaitLatch {latch : SignalId} {next : ActivityCode} {e : Ending} (hopen : s.isOpen latch = true)
      (h : Ends s next e) : Ends s (.awaitLatch latch next) e

namespace Errand

variable (x : Errand)

/-- The code of the workflow. -/
def code : Code := .callActivity x.activityType [] .done

/-- The activity where it waits. -/
def waiting : ActivityCode := .awaitLatch x.gate x.tail

/-- The workflow. -/
def workflow : Workflow := ⟨x.method, fun _ _ => x.code⟩

/-- The activity. -/
def activities : Activities := ⟨[x.activityType], fun _ _ _ => .openLatch x.started x.waiting⟩

/-- The worker, as it is before any invocation. -/
def worker (queue : String) : Worker where
  taskQueue := queue
  workflows := [x.workflow]
  activities := some x.activities

theorem workflow?_worker {queue : String} {host : Worker}
    (h : host.uncounted = (x.worker queue).uncounted) :
    host.workflow? x.method.name = some x.workflow := by
  have hworkflows : host.workflows = [x.workflow] := congrArg Worker.workflows h
  unfold Worker.workflow?
  rw [hworkflows]
  exact List.find?_cons_of_pos (decide_eq_true rfl)

theorem activitiesFor_worker {queue : String} {host : Worker}
    (h : host.uncounted = (x.worker queue).uncounted) :
    Server.activitiesFor host x.activityType = some x.activities := by
  have hactivities : host.activities = some x.activities := congrArg Worker.activities h
  unfold Server.activitiesFor
  rw [hactivities]
  simp [activities]

end Errand

namespace World

/-! ## The only task of a world -/

/-- One task in a phase is all there is in a world, and the run has a record. Compared with the world `w₀`,
only the background has been at work, and nothing has been completed. -/
structure Carries (w₀ : World) (id : String) (worker : WorkerId) (p : TaskPhase) (r : ExecutionRecord)
    (w : World) : Prop where
  background : w₀.Background w
  clock : w.clock = w₀.clock
  tasks : w.server.tasks = [⟨id, worker, p, none⟩]
  record : w.server.executions.get? id = some r
  completions : w.server.completions = w₀.server.completions

variable {w₀ w w' : World} {id : String} {worker : WorkerId} {p p' : TaskPhase}
  {r r' : ExecutionRecord}

theorem background_of_stirs (hdelayed : w.delayed = []) (h : w.Stirs w') : w.Background w' := by
  cases h with
  | @task i server signals hstep =>
    have hsetting := Server.step?_setting hstep
    exact ⟨rfl, congrArg (fun s : Server => { s with tasks := server.tasks }) hsetting.eq,
      hsetting.workers⟩
  | command hget _ =>
    rw [hdelayed] at hget
    cases hget

/-- What happens in the background of such a world is a step of its task. -/
theorem Carries.stirs_iff (h : w₀.Carries id worker p r w) (hdelayed : w₀.delayed = []) :
    w.Stirs w' ↔ ∃ x, w.server.stepTask w.clock w.signals ⟨id, worker, p, none⟩ = some x ∧
      w' = { w with server := { x.server with tasks := x.task.toList }, signals := x.signals } := by
  have hstep := Server.step?_single h.tasks w.clock w.signals
  constructor
  · rintro (⟨hi⟩ | ⟨hget, -⟩)
    -- there is only one task, so it is the one that has moved
    · rename_i i server signals
      have hzero : i = 0 := by
        unfold Server.step? at hi
        split at hi
        · cases hi
        · rename_i t ht
          have hlt := (List.getElem?_eq_some_iff.mp ht).1
          rw [h.tasks, List.length_singleton] at hlt
          omega
      subst hzero
      rw [hstep, Option.map_eq_some_iff] at hi
      obtain ⟨x, hx, heq⟩ := hi
      cases heq
      exact ⟨x, hx, rfl⟩
    · rw [h.background.delayed, hdelayed] at hget
      cases hget
  · rintro ⟨x, hx, rfl⟩
    rw [hx] at hstep
    exact .task hstep

/-- The task goes on into another phase. -/
theorem Carries.goes_on (h : w₀.Carries id worker p r w) (hdelayed : w₀.delayed = [])
    {server : Server} {signals : Signals}
    (hstep : w.server.stepTask w.clock w.signals ⟨id, worker, p, none⟩ =
      some ⟨some ⟨id, worker, p', none⟩, server, signals⟩)
    (hr : server.executions.get? id = some r')
    (hcompletions : server.completions = w.server.completions) :
    w₀.Carries id worker p' r'
      { w with server := { server with tasks := [⟨id, worker, p', none⟩] }, signals } := by
  have hstirs := (h.stirs_iff hdelayed).mpr ⟨_, hstep, rfl⟩
  have hbackground := background_of_stirs (h.background.delayed.trans hdelayed) hstirs
  exact ⟨h.background.trans hbackground, h.clock, rfl, hr, hcompletions.trans h.completions⟩

end World

namespace Errand

open World

/-! ## Before the activity is let through -/

/-- A run of the errand is about to make its first step. -/
structure Begins (x : Errand) (queue : String) (id : String) (worker : WorkerId) (r : ExecutionRecord)
    (w : World) : Prop where
  identity : id = r.execution.workflowId
  carries : w.Carries id worker .fresh r w
  unpublished : w.server.completions.get? r.execution.runId = none
  workflowType : r.workflowType = x.method.name
  worker : w.server.worker? worker = some (x.worker queue)
  delayed : w.delayed = []
  startedClosed : w.signals.isOpen x.started = false
  gateClosed : w.signals.isOpen x.gate = false
  ne : x.started ≠ x.gate

/-- How far a run has got whose activity has not been let through. -/
inductive Outbound (x : Errand) (id : String) (worker : WorkerId) (r : ExecutionRecord) (w₀ w : World) :
    Prop
  | fresh (h : w₀.Carries id worker .fresh r w) (hsignals : w.signals = w₀.signals)
  | calling (h : w₀.Carries id worker (.running x.code) r w) (hsignals : w.signals = w₀.signals)
  | telling
      (h : w₀.Carries id worker (.inActivity r.nextId (.openLatch x.started x.waiting) .done)
        (r.schedule x.activityType []) w)
      (hsignals : w.signals = w₀.signals)
  | held
      (h : w₀.Carries id worker (.inActivity r.nextId x.waiting .done) (r.schedule x.activityType []) w)
      (hsignals : w.signals = w₀.signals.openLatch x.started)

section

variable {x : Errand} {queue id : String} {worker : WorkerId} {r : ExecutionRecord} {w₀ w w' : World}

theorem Outbound.background (h : x.Outbound id worker r w₀ w) : w₀.Background w := by
  cases h with
  | fresh h _ | calling h _ | telling h _ | held h _ => exact h.background

theorem Outbound.clock (h : x.Outbound id worker r w₀ w) : w.clock = w₀.clock := by
  cases h with
  | fresh h _ | calling h _ | telling h _ | held h _ => exact h.clock

/-- The record of the run, and what has been recorded: nothing, or that the activity has been
scheduled. -/
theorem Outbound.record (h : x.Outbound id worker r w₀ w) :
    w.server.executions.get? id = some r ∨
      w.server.executions.get? id = some (r.schedule x.activityType []) := by
  cases h with
  | fresh h _ | calling h _ => exact .inl h.record
  | telling h _ | held h _ => exact .inr h.record

theorem Begins.host (h₀ : x.Begins queue id worker r w₀) (h : w₀.Background w) :
    ∃ host, w.server.worker? worker = some host ∧ host.uncounted = (x.worker queue).uncounted :=
  h.worker? h₀.worker

theorem Begins.stepTask_fresh (h₀ : x.Begins queue id worker r w₀)
    (h : w₀.Carries id worker .fresh r w) :
    w.server.stepTask w.clock w.signals ⟨id, worker, .fresh, none⟩ =
      some ⟨some ⟨id, worker, .running x.code, none⟩, w.server, w.signals⟩ := by
  obtain ⟨host, hhost, hsame⟩ := h₀.host h.background
  show some (w.server.begin w.signals _) = _
  unfold Server.begin
  rw [h.record]
  dsimp only
  rw [hhost, Option.bind_some, h₀.workflowType, x.workflow?_worker hsame]
  rfl

/-- A call leads into the activity, and is recorded. -/
theorem Begins.stepTask_calling (h₀ : x.Begins queue id worker r w₀)
    (h : w₀.Carries id worker (.running x.code) r w) : ∃ server,
    w.server.stepTask w.clock w.signals ⟨id, worker, .running x.code, none⟩ =
        some ⟨some ⟨id, worker, .inActivity r.nextId (.openLatch x.started x.waiting) .done, none⟩,
          server, w.signals⟩ ∧
      server.executions.get? id = some (r.schedule x.activityType []) ∧
      server.completions = w.server.completions := by
  obtain ⟨host, hhost, hsame⟩ := h₀.host h.background
  have hscheduled : ∀ f, (w.server.modifyExecution id f).worker? worker = some host := fun _ => hhost
  refine ⟨(w.server.modifyExecution id fun r => r.schedule x.activityType []).modifyWorker worker
    fun host' => { host' with invocations := host.invocations + 1 }, ?_, ?_, rfl⟩
  · show some (w.server.callActivity w.signals _ x.activityType [] .done) = _
    unfold Server.callActivity
    rw [h.record]
    dsimp only
    rw [hscheduled, Option.bind_some, x.activitiesFor_worker hsame]
    rfl
  · show (w.server.executions.modify id _).get? id = _
    rw [Table.get?_modify, if_pos rfl, h.record]
    rfl

/-- The activity that is held has no step. -/
theorem stuck_waiting {signals : Signals} (hclosed : signals.isOpen x.gate = false) (k : Int) :
    (⟨id, worker, .inActivity k x.waiting .done, none⟩ : WorkflowTask).Stuck signals :=
  ⟨rfl, x.gate, decide_eq_true rfl, hclosed⟩

theorem Begins.gate_closed (h₀ : x.Begins queue id worker r w₀)
    (hsignals : w.signals = w₀.signals.openLatch x.started) : w.signals.isOpen x.gate = false := by
  have hne : (x.gate == x.started) = false := by simpa using h₀.ne.symm
  rw [hsignals, Signals.isOpen_openLatch, h₀.gateClosed, hne]
  rfl

/-- Every step in the background brings the run nearer to where it is held. -/
theorem Begins.steady_outbound (h₀ : x.Begins queue id worker r w₀) :
    Steady (x.Outbound id worker r w₀) := by
  intro w w' h hstirs
  cases h with
  | fresh h hsignals =>
    have hstep := h₀.stepTask_fresh h
    obtain ⟨step, hx, rfl⟩ := (h.stirs_iff h₀.delayed).mp hstirs
    cases hstep.symm.trans hx
    exact .calling (h.goes_on h₀.delayed hstep h.record rfl) hsignals
  | calling h hsignals =>
    obtain ⟨server, hstep, hr, hcompletions⟩ := h₀.stepTask_calling h
    obtain ⟨step, hx, rfl⟩ := (h.stirs_iff h₀.delayed).mp hstirs
    cases hstep.symm.trans hx
    exact .telling (h.goes_on h₀.delayed hstep hr hcompletions) hsignals
  | telling h hsignals =>
    obtain ⟨step, hx, rfl⟩ := (h.stirs_iff h₀.delayed).mp hstirs
    cases hx
    exact .held (h.goes_on h₀.delayed rfl h.record rfl) (congrArg (·.openLatch x.started) hsignals)
  -- here the task waits at the gate, which is closed
  | held h hsignals =>
    obtain ⟨step, hx, -⟩ := (h.stirs_iff h₀.delayed).mp hstirs
    rw [(stuck_waiting (h₀.gate_closed hsignals) r.nextId).stepTask] at hx
    cases hx

/-- As long as the activity has not told that it is under way, there is a step. -/
theorem Begins.exists_stirs (h₀ : x.Begins queue id worker r w₀) (h : x.Outbound id worker r w₀ w)
    (hclosed : w.signals.isOpen x.started = false) : ∃ w', w.Stirs w' := by
  cases h with
  | fresh h _ => exact ⟨_, (h.stirs_iff h₀.delayed).mpr ⟨_, h₀.stepTask_fresh h, rfl⟩⟩
  | calling h _ =>
    obtain ⟨server, hstep, -⟩ := h₀.stepTask_calling h
    exact ⟨_, (h.stirs_iff h₀.delayed).mpr ⟨_, hstep, rfl⟩⟩
  | telling h _ => exact ⟨_, (h.stirs_iff h₀.delayed).mpr ⟨_, rfl, rfl⟩⟩
  | held h hsignals =>
    rw [hsignals, Signals.isOpen_openLatch] at hclosed
    simp at hclosed

/-- The activity is under way, and waits. -/
structure Holds (x : Errand) (id : String) (worker : WorkerId) (r : ExecutionRecord) (w : World) :
    Prop where
  identity : id = r.execution.workflowId
  tasks : w.server.tasks = [⟨id, worker, .inActivity r.nextId x.waiting .done, none⟩]
  record : w.server.executions.get? id = some (r.schedule x.activityType [])
  unpublished : w.server.completions.get? r.execution.runId = none
  gateClosed : w.signals.isOpen x.gate = false
  delayed : w.delayed = []

/-- Nothing but the background has been at work until the activity was under way. -/
structure Held (x : Errand) (id : String) (worker : WorkerId) (r : ExecutionRecord) (w₀ w : World) :
    Prop where
  outbound : x.Outbound id worker r w₀ w
  signals : w.signals = w₀.signals.openLatch x.started
  holds : x.Holds id worker r w

theorem Begins.held_of_started (h₀ : x.Begins queue id worker r w₀) (h : x.Outbound id worker r w₀ w)
    (hopen : w.signals.isOpen x.started = true) : x.Held id worker r w₀ w := by
  cases h with
  | fresh _ hsignals | calling _ hsignals | telling _ hsignals =>
    rw [hsignals, h₀.startedClosed] at hopen
    cases hopen
  | held h hsignals =>
    refine ⟨.held h hsignals, hsignals, h₀.identity, h.tasks, h.record, ?_, h₀.gate_closed hsignals,
      h.background.delayed.trans h₀.delayed⟩
    rw [h.completions]
    exact h₀.unpublished

/-- A world in which the activity waits is dormant. -/
theorem Holds.dormant (h : x.Holds id worker r w) : w.Dormant where
  stuck t ht := by
    rw [h.tasks, List.mem_singleton] at ht
    subst ht
    exact stuck_waiting h.gateClosed r.nextId
  delayed := h.delayed

/-- The activity waits as long as nobody touches its run or opens a latch. -/
theorem Holds.of_same (h : x.Holds id worker r w) (htasks : w'.server.tasks = w.server.tasks)
    (hexecutions : w'.server.executions = w.server.executions)
    (hcompletions : w'.server.completions = w.server.completions)
    (hopened : w'.signals.opened = w.signals.opened) (hdelayed : w'.delayed = w.delayed) :
    x.Holds id worker r w' where
  identity := h.identity
  tasks := htasks.trans h.tasks
  record := hexecutions ▸ h.record
  unpublished := hcompletions ▸ h.unpublished
  gateClosed := by
    have hclosed := h.gateClosed
    unfold Signals.isOpen at hclosed ⊢
    rw [hopened]
    exact hclosed
  delayed := hdelayed.trans h.delayed

/-- Whoever waits for the activity finds it waiting. -/
theorem Begins.surely_started (h₀ : x.Begins queue id worker r w₀) {Inv : World → Prop}
    (hinv : ∀ w, x.Outbound id worker r w₀ w → Inv w) {limit : Duration} (hlimit : 0 < limit.ticks) :
    Program.Surely Inv (fun met w => met = true ∧ x.Held id worker r w₀ w)
      (Program.waitFor (fun w => w.signals.isOpen x.started) limit, w₀) :=
  Program.surely_waitFor h₀.steady_outbound hinv (fun _ h => h.clock) hlimit
    (fun _ h => h₀.exists_stirs h) (fun _ h hopen => ⟨rfl, h₀.held_of_started h hopen⟩)
    (.fresh h₀.carries rfl)

end

/-! ## After the activity has been let through -/

/-- A run of the errand is under way whose activity ends without waiting. -/
structure Frees (x : Errand) (id : String) (worker : WorkerId) (r : ExecutionRecord) (e : Ending)
    (w : World) : Prop where
  identity : id = r.execution.workflowId
  carries : w.Carries id worker (.inActivity r.nextId x.waiting .done) (r.schedule x.activityType []) w
  ends : x.waiting.Ends w.signals e
  delayed : w.delayed = []
  unpublished : w.server.completions.get? r.execution.runId = none

/-- What it means to open the latch for which the activity waits. -/
theorem Holds.openLatch_eq {x : Errand} {id : String} {worker : WorkerId} {r : ExecutionRecord}
    {w : World} (h : x.Holds id worker r w) : w.openLatch x.gate = { w with
      signals := w.signals.openLatch x.gate, server := w.server.letThrough x.gate } := by
  unfold World.openLatch
  rw [h.gateClosed]
  rfl

/-- The activity is let through by whoever opens the latch for which it waits. -/
theorem Holds.frees {x : Errand} {id : String} {worker : WorkerId} {r : ExecutionRecord} {e : Ending}
    {w : World} (h : x.Holds id worker r w) (hends : x.tail.Ends (w.signals.openLatch x.gate) e) :
    x.Frees id worker r e (w.openLatch x.gate) := by
  have htasks : (w.server.letThrough x.gate).tasks = w.server.tasks := by
    show Server.arranged 0 (some x.gate) w.server.tasks none [] = w.server.tasks
    rw [h.tasks]
    simp [Server.arranged, WorkflowTask.waitsFor, waiting]
  have hopen : (w.signals.openLatch x.gate).isOpen x.gate = true := by
    simp [Signals.isOpen_openLatch]
  rw [h.openLatch_eq]
  exact ⟨h.identity, ⟨.refl _, rfl, htasks.trans h.tasks, h.record, rfl⟩, .awaitLatch hopen hends,
    h.delayed, h.unpublished⟩

/-- The record of a run whose activity has ended. -/
def answered (x : Errand) (r : ExecutionRecord) (e : Ending) : ExecutionRecord :=
  (r.schedule x.activityType []).close r.nextId e

theorem execution_answered (x : Errand) (r : ExecutionRecord) (e : Ending) :
    (x.answered r e).execution = r.execution :=
  (Server.sameRun_close ..).execution

theorem timeout_answered (x : Errand) (r : ExecutionRecord) (e : Ending) :
    (x.answered r e).timeout = r.timeout := by
  cases e <;> rfl

theorem timeout_finish (r : ExecutionRecord) (completion : Completion) :
    (r.finish completion).timeout = r.timeout := by
  cases completion <;> rfl

/-- The workflow has ended. -/
structure Ended (x : Errand) (id : String) (r : ExecutionRecord) (e : Ending) (w₀ w : World) : Prop where
  background : w₀.Background w
  clock : w.clock = w₀.clock
  tasks : w.server.tasks = []
  record : w.server.executions.get? id = some ((x.answered r e).finish (Completion.ofEnding e))
  completions :
    w.server.completions = w₀.server.completions.insert r.execution.runId (Completion.ofEnding e)

/-- How far a run has got whose activity has been let through. -/
inductive Homebound (x : Errand) (id : String) (worker : WorkerId) (r : ExecutionRecord) (e : Ending)
    (w₀ w : World) : Prop
  | inActivity {a : ActivityCode}
      (h : w₀.Carries id worker (.inActivity r.nextId a .done) (r.schedule x.activityType []) w)
      (hends : a.Ends w.signals e)
  | returning (h : w₀.Carries id worker (.running (.done e)) (x.answered r e) w)
  | ended (h : x.Ended id r e w₀ w)

section

variable {x : Errand} {id : String} {worker : WorkerId} {r : ExecutionRecord} {e : Ending}
  {w₀ w w' : World}

theorem Homebound.background (h : x.Homebound id worker r e w₀ w) : w₀.Background w := by
  cases h with
  | inActivity h _ | returning h | ended h => exact h.background

theorem Homebound.clock (h : x.Homebound id worker r e w₀ w) : w.clock = w₀.clock := by
  cases h with
  | inActivity h _ | returning h | ended h => exact h.clock

/-- The record of the run is that of the run that was started. -/
theorem Homebound.record (h : x.Homebound id worker r e w₀ w) :
    ∃ r', w.server.executions.get? id = some r' ∧ r'.execution = r.execution ∧
      r'.timeout = r.timeout := by
  cases h with
  | inActivity h _ => exact ⟨_, h.record, rfl, rfl⟩
  | returning h => exact ⟨_, h.record, execution_answered .., timeout_answered ..⟩
  | ended h =>
    refine ⟨_, h.record, ?_, ?_⟩
    · exact (Server.sameRun_finish ..).execution.trans (execution_answered ..)
    · exact (timeout_finish ..).trans (timeout_answered ..)

/-- An activity that ends without waiting has a step, which brings it nearer to its end. -/
theorem stepTask_inActivity {now : Nat} {server : Server} {signals : Signals} {k : Int}
    {a : ActivityCode} (hends : a.Ends signals e) :
    (a = .done e ∧ server.stepTask now signals ⟨id, worker, .inActivity k a .done, none⟩ =
        some ⟨some ⟨id, worker, .running (.done e), none⟩, server.closeActivity id k e, signals⟩) ∨
      ∃ a', a'.Ends signals e ∧
        server.stepTask now signals ⟨id, worker, .inActivity k a .done, none⟩ =
          some ⟨some ⟨id, worker, .inActivity k a' .done, none⟩, server, signals⟩ := by
  cases hends with
  | done _ => exact .inl ⟨rfl, rfl⟩
  | readCounter h => exact .inr ⟨_, h, rfl⟩
  | awaitLatch hopen h => exact .inr ⟨_, h, if_pos hopen⟩

/-- What ends the workflow. -/
theorem stepTask_returning (h : w₀.Carries id worker (.running (.done e)) (x.answered r e) w) :
    w.server.stepTask w.clock w.signals ⟨id, worker, .running (.done e), none⟩ =
      some ⟨none, { w.server with
        executions := w.server.executions.insert id ((x.answered r e).finish (Completion.ofEnding e))
        completions := w.server.completions.insert r.execution.runId (Completion.ofEnding e) },
        w.signals⟩ := by
  show some (Server.TaskStep.mk none (w.server.finish id (Completion.ofEnding e)) w.signals) = _
  unfold Server.finish
  rw [h.record]
  dsimp only
  rw [execution_answered]

/-- Every step in the background brings the run nearer to its end. -/
theorem Frees.steady_homebound (h₀ : x.Frees id worker r e w₀) :
    Steady (x.Homebound id worker r e w₀) := by
  intro w w' h hstirs
  cases h with
  | inActivity h hends =>
    obtain ⟨step, hx, rfl⟩ := (h.stirs_iff h₀.delayed).mp hstirs
    obtain ⟨rfl, hstep⟩ | ⟨a', hends', hstep⟩ := stepTask_inActivity hends
    · cases hstep.symm.trans hx
      refine .returning (h.goes_on h₀.delayed hstep ?_ rfl)
      show (w.server.executions.modify id _).get? id = _
      rw [Table.get?_modify, if_pos rfl, h.record]
      rfl
    · cases hstep.symm.trans hx
      exact .inActivity (h.goes_on h₀.delayed hstep h.record rfl) hends'
  | returning h =>
    obtain ⟨step, hx, rfl⟩ := (h.stirs_iff h₀.delayed).mp hstirs
    have hdelayed := h.background.delayed.trans h₀.delayed
    cases (stepTask_returning h).symm.trans hx
    refine .ended ⟨h.background.trans (background_of_stirs hdelayed hstirs), h.clock, rfl,
      Table.get?_insert_self .., ?_⟩
    rw [← h.completions]
  | ended h =>
    have hdelayed := h.background.delayed.trans h₀.delayed
    exact absurd hstirs ((dormant_of_no_tasks h.tasks hdelayed).rests w')

/-- As long as the run has not been settled, there is a step. -/
theorem Frees.exists_stirs (h₀ : x.Frees id worker r e w₀) (h : x.Homebound id worker r e w₀ w) :
    x.Ended id r e w₀ w ∨
      w.server.completions.get? r.execution.runId = none ∧ ∃ w', w.Stirs w' := by
  have hunpublished := h₀.unpublished
  cases h with
  | inActivity h hends =>
    rw [← h.completions] at hunpublished
    refine .inr ⟨hunpublished, ?_⟩
    obtain ⟨-, hstep⟩ | ⟨a', -, hstep⟩ := stepTask_inActivity hends
    · exact ⟨_, (h.stirs_iff h₀.delayed).mpr ⟨_, hstep, rfl⟩⟩
    · exact ⟨_, (h.stirs_iff h₀.delayed).mpr ⟨_, hstep, rfl⟩⟩
  | returning h =>
    rw [← h.completions] at hunpublished
    exact .inr ⟨hunpublished, _, (h.stirs_iff h₀.delayed).mpr ⟨_, stepTask_returning h, rfl⟩⟩
  | ended h => exact .inl h

/-- What is answered to whoever waits for a run that has ended so. -/
def answer : Ending → Except Error Json
  | .ok v => .ok v
  | .error failure => .error (.workflow failure.text)

theorem Ended.completion (h : x.Ended id r e w₀ w) :
    w.server.completions.get? r.execution.runId = some (Completion.ofEnding e) := by
  rw [h.completions]
  exact Table.get?_insert_self ..

theorem Ended.answer_eq (h : x.Ended id r e w₀ w) {sub : Server.Subscription}
    (hsub : sub.found = r.execution) : w.server.answer sub = answer e := by
  unfold Server.answer
  rw [hsub, h.completion]
  cases e <;> rfl

/-- Waiting for the run to be settled lasts until it has ended. -/
theorem Frees.surely_ended (h₀ : x.Frees id worker r e w₀) {Inv : World → Prop}
    (hinv : ∀ w, x.Homebound id worker r e w₀ w → Inv w) {sub : Server.Subscription}
    (hlimit : 0 < sub.timeout.ticks) (hsettled : ∀ w, x.Homebound id worker r e w₀ w →
      w.server.isSettled sub = w.server.completions.contains r.execution.runId)
    (h : x.Homebound id worker r e w₀ w) :
    Program.Surely Inv (fun _ w => x.Ended id r e w₀ w)
      (Program.waitFor (fun w => w.server.isSettled sub) sub.timeout, w) := by
  refine Program.surely_waitFor h₀.steady_homebound hinv (fun _ hw => hw.clock) hlimit ?_ ?_ h
  -- the run is unsettled, so it has not ended, and there is a step
  · intro w hw hunsettled
    rw [hsettled w hw] at hunsettled
    obtain hended | ⟨-, hstirs⟩ := h₀.exists_stirs hw
    · unfold Table.contains at hunsettled
      rw [hended.completion] at hunsettled
      cases hunsettled
    · exact hstirs
  -- the run is settled, so it has ended
  · intro w hw hsettles
    rw [hsettled w hw] at hsettles
    obtain hended | ⟨hnone, -⟩ := h₀.exists_stirs hw
    · exact hended
    · unfold Table.contains at hsettles
      rw [hnone] at hsettles
      cases hsettles

/-- Whoever waits for the result of the run gets it. -/
theorem Frees.surely_result (h₀ : x.Frees id worker r e w₀) {Inv : World → Prop}
    (hinv : ∀ w, x.Homebound id worker r e w₀ w → Inv w) (htimeout : 0 < r.timeout.ticks)
    (h : x.Homebound id worker r e w₀ w) :
    Program.Surely Inv (fun result w => result = answer e ∧ x.Ended id r e w₀ w)
      (Program.result r.execution, w) := by
  refine Program.surely_act h₀.steady_homebound hinv (fun v hv => ?_) h
  -- the record may have grown since, but the run and its timeout are the same
  obtain ⟨r', hr', hsame, hsametimeout⟩ := hv.record
  rw [h₀.identity] at hr'
  let sub : Server.Subscription := ⟨r.execution, r'.execution, r'.timeout⟩
  have hsubscribe : v.server.subscribe r.execution = .ok sub := by
    unfold Server.subscribe
    rw [Server.addressed_of_get? hr' hsame]
    rfl
  have hlimit : 0 < sub.timeout.ticks := by
    show 0 < r'.timeout.ticks
    rwa [hsametimeout]
  have hsettled : ∀ w, x.Homebound id worker r e w₀ w →
      w.server.isSettled sub = w.server.completions.contains r.execution.runId := by
    intro w hw
    obtain ⟨r'', hr'', hsame'', -⟩ := hw.record
    rw [h₀.identity] at hr''
    exact Server.isSettled_eq hr'' hsame'' hsame
  show Program.Surely Inv _ (Program.bind (.done (v.server.subscribe r.execution)) _, v)
  rw [hsubscribe]
  refine (h₀.surely_ended hinv hlimit hsettled hv).bind fun _ v' hended => ?_
  have hdormant := dormant_of_no_tasks hended.tasks (hended.background.delayed.trans h₀.delayed)
  refine Program.surely_act_of_dormant hdormant (hinv v' (.ended hended))
    (.done (hinv v' (.ended hended)) ?_)
  exact ⟨hended.answer_eq hsame, hended⟩

end

end Errand

end Conformance
