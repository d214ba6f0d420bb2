import Conformance.Proofs.Server.Numbering

/-!
# How workflows are handed to workers

A worker that starts polling is given what waits on its queue. Runs wait in the order in which
they were started, so this is the order in which they are given to it.

## Main definitions

- `Server.waitingRuns` — the runs that wait on a queue, in order
- `Server.HandsOver` — what a worker gets when it starts polling

## Main statements

- `Server.waitingRuns_sublist` — runs wait in the order in which they were started
- `Server.every_run_has_one_place` — no run is lost, none is run twice, and all are handed over
-/

namespace Conformance.Server

/-! ## The order in which runs wait -/

/-- The latest run of a workflow id. -/
def latestRun (s : Server) (id : String) : Option Execution :=
  (s.executions.get? id).map (·.execution)

/-- The runs that wait for a worker on a queue, in the order in which they came. -/
def waitingRuns (s : Server) (queue : String) : List Execution :=
  (s.waiting queue).filterMap s.latestRun

theorem waitingRuns_congr {s s' : Server} {queue : String}
    (hwaiting : s'.waiting queue = s.waiting queue)
    (hlatest : ∀ id, id ∈ s.waiting queue → s'.latestRun id = s.latestRun id) :
    s'.waitingRuns queue = s.waitingRuns queue := by
  unfold waitingRuns
  rw [hwaiting]
  exact List.filterMap_congr hlatest

theorem waitingRuns_of_same {s s' : Server} (hpending : s'.pending = s.pending)
    (hexecutions : s'.executions = s.executions) : s'.waitingRuns = s.waitingRuns := by
  funext queue
  refine waitingRuns_congr (congrFun (waiting_congr hpending) queue) fun id _ => ?_
  rw [latestRun, hexecutions]
  rfl

/-- Runs wait on every queue in the order of the log. -/
def InOrder (log : List Exchange) (s : Server) : Prop :=
  ∀ queue, (s.waitingRuns queue).Sublist (startedIn log)

/-- A run that is kept is the last one that was started. -/
theorem InOrder.accept {log : List Exchange} {s : Server} (h : InOrder log s)
    (haccounted : Accounted s) (target : String) (ns : Option String) (workflowType : String)
    (options : WorkflowOptions) (args : List Json)
    (hidle : s.runningOn (s.nextRun options).workflowId = none) :
    InOrder
      (log ++ [⟨.startWorkflow target ns workflowType options args, .ok (s.nextRun options)⟩])
      (s.accept target ns workflowType options args (s.nextRun options)) := by
  have hrecords := executions_accept s target ns workflowType options args (s.nextRun options)
  have hplace := accept_cases s target ns workflowType options args (s.nextRun options)
  generalize s.accept target ns workflowType options args (s.nextRun options) = s'
    at hrecords hplace ⊢
  generalize s.nextRun options = e at hidle hrecords hplace ⊢
  -- the workflow id of the new run waits nowhere, so the latest runs of those that do stay
  obtain ⟨hnot_waiting, -⟩ := haccounted.not_idle hidle
  have hlatest : ∀ queue id, id ∈ s.waiting queue → s'.latestRun id = s.latestRun id := by
    intro queue id hwait
    have hne : e.workflowId ≠ id := fun heq => hnot_waiting queue (heq ▸ hwait)
    rw [latestRun, hrecords, if_neg hne]
    rfl
  have hlog : startedIn (log ++ [⟨.startWorkflow target ns workflowType options args, .ok e⟩]) =
      startedIn log ++ [e] := startedIn_concat_some rfl
  intro queue
  rw [hlog]
  rcases hplace with ⟨worker, -, -, hpending⟩ | ⟨-, -, hpending⟩
  · have hwaiting : s'.waiting queue = s.waiting queue :=
      congrFun (waiting_congr hpending) queue
    rw [waitingRuns_congr hwaiting (hlatest queue)]
    exact (h queue).trans (List.sublist_append_left ..)
  · have hwaiting := waiting_of_insert hpending queue
    by_cases heq : options.taskQueue = queue
    · subst heq
      rw [if_pos rfl] at hwaiting
      have hself : s'.latestRun e.workflowId = some e := by
        rw [latestRun, hrecords, if_pos rfl]
        rfl
      have hruns : s'.waitingRuns options.taskQueue = s.waitingRuns options.taskQueue ++ [e] := by
        rw [waitingRuns, hwaiting, List.filterMap_append, List.filterMap_congr (hlatest _),
          List.filterMap_cons_some hself]
        rfl
      rw [hruns]
      exact (h _).append_right [e]
    · rw [if_neg heq] at hwaiting
      rw [waitingRuns_congr hwaiting (hlatest queue)]
      exact (h queue).trans (List.sublist_append_left ..)

/-- What a worker takes over no longer waits. -/
theorem InOrder.attach {log : List Exchange} {s : Server} (h : InOrder log s) (target : String)
    (id : WorkerId) : InOrder log (s.attach target id) := by
  cases hw : s.worker? id with
  | none =>
    rw [Server.attach, hw]
    exact h
  | some w =>
    intro queue
    have hwaiting := waiting_attach hw target queue
    by_cases heq : w.taskQueue = queue
    · rw [if_pos heq] at hwaiting
      rw [waitingRuns, hwaiting]
      exact List.nil_sublist _
    · rw [if_neg heq] at hwaiting
      have hlatest : (s.attach target id).latestRun = s.latestRun := by
        rw [attach_eq hw]
        rfl
      rw [waitingRuns_congr hwaiting fun id _ => congrFun hlatest id]
      exact h queue

/-- A move changes neither what waits nor which run is the latest. -/
theorem waitingRuns_taskMove {s s' : Server} {t : WorkflowTask} {t' : Option WorkflowTask}
    {r r' : ExecutionRecord} {rest : List WorkflowTask}
    (hstep : TaskMove s s' t t' r r' rest) : s'.waitingRuns = s.waitingRuns := by
  have hwaiting : s'.waiting = s.waiting := waiting_congr hstep.setting.pending
  funext queue
  refine waitingRuns_congr (congrFun hwaiting queue) fun id _ => ?_
  rw [latestRun, hstep.rewrites]
  by_cases heq : t.workflowId = id
  · rw [if_pos heq, latestRun, ← heq, hstep.found, Option.map_some, Option.map_some,
      hstep.move.sameRun.execution]
  · rw [if_neg heq]
    rfl

theorem InOrder.serve {log : List Exchange} {s s' : Server} (h : InOrder log s)
    (haccounted : Accounted s) {x : Exchange} (hx : Served s x s') :
    InOrder (log ++ [x]) s' := by
  cases hx with
  | quiet hnone hquiet =>
    rw [InOrder, startedIn_concat_none hnone,
      waitingRuns_of_same hquiet.pending hquiet.executions]
    exact h
  | accept target ns workflowType options args hidle =>
    exact h.accept haccounted target ns workflowType options args
      (runningOn_eq_none_iff.mpr hidle)
  | attach target id =>
    rw [InOrder, startedIn_concat_none rfl]
    exact h.attach target id
  | detach id =>
    rw [InOrder, startedIn_concat_none rfl, detach_eq]
    exact h

/-- Runs wait in the order in which they were started. -/
theorem waitingRuns_sublist {s₀ s : Server} {log : List Exchange} (h₀ : Fresh s₀)
    (h : Run s₀ log s) : InOrder log s := by
  induction h with
  | start =>
    obtain ⟨updateSupport, refused, failingShutdown, rfl⟩ := h₀
    exact fun queue => List.nil_sublist _
  | serve hrun q ih => exact ih.serve (accounted_of_run h₀ hrun) (serve_cases _ q)
  | task hrun hstep ih =>
    obtain ⟨t, t', r, r', rest, hmove⟩ := (accounted_of_run h₀ hrun).taskMove hstep
    rw [InOrder, waitingRuns_taskMove hmove]
    exact ih
  | letThrough _ latch ih => exact ih

/-- The runs that wait on a queue are those of the workflow ids that wait there. -/
theorem workflowIds_waitingRuns {s : Server} (haccounted : Accounted s) {log : List Exchange}
    (hnumbered : Numbered log s) (queue : String) :
    (s.waitingRuns queue).map (·.workflowId) = s.waiting queue := by
  have hself : ∀ id, id ∈ s.waiting queue → (s.latestRun id).map (·.workflowId) = some id := by
    intro id hwait
    obtain ⟨r, hr, -, -⟩ := runningOn_eq_some_iff.mp (haccounted.waits queue id hwait)
    rw [latestRun, hr, Option.map_some, Option.map_some, hnumbered.named id r hr]
  unfold waitingRuns
  rw [List.map_filterMap, List.filterMap_congr hself, List.filterMap_some]

/-! ## Every run has one place -/

/-- What a worker gets when it starts polling: a fresh task for each workflow that waits on its
queue, in the order in which their runs were started. Nothing waits there any longer, and nothing
changes on other queues. -/
structure HandsOver (log : List Exchange) (s : Server) (target : String) (worker : WorkerId)
    (queue : String) : Prop where
  tasks : (s.attach target worker).tasks =
    s.tasks ++ (s.waitingRuns queue).map fun e => { workflowId := e.workflowId, worker }
  started : (s.waitingRuns queue).Sublist (startedIn log)
  /-- the runs that are handed over are those that have not ended and have no task -/
  all : ∀ e, e ∈ s.waitingRuns queue ↔ ∃ r, s.executions.get? e.workflowId = some r ∧
    r.execution = e ∧ r.status = .running ∧ r.taskQueue = queue ∧ e.workflowId ∉ s.underWay
  waiting : ∀ queue', (s.attach target worker).waiting queue' =
    if queue = queue' then [] else s.waiting queue'

theorem mem_waitingRuns_iff {s : Server} (haccounted : Accounted s) {log : List Exchange}
    (hnumbered : Numbered log s) (queue : String) (e : Execution) :
    e ∈ s.waitingRuns queue ↔ ∃ r, s.executions.get? e.workflowId = some r ∧
      r.execution = e ∧ r.status = .running ∧ r.taskQueue = queue ∧
        e.workflowId ∉ s.underWay := by
  rw [waitingRuns, List.mem_filterMap]
  constructor
  · rintro ⟨id, hwait, hlatest⟩
    obtain ⟨r, hr, hrunning, hqueue⟩ := runningOn_eq_some_iff.mp (haccounted.waits queue id hwait)
    rw [latestRun, hr, Option.map_some] at hlatest
    obtain rfl := Option.some.inj hlatest
    obtain rfl := hnumbered.named id r hr
    exact ⟨r, hr, rfl, hrunning, hqueue, haccounted.waits_alone queue _ hwait⟩
  · rintro ⟨r, hr, rfl, hrunning, hqueue, hnot⟩
    refine ⟨r.execution.workflowId, ?_, ?_⟩
    · have hrun := runningOn_eq_some_iff.mpr ⟨r, hr, hrunning, hqueue⟩
      exact (haccounted.covered _ queue hrun).resolve_right hnot
    · rw [latestRun, hr]
      rfl

theorem Accounted.handsOver {s : Server} (haccounted : Accounted s) {log : List Exchange}
    (hnumbered : Numbered log s) (horder : InOrder log s) (target : String) {worker : WorkerId}
    {w : Worker} (hw : s.worker? worker = some w) :
    HandsOver log s target worker w.taskQueue where
  tasks := by
    rw [tasks_attach hw, ← workflowIds_waitingRuns haccounted hnumbered, List.map_map]
    rfl
  started := horder w.taskQueue
  all := mem_waitingRuns_iff haccounted hnumbered w.taskQueue
  waiting := waiting_attach hw target

/-- A run that has not ended is kept once for its own queue and has no task, or it is not kept and
has exactly one task. -/
theorem Accounted.one_place {s : Server} (h : Accounted s) {id : String} {r : ExecutionRecord}
    (hr : s.executions.get? id = some r) (hrunning : r.status = .running) :
    ((s.waiting r.taskQueue).count id = 1 ∧ (∀ queue, queue ≠ r.taskQueue →
        id ∉ s.waiting queue) ∧ s.underWay.count id = 0) ∨
      ((∀ queue, id ∉ s.waiting queue) ∧ s.underWay.count id = 1) := by
  have hrun := runningOn_eq_some_iff.mpr ⟨r, hr, hrunning, rfl⟩
  rcases h.covered id r.taskQueue hrun with hwait | htask
  · refine Or.inl ⟨List.count_eq_one_of_mem (h.waits_once _) hwait, ?_, ?_⟩
    · intro queue hne hother
      have hsame := h.waits queue id hother
      rw [hrun] at hsame
      exact hne (Option.some.inj hsame).symm
    · exact List.count_eq_zero.mpr (h.waits_alone _ id hwait)
  · refine Or.inr ⟨?_, List.count_eq_one_of_mem h.runs_once htask⟩
    intro queue hwait
    exact h.waits_alone queue id hwait htask

/-- After everything that can happen at a server, in any order: nothing waits on a queue that is
polled; a run that has not ended is either kept once, for its own queue, or has exactly one task;
a workflow id without such a run is neither kept nor has a task; and a worker that starts polling
gets what is kept for its queue, in the order of the starts. -/
theorem every_run_has_one_place {s₀ s : Server} {log : List Exchange} (h₀ : Fresh s₀)
    (h : Run s₀ log s) :
    (∀ queue worker, s.pollers.get? queue = some worker → s.waiting queue = []) ∧
    (∀ id r, s.executions.get? id = some r → r.status = .running →
      ((s.waiting r.taskQueue).count id = 1 ∧ (∀ queue, queue ≠ r.taskQueue →
          id ∉ s.waiting queue) ∧ s.underWay.count id = 0) ∨
        ((∀ queue, id ∉ s.waiting queue) ∧ s.underWay.count id = 1)) ∧
    (∀ id, (∀ r, s.executions.get? id = some r → r.status ≠ .running) →
      (∀ queue, id ∉ s.waiting queue) ∧ id ∉ s.underWay) ∧
    (startedIn log).Nodup ∧
    ∀ target worker w, s.worker? worker = some w →
      HandsOver log s target worker w.taskQueue := by
  have haccounted := accounted_of_run h₀ h
  have hnumbered := numbered_of_run h₀ h
  refine ⟨haccounted.polled, fun id r => haccounted.one_place, ?_, nodup_startedIn h₀ h, ?_⟩
  · intro id hidle
    exact haccounted.not_idle (runningOn_eq_none_iff.mpr hidle)
  · intro target worker w hw
    exact haccounted.handsOver hnumbered (waitingRuns_sublist h₀ h) target hw

/-- A run that is started before its worker polls waits alone, and is handed to that worker. -/
theorem early_run_has_one_place :
    let start : Request :=
      .startWorkflow "direct" none "Flow" { workflowId := some "early", taskQueue := "queue" } []
    let s := ((({} : Server).serve start).2.serve (.addWorker "queue")).2
    s.waiting "queue" = ["early"] ∧ s.underWay = [] ∧
      (s.attach "direct" 0).underWay = ["early"] ∧ (s.attach "direct" 0).waiting "queue" = [] ∧
      HandsOver [⟨start, (({} : Server).serve start).1⟩, ⟨.addWorker "queue", (0 : Nat)⟩] s
        "direct" 0 "queue" := by
  intro start s
  have hrun : Run {} [⟨start, (({} : Server).serve start).1⟩, ⟨.addWorker "queue", (0 : Nat)⟩]
      s := (Run.start.serve start).serve (.addWorker "queue")
  obtain ⟨-, -, -, -, hands⟩ := every_run_has_one_place ⟨.enabled, [], [], rfl⟩ hrun
  refine ⟨?_, ?_, ?_, ?_, hands "direct" 0 { taskQueue := "queue" } rfl⟩ <;> decide +kernel

end Conformance.Server
