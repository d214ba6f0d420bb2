import Conformance.Proofs.Server.Requests
import Conformance.Proofs.Server.TaskMoves
import Mathlib.Data.List.Nodup

/-!
# No workflow is lost and none is run twice

A run that has not ended is either kept for a worker or with exactly one task. The account of
where runs are is kept by every request and by every step of a task, in whatever order they come.

## Main definitions

- `Server.underWay` — the workflows with a task
- `Server.runningOn` — the task queue of a run that has not ended
- `Server.Accounted` — every such run is in one place

## Main statements

- `Server.attach_eq` — what a worker that starts polling finds and leaves
- `Server.accounted_of_run` — the account holds after every run of a server
-/

namespace Conformance.Server

/-- The workflows with a task. -/
def underWay (s : Server) : List String := s.tasks.map (·.workflowId)

/-- The task queue of the run of a workflow id, if it has not ended. -/
def runningOn (s : Server) (id : String) : Option String :=
  (s.executions.get? id).bind fun r => if r.status = .running then some r.taskQueue else none

/-- Every run that has not ended waits on its task queue or has a task, and nothing else does. -/
structure Accounted (s : Server) : Prop where
  /-- nothing waits on a queue that is polled -/
  polled : ∀ queue worker, s.pollers.get? queue = some worker → s.waiting queue = []
  /-- what waits has not ended, and waits on its own queue -/
  waits : ∀ queue id, id ∈ s.waiting queue → s.runningOn id = some queue
  waits_once : ∀ queue, (s.waiting queue).Nodup
  waits_alone : ∀ queue id, id ∈ s.waiting queue → id ∉ s.underWay
  /-- what has a task has not ended -/
  runs : ∀ id, id ∈ s.underWay → s.runningOn id ≠ none
  runs_once : s.underWay.Nodup
  /-- what has not ended waits or has a task -/
  covered : ∀ id queue, s.runningOn id = some queue → id ∈ s.waiting queue ∨ id ∈ s.underWay

/-! ## Where runs are -/

theorem waiting_congr {s s' : Server} (h : s'.pending = s.pending) : s'.waiting = s.waiting := by
  funext queue
  rw [waiting, h]
  rfl

theorem runningOn_eq_some_iff {s : Server} {id queue : String} :
    s.runningOn id = some queue ↔
      ∃ r, s.executions.get? id = some r ∧ r.status = .running ∧ r.taskQueue = queue := by
  unfold runningOn
  rw [Option.bind_eq_some_iff]
  constructor
  · rintro ⟨r, hr, hqueue⟩
    split at hqueue
    · exact ⟨r, hr, ‹_›, Option.some.inj hqueue⟩
    · cases hqueue
  · rintro ⟨r, hr, hstatus, rfl⟩
    exact ⟨r, hr, if_pos hstatus⟩

theorem runningOn_eq_none_iff {s : Server} {id : String} :
    s.runningOn id = none ↔
      ∀ r, s.executions.get? id = some r → r.status ≠ .running := by
  rw [Option.eq_none_iff_forall_ne_some]
  constructor
  · intro h r hr hstatus
    exact h _ (runningOn_eq_some_iff.mpr ⟨r, hr, hstatus, rfl⟩)
  · intro h queue hqueue
    obtain ⟨r, hr, hstatus, -⟩ := runningOn_eq_some_iff.mp hqueue
    exact h r hr hstatus

/-- A run that waits or has a task has not ended. -/
theorem Accounted.not_idle {s : Server} (h : Accounted s) {id : String}
    (hidle : s.runningOn id = none) : (∀ queue, id ∉ s.waiting queue) ∧ id ∉ s.underWay := by
  refine ⟨?_, fun hrun => h.runs id hrun hidle⟩
  intro queue hwait
  have hqueue := h.waits queue id hwait
  rw [hidle] at hqueue
  cases hqueue

/-- A task stands for a run. -/
theorem Accounted.found {s : Server} (h : Accounted s) {t : WorkflowTask} (ht : t ∈ s.tasks) :
    ∃ r, s.executions.get? t.workflowId = some r := by
  have hrun : s.runningOn t.workflowId ≠ none := h.runs _ (List.mem_map_of_mem ht)
  obtain ⟨queue, hqueue⟩ := Option.ne_none_iff_exists'.mp hrun
  obtain ⟨r, hr, -, -⟩ := runningOn_eq_some_iff.mp hqueue
  exact ⟨r, hr⟩

/-! ## Events that move no run -/

/-- The account looks at pollers and places only, and the order of the tasks does not matter. -/
theorem Accounted.of_same {s s' : Server} (h : Accounted s) (hpollers : s'.pollers = s.pollers)
    (hpending : s'.pending = s.pending) (hrunning : s'.runningOn = s.runningOn)
    (hperm : s'.underWay.Perm s.underWay) : Accounted s' := by
  have hwaiting : s'.waiting = s.waiting := waiting_congr hpending
  refine ⟨?polled, ?waits, ?waits_once, ?waits_alone, ?runs, ?runs_once, ?covered⟩
  case polled =>
    rw [hpollers, hwaiting]
    exact h.polled
  case waits =>
    rw [hwaiting, hrunning]
    exact h.waits
  case waits_once =>
    rw [hwaiting]
    exact h.waits_once
  case waits_alone =>
    intro queue id hwait
    rw [hwaiting] at hwait
    rw [hperm.mem_iff]
    exact h.waits_alone queue id hwait
  case runs =>
    intro id hrun
    rw [hrunning]
    exact h.runs id (hperm.mem_iff.mp hrun)
  case runs_once =>
    exact hperm.nodup_iff.mpr h.runs_once
  case covered =>
    intro id queue hqueue
    rw [hrunning] at hqueue
    rw [hwaiting, hperm.mem_iff]
    exact h.covered id queue hqueue

theorem runningOn_of_executions {s s' : Server} (h : s'.executions = s.executions) :
    s'.runningOn = s.runningOn := by
  funext id
  rw [runningOn, h]
  rfl

theorem Accounted.quiet {s s' : Server} (h : Accounted s) (hquiet : Quiet s s') :
    Accounted s' := by
  refine h.of_same hquiet.pollers hquiet.pending (runningOn_of_executions hquiet.executions) ?_
  rw [underWay, hquiet.tasks]
  exact .refl _

/-- The tasks that a latch lets through only change their places. -/
theorem tasks_letThrough (s : Server) (latch : SignalId) :
    (s.letThrough latch).tasks.Perm s.tasks := by
  have htasks := arranged_perm 0 (some latch) s.tasks [] none
  rw [List.append_nil, Option.toList_none, List.nil_append] at htasks
  exact htasks

theorem Accounted.letThrough {s : Server} (h : Accounted s) (latch : SignalId) :
    Accounted (s.letThrough latch) :=
  h.of_same rfl rfl rfl ((tasks_letThrough s latch).map _)

/-- Only the pollers change when a worker stops polling. -/
theorem detach_eq (s : Server) (id : WorkerId) :
    s.detach id = { s with pollers := (s.detach id).pollers } := by
  unfold Server.detach
  split
  · rfl
  · split <;> rfl

theorem Accounted.detach {s : Server} (h : Accounted s) (id : WorkerId) :
    Accounted (s.detach id) := by
  unfold Server.detach
  split
  · exact h
  · split
    · refine ⟨?_, h.waits, h.waits_once, h.waits_alone, h.runs, h.runs_once, h.covered⟩
      intro queue worker hworker
      rw [Table.get?_erase] at hworker
      split at hworker
      · cases hworker
      · exact h.polled queue worker hworker
    · exact h

/-! ## A run starts -/

section

variable (s : Server) (target : String) (ns : Option String) (workflowType : String)
  (options : WorkflowOptions) (args : List Json) (e : Execution)

theorem executions_dispatch (queue id : String) :
    (s.dispatch queue id).executions = s.executions := by
  unfold dispatch
  split <;> rfl

theorem executions_accept (id : String) :
    (s.accept target ns workflowType options args e).executions.get? id =
      if e.workflowId = id then some (newRecord e workflowType options args)
      else s.executions.get? id := by
  rw [accept, executions_dispatch]
  exact Table.get?_insert ..

theorem runningOn_accept (id : String) :
    (s.accept target ns workflowType options args e).runningOn id =
      if e.workflowId = id then some options.taskQueue else s.runningOn id := by
  unfold runningOn
  rw [executions_accept]
  by_cases h : e.workflowId = id
  · rw [if_pos h, if_pos h]
    rfl
  · rw [if_neg h, if_neg h]

/-- A run that is accepted is handed over or kept, by whether its queue is polled. -/
theorem accept_cases :
    (∃ worker, s.pollers.get? options.taskQueue = some worker ∧
      (s.accept target ns workflowType options args e).underWay = s.underWay ++ [e.workflowId] ∧
      (s.accept target ns workflowType options args e).pending = s.pending) ∨
    (s.pollers.get? options.taskQueue = none ∧
      (s.accept target ns workflowType options args e).underWay = s.underWay ∧
      (s.accept target ns workflowType options args e).pending =
        s.pending.insert options.taskQueue (s.waiting options.taskQueue ++ [e.workflowId])) := by
  unfold accept dispatch
  dsimp only [Server.record]
  cases hpoller : s.pollers.get? options.taskQueue with
  | some worker => exact Or.inl ⟨worker, rfl, List.map_append, rfl⟩
  | none => exact Or.inr ⟨rfl, rfl, rfl⟩

end

theorem waiting_of_insert {s s' : Server} {queue : String} {ids : List String}
    (h : s'.pending = s.pending.insert queue ids) (queue' : String) :
    s'.waiting queue' = if queue = queue' then ids else s.waiting queue' := by
  unfold waiting
  rw [h, Table.get?_insert]
  split <;> rfl

section

variable {s s' : Server} {started queue : String} (h : Accounted s)
  (hidle : s.runningOn started = none)
  (hrunning : ∀ id, s'.runningOn id = if started = id then some queue else s.runningOn id)
include h hidle hrunning

/-- A run that waits or has a task is another one than the run that starts. -/
theorem Accounted.others_run_on :
    (∀ queue id, id ∈ s.waiting queue → s'.runningOn id = some queue) ∧
      ∀ id, id ∈ s.underWay → s'.runningOn id ≠ none := by
  obtain ⟨hnot_waiting, hnot_underWay⟩ := h.not_idle hidle
  constructor
  · intro queue id hwait
    have hne : started ≠ id := fun heq => hnot_waiting queue (heq ▸ hwait)
    rw [hrunning, if_neg hne]
    exact h.waits queue id hwait
  · intro id hrun
    have hne : started ≠ id := fun heq => hnot_underWay (heq ▸ hrun)
    rw [hrunning, if_neg hne]
    exact h.runs id hrun

/-- A run that starts can be given a task. -/
theorem Accounted.hand_over (hpollers : s'.pollers = s.pollers) (hwaiting : s'.waiting = s.waiting)
    (hunderWay : s'.underWay = s.underWay ++ [started]) : Accounted s' := by
  obtain ⟨hnot_waiting, hnot_underWay⟩ := h.not_idle hidle
  obtain ⟨hwaits, hruns⟩ := h.others_run_on hidle hrunning
  refine ⟨?polled, ?waits, ?waits_once, ?waits_alone, ?runs, ?runs_once, ?covered⟩
  case polled =>
    rw [hpollers, hwaiting]
    exact h.polled
  case waits =>
    rwa [hwaiting]
  case waits_once =>
    rw [hwaiting]
    exact h.waits_once
  case waits_alone =>
    intro queue id hwait
    rw [hwaiting] at hwait
    rw [hunderWay, List.mem_append, List.mem_singleton]
    rintro (hrun | rfl)
    · exact h.waits_alone queue id hwait hrun
    · exact hnot_waiting queue hwait
  case runs =>
    intro id hrun
    rw [hunderWay, List.mem_append, List.mem_singleton] at hrun
    rcases hrun with hrun | rfl
    · exact hruns id hrun
    · rw [hrunning, if_pos rfl]
      exact Option.some_ne_none _
  case runs_once =>
    rw [hunderWay]
    exact List.nodup_append_comm.mp (List.nodup_cons.mpr ⟨hnot_underWay, h.runs_once⟩)
  case covered =>
    intro id queue' hqueue
    rw [hunderWay, hwaiting, List.mem_append, List.mem_singleton]
    by_cases heq : started = id
    · exact Or.inr (Or.inr heq.symm)
    · rw [hrunning, if_neg heq] at hqueue
      exact (h.covered id queue' hqueue).imp_right Or.inl

/-- A run that starts can be kept on a queue that is not polled. -/
theorem Accounted.keep (hpollers : s'.pollers = s.pollers) (hnone : s.pollers.get? queue = none)
    (hwaiting : ∀ queue', s'.waiting queue' =
      if queue = queue' then s.waiting queue ++ [started] else s.waiting queue')
    (hunderWay : s'.underWay = s.underWay) : Accounted s' := by
  obtain ⟨hnot_waiting, hnot_underWay⟩ := h.not_idle hidle
  obtain ⟨hwaits, hruns⟩ := h.others_run_on hidle hrunning
  have hmem : ∀ queue' id, id ∈ s'.waiting queue' ↔
      id ∈ s.waiting queue' ∨ queue = queue' ∧ id = started := by
    intro queue' id
    rw [hwaiting]
    by_cases heq : queue = queue'
    · subst heq
      simp
    · simp [heq]
  refine ⟨?polled, ?waits, ?waits_once, ?waits_alone, ?runs, ?runs_once, ?covered⟩
  case polled =>
    intro queue' worker hworker
    rw [hpollers] at hworker
    -- the queue of the new run is not polled, so a queue that is polled is another one
    have hne : queue ≠ queue' := by
      rintro rfl
      rw [hnone] at hworker
      cases hworker
    rw [hwaiting, if_neg hne]
    exact h.polled queue' worker hworker
  case waits =>
    intro queue' id hwait
    rcases (hmem queue' id).mp hwait with hwait | ⟨rfl, rfl⟩
    · exact hwaits queue' id hwait
    · rw [hrunning, if_pos rfl]
  case waits_once =>
    intro queue'
    rw [hwaiting]
    split
    · exact List.nodup_append_comm.mp
        (List.nodup_cons.mpr ⟨hnot_waiting _, h.waits_once _⟩)
    · exact h.waits_once queue'
  case waits_alone =>
    intro queue' id hwait
    rw [hunderWay]
    rcases (hmem queue' id).mp hwait with hwait | ⟨-, rfl⟩
    · exact h.waits_alone queue' id hwait
    · exact hnot_underWay
  case runs =>
    rwa [hunderWay]
  case runs_once =>
    rw [hunderWay]
    exact h.runs_once
  case covered =>
    intro id queue' hqueue
    rw [hunderWay, hmem]
    rw [hrunning] at hqueue
    by_cases heq : started = id
    · rw [if_pos heq] at hqueue
      exact Or.inl (Or.inr ⟨Option.some.inj hqueue, heq.symm⟩)
    · rw [if_neg heq] at hqueue
      exact (h.covered id queue' hqueue).imp_left Or.inl

end

/-- A run that is accepted takes its place. -/
theorem Accounted.accept {s : Server} (h : Accounted s) (target : String) (ns : Option String)
    (workflowType : String) (options : WorkflowOptions) (args : List Json) {e : Execution}
    (hidle : s.runningOn e.workflowId = none) :
    Accounted (s.accept target ns workflowType options args e) := by
  have hrunning := runningOn_accept s target ns workflowType options args e
  have hpollers := (accept_kept s target ns workflowType options args e).1
  rcases accept_cases s target ns workflowType options args e with
    ⟨worker, -, hunderWay, hpending⟩ | ⟨hnone, hunderWay, hpending⟩
  · exact h.hand_over hidle hrunning hpollers (waiting_congr hpending) hunderWay
  · exact h.keep hidle hrunning hpollers hnone (waiting_of_insert hpending) hunderWay

/-! ## A worker starts polling -/

theorem spawnAll_eq (s : Server) (worker : WorkerId) (ids : List String) :
    s.spawnAll worker ids =
      { s with tasks := s.tasks ++ ids.map fun workflowId => { workflowId, worker } } := by
  unfold spawnAll
  induction ids generalizing s with
  | nil => simp
  | cons id ids ih =>
    rw [List.foldl_cons, ih]
    simp [spawn]

/-- What a worker that starts polling finds and leaves: it becomes the poller of its queue, every
workflow that waits there gets a task of its own, in order, and none waits there any longer. -/
theorem attach_eq {s : Server} {id : WorkerId} {w : Worker} (hw : s.worker? id = some w)
    (target : String) :
    s.attach target id = { s.record target .pollTaskQueue with
      pollers := s.pollers.insert w.taskQueue id
      pending := s.pending.erase w.taskQueue
      tasks := s.tasks ++
        (s.waiting w.taskQueue).map fun workflowId => { workflowId, worker := id } } := by
  unfold attach
  rw [hw]
  dsimp only
  rw [spawnAll_eq]
  rfl

theorem waiting_of_erase {s s' : Server} {queue : String}
    (h : s'.pending = s.pending.erase queue) (queue' : String) :
    s'.waiting queue' = if queue = queue' then [] else s.waiting queue' := by
  unfold waiting
  rw [h, Table.get?_erase]
  split <;> rfl

/-- Nothing waits on a queue on which a worker starts polling. -/
theorem waiting_attach {s : Server} {id : WorkerId} {w : Worker} (hw : s.worker? id = some w)
    (target queue : String) : (s.attach target id).waiting queue =
      if w.taskQueue = queue then [] else s.waiting queue := by
  apply waiting_of_erase
  rw [attach_eq hw]

theorem tasks_attach {s : Server} {id : WorkerId} {w : Worker} (hw : s.worker? id = some w)
    (target : String) : (s.attach target id).tasks =
      s.tasks ++ (s.waiting w.taskQueue).map fun workflowId => { workflowId, worker := id } := by
  rw [attach_eq hw]

/-- What waited there has a task. -/
theorem underWay_attach {s : Server} {id : WorkerId} {w : Worker} (hw : s.worker? id = some w)
    (target : String) :
    (s.attach target id).underWay = s.underWay ++ s.waiting w.taskQueue := by
  rw [underWay, tasks_attach hw]
  simp [underWay, Function.comp_def]

/-- The workflows that wait for a worker pass over to it. -/
theorem Accounted.attach {s : Server} (h : Accounted s) (target : String) (id : WorkerId) :
    Accounted (s.attach target id) := by
  cases hw : s.worker? id with
  | none =>
    rw [Server.attach, hw]
    exact h
  | some w =>
    have hpollers : (s.attach target id).pollers = s.pollers.insert w.taskQueue id := by
      rw [attach_eq hw]
    have hrunning : (s.attach target id).runningOn = s.runningOn := by
      rw [attach_eq hw]
      rfl
    have hwaiting := waiting_attach hw target
    have hunderWay := underWay_attach hw target
    refine ⟨?polled, ?waits, ?waits_once, ?waits_alone, ?runs, ?runs_once, ?covered⟩
    case polled =>
      intro queue worker hworker
      rw [hpollers, Table.get?_insert] at hworker
      rw [hwaiting]
      by_cases heq : w.taskQueue = queue
      · rw [if_pos heq]
      · rw [if_neg heq] at hworker ⊢
        exact h.polled queue worker hworker
    case waits =>
      intro queue id hwait
      rw [hwaiting] at hwait
      rw [hrunning]
      split at hwait
      · cases hwait
      · exact h.waits queue id hwait
    case waits_once =>
      intro queue
      rw [hwaiting]
      split
      · exact List.nodup_nil
      · exact h.waits_once queue
    case waits_alone =>
      intro queue id hwait
      rw [hwaiting] at hwait
      by_cases heq : w.taskQueue = queue
      · rw [if_pos heq] at hwait
        cases hwait
      · rw [if_neg heq] at hwait
        rw [hunderWay, List.mem_append]
        rintro (hrun | hother)
        · exact h.waits_alone queue id hwait hrun
        · -- a workflow waits on one queue only
          have hqueue := h.waits queue id hwait
          rw [h.waits _ id hother] at hqueue
          exact heq (Option.some.inj hqueue)
    case runs =>
      intro id hrun
      rw [hunderWay, List.mem_append] at hrun
      rw [hrunning]
      rcases hrun with hrun | hwait
      · exact h.runs id hrun
      · rw [h.waits _ id hwait]
        exact Option.some_ne_none _
    case runs_once =>
      rw [hunderWay]
      refine List.nodup_append.mpr ⟨h.runs_once, h.waits_once _, ?_⟩
      rintro id hrun _ hwait rfl
      exact h.waits_alone _ id hwait hrun
    case covered =>
      intro id queue hqueue
      rw [hrunning] at hqueue
      rw [hunderWay, hwaiting, List.mem_append]
      rcases h.covered id queue hqueue with hwait | hrun
      · by_cases heq : w.taskQueue = queue
        · subst heq
          exact Or.inr (Or.inr hwait)
        · rw [if_neg heq]
          exact Or.inl hwait
      · exact Or.inr (Or.inl hrun)

/-! ## A task makes a step -/

/-- What moves of tasks leave of the other runs. -/
theorem runningOn_of_ne {s s' : Server} {workflowId : String} {r' : ExecutionRecord}
    (h : Rewrites s s' workflowId r') {id : String} (hne : workflowId ≠ id) :
    s'.runningOn id = s.runningOn id := by
  rw [runningOn, h, if_neg hne]
  rfl

/-- A task that goes on goes on with its run. -/
theorem Accounted.move_on {s s' : Server} (h : Accounted s) {t u : WorkflowTask}
    {r r' : ExecutionRecord} {rest : List WorkflowTask}
    (hstep : TaskMove s s' t (some u) r r' rest) : Accounted s' := by
  refine h.of_same hstep.setting.pollers hstep.setting.pending ?_ ?_
  · funext id
    by_cases heq : t.workflowId = id
    · rw [runningOn, hstep.rewrites, if_pos heq, runningOn, ← heq, hstep.found]
      simp only [Option.bind_some]
      rw [hstep.move.status_of_some, hstep.move.sameRun.taskQueue]
    · exact runningOn_of_ne hstep.rewrites heq
  · have hid : (u :: rest).map (·.workflowId) = (t :: rest).map (·.workflowId) := by
      rw [List.map_cons, List.map_cons, (hstep.same_task u rfl).1]
    have hafter : s'.underWay.Perm ((u :: rest).map (·.workflowId)) := hstep.after.map _
    rw [hid] at hafter
    exact hafter.trans (hstep.before.map _).symm

/-- A task that ends leaves the tasks of the other runs. -/
theorem TaskMove.underWay_of_end {s s' : Server} {t : WorkflowTask} {r r' : ExecutionRecord}
    {rest : List WorkflowTask} (hstep : TaskMove s s' t none r r' rest)
    (honce : s.underWay.Nodup) :
    t.workflowId ∈ s.underWay ∧ s'.underWay.Nodup ∧
      ∀ id, id ∈ s'.underWay ↔ id ∈ s.underWay ∧ t.workflowId ≠ id := by
  have hbefore : s.underWay.Perm (t.workflowId :: rest.map (·.workflowId)) := hstep.before.map _
  have hafter : s'.underWay.Perm (rest.map (·.workflowId)) := hstep.after.map _
  have hperm : s.underWay.Perm (t.workflowId :: s'.underWay) :=
    hbefore.trans (hafter.symm.cons _)
  obtain ⟨hgone, hrest⟩ := List.nodup_cons.mp (hperm.nodup_iff.mp honce)
  refine ⟨hperm.mem_iff.mpr List.mem_cons_self, hrest, fun id => ?_⟩
  rw [hperm.mem_iff, List.mem_cons]
  constructor
  · intro hrun
    exact ⟨Or.inr hrun, fun heq => hgone (heq ▸ hrun)⟩
  · rintro ⟨heq | hrun, hne⟩
    · exact absurd heq.symm hne
    · exact hrun

/-- A task that ends gives up its place, and its run has ended. -/
theorem Accounted.end_with {s s' : Server} (h : Accounted s) {t : WorkflowTask}
    {r r' : ExecutionRecord} {rest : List WorkflowTask}
    (hstep : TaskMove s s' t none r r' rest) : Accounted s' := by
  have hwaiting : s'.waiting = s.waiting := waiting_congr hstep.setting.pending
  obtain ⟨hthere, honce, hother⟩ := hstep.underWay_of_end h.runs_once
  have hended : s'.runningOn t.workflowId = none := by
    rw [runningOn_eq_none_iff]
    intro r'' hr''
    rw [hstep.rewrites, if_pos rfl] at hr''
    rw [← Option.some.inj hr'']
    exact hstep.move.status_of_none
  refine ⟨?polled, ?waits, ?waits_once, ?waits_alone, ?runs, honce, ?covered⟩
  case polled =>
    have hpollers : s'.pollers = s.pollers := hstep.setting.pollers
    rw [hpollers, hwaiting]
    exact h.polled
  case waits =>
    intro queue id hwait
    rw [hwaiting] at hwait
    -- the run that has ended had a task, so it did not wait
    have hne : t.workflowId ≠ id := fun heq => h.waits_alone queue id hwait (heq ▸ hthere)
    rw [runningOn_of_ne hstep.rewrites hne]
    exact h.waits queue id hwait
  case waits_once =>
    rw [hwaiting]
    exact h.waits_once
  case waits_alone =>
    intro queue id hwait hrun
    rw [hwaiting] at hwait
    exact h.waits_alone queue id hwait ((hother id).mp hrun).1
  case runs =>
    intro id hrun
    obtain ⟨hrun, hne⟩ := (hother id).mp hrun
    rw [runningOn_of_ne hstep.rewrites hne]
    exact h.runs id hrun
  case covered =>
    intro id queue hqueue
    have hne : t.workflowId ≠ id := by
      rintro rfl
      rw [hended] at hqueue
      cases hqueue
    rw [runningOn_of_ne hstep.rewrites hne] at hqueue
    rw [hwaiting, hother]
    exact (h.covered id queue hqueue).imp_right fun hrun => ⟨hrun, hne⟩

/-- Every step of a task is a move of its run. -/
theorem Accounted.taskMove {s s' : Server} (h : Accounted s) {now i : Nat}
    {signals signals' : Signals} (hstep : s.step? now signals i = some (s', signals')) :
    ∃ t t' r r' rest, TaskMove s s' t t' r r' rest :=
  step?_move (fun _ ht => h.found ht) hstep

theorem Accounted.step? {s s' : Server} (h : Accounted s) {now i : Nat}
    {signals signals' : Signals} (hstep : s.step? now signals i = some (s', signals')) :
    Accounted s' := by
  obtain ⟨t, t', r, r', rest, hmove⟩ := h.taskMove hstep
  cases t' with
  | none => exact h.end_with hmove
  | some u => exact h.move_on hmove

/-! ## Runs of a server -/

theorem Fresh.accounted {s : Server} (h : Fresh s) : Accounted s := by
  obtain ⟨updateSupport, refused, failingShutdown, rfl⟩ := h
  refine ⟨?polled, ?waits, ?waits_once, ?waits_alone, ?runs, List.nodup_nil, ?covered⟩
  case polled =>
    intro queue worker hworker
    cases hworker
  case waits =>
    intro queue id hwait
    cases hwait
  case waits_once =>
    intro queue
    exact List.nodup_nil
  case waits_alone =>
    intro queue id hwait
    cases hwait
  case runs =>
    intro id hrun
    cases hrun
  case covered =>
    intro id queue hqueue
    cases hqueue

theorem Accounted.serve {s s' : Server} (h : Accounted s) {x : Exchange} (hx : Served s x s') :
    Accounted s' := by
  cases hx with
  | quiet _ hquiet => exact h.quiet hquiet
  | accept target ns workflowType options args hidle =>
    exact h.accept target ns workflowType options args (runningOn_eq_none_iff.mpr hidle)
  | attach target id => exact h.attach target id
  | detach id => exact h.detach id

/-- The account holds after every run of a server. -/
theorem accounted_of_run {s₀ s : Server} {log : List Exchange} (h₀ : Fresh s₀)
    (h : Run s₀ log s) : Accounted s := by
  -- by induction on the run; the account itself is the invariant
  induction h with
  | start => exact h₀.accounted
  | serve _ q ih => exact ih.serve (serve_cases _ q)
  | task _ hstep ih => exact ih.step? hstep
  | letThrough _ latch ih => exact ih.letThrough latch

end Conformance.Server
