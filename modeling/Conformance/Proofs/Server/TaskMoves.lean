import Conformance.Server.Calls
import Conformance.Server.Tasks

/-!
# What a step of a task can do

A step of a task changes the record of its own workflow and nothing that belongs to other
workflows. All the ways in which it can do so are listed once, as the moves of a task; whatever
is said about runs of workflows is said about these moves.

## Main definitions

- `Server.SameSetting` — two servers that differ only in what tasks may change
- `Server.StepOf` — the kinds of steps of a task
- `Server.Move` — what the steps of a task do to its run
- `Server.TaskMove` — a move of one task as a step of its server

## Main statements

- `Server.stepTask_cases` — the kinds of steps are all there are
- `Server.step?_move` — every step among the tasks of a server is a move of one of them
-/

namespace Conformance

/-- A worker without the count of its invocations. -/
def Worker.uncounted (w : Worker) : Worker := { w with invocations := 0 }

namespace Server

/-! ## What no task changes -/

/-- The servers differ in runs, completions and counts of invocations only. -/
structure SameSetting (s s' : Server) : Prop where
  eq : s' = { s with
    executions := s'.executions, completions := s'.completions, workers := s'.workers }
  workers : s'.workers.map Worker.uncounted = s.workers.map Worker.uncounted

theorem SameSetting.refl (s : Server) : SameSetting s s := ⟨rfl, rfl⟩

section

variable {s s' : Server} (h : SameSetting s s')
include h

theorem SameSetting.tasks : s'.tasks = s.tasks := by rw [h.eq]

theorem SameSetting.pollers : s'.pollers = s.pollers := by rw [h.eq]

theorem SameSetting.pending : s'.pending = s.pending := by rw [h.eq]

theorem SameSetting.connections : s'.connections = s.connections := by rw [h.eq]

theorem SameSetting.starts : s'.starts = s.starts := by rw [h.eq]

end

theorem SameSetting.trans {s s' s'' : Server} (h : SameSetting s s') (h' : SameSetting s' s'') :
    SameSetting s s'' := by
  refine ⟨?_, h'.workers.trans h.workers⟩
  have heq := h'.eq
  rw [h.eq] at heq
  exact heq

theorem sameSetting_modifyExecution (s : Server) (workflowId : String)
    (f : ExecutionRecord → ExecutionRecord) : SameSetting s (s.modifyExecution workflowId f) :=
  ⟨rfl, rfl⟩

theorem sameSetting_closeActivity (s : Server) (workflowId : String) (scheduled : Int)
    (ending : Ending) : SameSetting s (s.closeActivity workflowId scheduled ending) :=
  sameSetting_modifyExecution ..

theorem sameSetting_finish (s : Server) (workflowId : String) (completion : Completion) :
    SameSetting s (s.finish workflowId completion) := by
  unfold finish
  split
  · exact .refl s
  · exact ⟨rfl, rfl⟩

/-- Counting an invocation changes no worker in any other way. -/
theorem sameSetting_count (s : Server) (id : WorkerId) (n : Nat) :
    SameSetting s (s.modifyWorker id fun w => { w with invocations := n }) := by
  refine ⟨rfl, ?_⟩
  show (s.workers.modify id _).map Worker.uncounted = _
  apply List.ext_getElem?
  intro i
  rw [List.getElem?_map, List.getElem?_modify, List.getElem?_map]
  cases s.workers[i]? with
  | none => rfl
  | some w => by_cases h : id = i <;> simp [h, Worker.uncounted]

theorem sameSetting_begin (s : Server) (signals : Signals) (t : WorkflowTask) :
    SameSetting s (s.begin signals t).server := by
  unfold begin
  split
  · exact .refl s
  · split
    · exact .refl s
    · exact sameSetting_finish ..

theorem sameSetting_callActivity (s : Server) (signals : Signals) (t : WorkflowTask)
    (activityType : String) (args : List Json) (next : Ending → Code) :
    SameSetting s (s.callActivity signals t activityType args next).server := by
  unfold callActivity
  split
  · exact .refl s
  · dsimp only
    have hscheduled := sameSetting_modifyExecution s t.workflowId
      fun r => r.schedule activityType args
    split
    · exact hscheduled.trans (sameSetting_count ..)
    · exact hscheduled.trans (sameSetting_closeActivity ..)

/-! ## The kinds of steps -/

/-- A task goes on without its run taking notice: it waits, it wakes up, or its activity does
something. -/
inductive Silent : TaskPhase → TaskPhase → Prop
  | refl (p : TaskPhase) : Silent p p
  | latch (l : SignalId) (next : Code) : Silent (.running (.awaitLatch l next)) (.running next)
  | sleep (ms : Nat) (next : Code) : Silent (.running (.sleep ms next)) (.running next)
  | activity (id : Int) (a a' : ActivityCode) (next : Ending → Code) :
      Silent (.inActivity id a next) (.inActivity id a' next)

/-- `StepOf s signals t t' s'` says that a step of the task `t` can leave the task `t'` and the
server `s'`. -/
inductive StepOf (s : Server) (signals : Signals) (t : WorkflowTask) :
    Option WorkflowTask → Server → Prop
  | begin (hp : t.phase = .fresh) :
      StepOf s signals t (s.begin signals t).task (s.begin signals t).server
  | finish (e : Ending) (hp : t.phase = .running (.done e)) :
      StepOf s signals t none (s.finish t.workflowId (Completion.ofEnding e))
  | call (a : String) (args : List Json) (next : Ending → Code)
      (hp : t.phase = .running (.callActivity a args next)) :
      StepOf s signals t (s.callActivity signals t a args next).task
        (s.callActivity signals t a args next).server
  | close (id : Int) (e : Ending) (next : Ending → Code)
      (hp : t.phase = .inActivity id (.done e) next) :
      StepOf s signals t (some { t with phase := .running (next e) })
        (s.closeActivity t.workflowId id e)
  | still (p : TaskPhase) (wake : Option Nat) (hp : Silent t.phase p) :
      StepOf s signals t (some { t with phase := p, wake }) s

/-- Every step of a task is of one of these kinds. -/
theorem stepTask_cases {now : Nat} {s s' : Server} {signals signals' : Signals}
    {t : WorkflowTask} {t' : Option WorkflowTask}
    (h : s.stepTask now signals t = some ⟨t', s', signals'⟩) : StepOf s signals t t' s' := by
  obtain ⟨workflowId, worker, phase, wake⟩ := t
  unfold stepTask at h
  cases phase with
  | fresh =>
    have hstep : StepOf s signals ⟨workflowId, worker, .fresh, wake⟩ _ _ := .begin rfl
    rwa [Option.some.inj h] at hstep
  | running c =>
    cases c with
    | done e =>
      cases h
      exact .finish e rfl
    | callActivity a args next =>
      have hstep : StepOf s signals
          ⟨workflowId, worker, .running (.callActivity a args next), wake⟩ _ _ :=
        .call a args next rfl
      rwa [Option.some.inj h] at hstep
    | awaitLatch l next =>
      dsimp only at h
      split at h <;> cases h
      exact .still (.running next) wake (.latch l next)
    | sleep ms next =>
      -- the time to wake up is noted first, and looked at then
      dsimp only at h
      split at h
      · cases h
        exact .still _ _ (.refl _)
      · split at h <;> cases h
        exact .still (.running next) none (.sleep ms next)
  | inActivity id a next =>
    cases a with
    | done e =>
      cases h
      exact .close id e next rfl
    | openLatch l act =>
      cases h
      exact .still (.inActivity id act next) wake (.activity ..)
    | awaitLatch l act =>
      dsimp only at h
      split at h <;> cases h
      exact .still (.inActivity id act next) wake (.activity ..)
    | sleep ms act =>
      dsimp only at h
      split at h
      · cases h
        exact .still _ _ (.refl _)
      · split at h <;> cases h
        exact .still (.inActivity id act next) none (.activity ..)
    | readCounter c act =>
      cases h
      exact .still (.inActivity id (act _) next) wake (.activity ..)

/-- No step of a task changes the setting. -/
theorem StepOf.sameSetting {s s' : Server} {signals : Signals} {t : WorkflowTask}
    {t' : Option WorkflowTask} (h : StepOf s signals t t' s') : SameSetting s s' := by
  cases h with
  | begin _ => exact sameSetting_begin ..
  | finish _ _ => exact sameSetting_finish ..
  | call _ _ _ _ => exact sameSetting_callActivity ..
  | close _ _ _ _ => exact sameSetting_closeActivity ..
  | still _ _ _ => exact .refl s

/-! ## The moves of a task -/

/-- `Move s t r p r'` says what a step of the task `t` can do to the record `r` of its run: it
leaves the record `r'`, and it leaves the task in the phase `p`, or ends it. -/
inductive Move (s : Server) (t : WorkflowTask) (r : ExecutionRecord) :
    Option TaskPhase → ExecutionRecord → Prop
  | begin (f : Workflow) (hp : t.phase = .fresh)
      (hf : (s.worker? t.worker).bind (·.workflow? r.workflowType) = some f) :
      Move s t r (some (.running (f.code false r.input))) r
  | unregistered (failure : String) (hp : t.phase = .fresh)
      (hf : (s.worker? t.worker).bind (·.workflow? r.workflowType) = none) :
      Move s t r none (r.finish (.error failure))
  | finish (e : Ending) (hp : t.phase = .running (.done e)) :
      Move s t r none (r.finish (Completion.ofEnding e))
  | schedule (a : String) (args : List Json) (next : Ending → Code) (act : ActivityCode)
      (hp : t.phase = .running (.callActivity a args next)) :
      Move s t r (some (.inActivity r.nextId act next)) (r.schedule a args)
  | refuse (a : String) (args : List Json) (next : Ending → Code) (e : Ending)
      (hp : t.phase = .running (.callActivity a args next)) :
      Move s t r (some (.running (next e))) ((r.schedule a args).close r.nextId e)
  | close (id : Int) (e : Ending) (next : Ending → Code)
      (hp : t.phase = .inActivity id (.done e) next) :
      Move s t r (some (.running (next e))) (r.close id e)
  | still (p : TaskPhase) (hp : Silent t.phase p) : Move s t r (some p) r

/-- What is fixed at the start of a run is the same in both records. -/
structure SameRun (r r' : ExecutionRecord) : Prop where
  execution : r'.execution = r.execution
  workflowType : r'.workflowType = r.workflowType
  taskQueue : r'.taskQueue = r.taskQueue
  input : r'.input = r.input

theorem SameRun.refl (r : ExecutionRecord) : SameRun r r := ⟨rfl, rfl, rfl, rfl⟩

theorem SameRun.trans {r r' r'' : ExecutionRecord} (h : SameRun r r') (h' : SameRun r' r'') :
    SameRun r r'' where
  execution := h'.execution.trans h.execution
  workflowType := h'.workflowType.trans h.workflowType
  taskQueue := h'.taskQueue.trans h.taskQueue
  input := h'.input.trans h.input

theorem sameRun_schedule (r : ExecutionRecord) (a : String) (args : List Json) :
    SameRun r (r.schedule a args) := ⟨rfl, rfl, rfl, rfl⟩

theorem sameRun_close (r : ExecutionRecord) (id : Int) (e : Ending) :
    SameRun r (r.close id e) := by
  cases e <;> exact ⟨rfl, rfl, rfl, rfl⟩

theorem sameRun_finish (r : ExecutionRecord) (completion : Completion) :
    SameRun r (r.finish completion) := by
  cases completion <;> exact ⟨rfl, rfl, rfl, rfl⟩

theorem status_close (r : ExecutionRecord) (id : Int) (e : Ending) :
    (r.close id e).status = r.status := by
  cases e <;> rfl

theorem status_finish (r : ExecutionRecord) (completion : Completion) :
    (r.finish completion).status ≠ .running := by
  cases completion <;> exact fun h => nomatch h

section

variable {s : Server} {t : WorkflowTask} {r r' : ExecutionRecord} {p : Option TaskPhase}

/-- A move leaves its run what it is. -/
theorem Move.sameRun (h : Move s t r p r') : SameRun r r' := by
  cases h with
  | begin _ _ _ | still _ _ => exact .refl r
  | unregistered _ _ _ | finish _ _ => exact sameRun_finish ..
  | schedule _ _ _ _ _ => exact sameRun_schedule ..
  | refuse _ _ _ _ _ => exact (sameRun_schedule ..).trans (sameRun_close ..)
  | close _ _ _ _ => exact sameRun_close ..

/-- A run goes on with its task. -/
theorem Move.status_of_some {p : TaskPhase} (h : Move s t r (some p) r') :
    r'.status = r.status := by
  cases h with
  | begin _ _ _ | still _ _ | schedule _ _ _ _ _ => rfl
  | refuse a args _ _ _ => exact status_close (r.schedule a args) ..
  | close _ _ _ _ => exact status_close ..

/-- A run ends with its task. -/
theorem Move.status_of_none (h : Move s t r none r') : r'.status ≠ .running := by
  cases h with
  | unregistered _ _ _ | finish _ _ => exact status_finish _ _

end

/-- `Rewrites s s' workflowId r'` says that between the servers a workflow id has got the record
`r'` in place of `r`, and no other id has got a new one. -/
def Rewrites (s s' : Server) (workflowId : String) (r' : ExecutionRecord) : Prop :=
  ∀ id, s'.executions.get? id = if workflowId = id then some r' else s.executions.get? id

theorem rewrites_self {s : Server} {workflowId : String} {r : ExecutionRecord}
    (hr : s.executions.get? workflowId = some r) : Rewrites s s workflowId r := by
  intro id
  by_cases h : workflowId = id
  · rw [if_pos h, ← h, hr]
  · rw [if_neg h]

theorem rewrites_modifyExecution {s : Server} {workflowId : String} {r : ExecutionRecord}
    (hr : s.executions.get? workflowId = some r) (f : ExecutionRecord → ExecutionRecord) :
    Rewrites s (s.modifyExecution workflowId f) workflowId (f r) := by
  intro id
  show (s.executions.modify workflowId f).get? id = _
  rw [Table.get?_modify, hr]
  rfl

theorem rewrites_finish {s : Server} {workflowId : String} {r : ExecutionRecord}
    (hr : s.executions.get? workflowId = some r) (completion : Completion) :
    Rewrites s (s.finish workflowId completion) workflowId (r.finish completion) := by
  intro id
  unfold finish
  rw [hr]
  exact Table.get?_insert ..

/-- A task that calls an activity schedules it, and closes it at once if its worker does not
implement it. -/
theorem callActivity_move {s : Server} (signals : Signals) {t : WorkflowTask}
    {r : ExecutionRecord} (hr : s.executions.get? t.workflowId = some r) {a : String}
    {args : List Json} {next : Ending → Code}
    (hp : t.phase = .running (.callActivity a args next)) :
    ∃ r', Move s t r ((s.callActivity signals t a args next).task.map (·.phase)) r' ∧
      Rewrites s (s.callActivity signals t a args next).server t.workflowId r' := by
  have hscheduled := rewrites_modifyExecution hr fun r => r.schedule a args
  unfold callActivity
  rw [hr]
  dsimp only
  split
  · refine ⟨_, .schedule a args next _ hp, ?_⟩
    exact hscheduled
  · refine ⟨_, .refuse a args next _ hp, ?_⟩
    have hself := hscheduled t.workflowId
    rw [if_pos rfl] at hself
    intro id
    rw [closeActivity, rewrites_modifyExecution hself _ id, hscheduled id]
    by_cases h : t.workflowId = id <;> simp [h]

/-- A task that begins runs the code that is registered on its worker, or ends its run. -/
theorem begin_move {s : Server} (signals : Signals) {t : WorkflowTask} {r : ExecutionRecord}
    (hr : s.executions.get? t.workflowId = some r) (hp : t.phase = .fresh) :
    ∃ r', Move s t r ((s.begin signals t).task.map (·.phase)) r' ∧
      Rewrites s (s.begin signals t).server t.workflowId r' := by
  unfold begin
  rw [hr]
  dsimp only
  split
  · rename_i f hf
    exact ⟨r, .begin f hp hf, rewrites_self hr⟩
  · rename_i hf
    exact ⟨_, .unregistered _ hp hf, rewrites_finish hr _⟩

/-- A step of a task is a move, and changes no record but the one of its workflow id. -/
theorem StepOf.move {s s' : Server} {signals : Signals} {t : WorkflowTask}
    {t' : Option WorkflowTask} (h : StepOf s signals t t' s') {r : ExecutionRecord}
    (hr : s.executions.get? t.workflowId = some r) :
    ∃ r', Move s t r (t'.map (·.phase)) r' ∧ Rewrites s s' t.workflowId r' := by
  cases h with
  | begin hp => exact begin_move signals hr hp
  | finish e hp => exact ⟨_, .finish e hp, rewrites_finish hr _⟩
  | call a args next hp => exact callActivity_move signals hr hp
  | close id e next hp => exact ⟨_, .close id e next hp, rewrites_modifyExecution hr _⟩
  | still p wake hp => exact ⟨r, .still p hp, rewrites_self hr⟩

/-- The task that is left by a step is that of the same workflow id and worker. -/
theorem StepOf.same_task {s s' : Server} {signals : Signals} {t u : WorkflowTask}
    (h : StepOf s signals t (some u) s') : u.workflowId = t.workflowId ∧ u.worker = t.worker := by
  -- only a task that is left is of interest, so the cases that leave none fall away
  generalize ht' : some u = t' at h
  cases h with
  | begin _ =>
    unfold Server.begin at ht'
    split at ht'
    · cases ht'
    · split at ht' <;> cases ht'
      exact ⟨rfl, rfl⟩
  | finish _ _ => cases ht'
  | call _ _ _ _ =>
    unfold Server.callActivity at ht'
    split at ht'
    · cases ht'
      exact ⟨rfl, rfl⟩
    · dsimp only at ht'
      split at ht' <;> cases ht' <;> exact ⟨rfl, rfl⟩
  | close _ _ _ _ =>
    cases ht'
    exact ⟨rfl, rfl⟩
  | still _ _ _ =>
    cases ht'
    exact ⟨rfl, rfl⟩

/-! ## Steps of a server -/

/-- `TaskMove s s' t t' r r' rest` says that `s'` is what a move of the task `t` leaves of `s`:
the task `t'` takes its place, if there is one, and `r'` that of the record `r` of its run. -/
structure TaskMove (s s' : Server) (t : WorkflowTask) (t' : Option WorkflowTask)
    (r r' : ExecutionRecord) (rest : List WorkflowTask) : Prop where
  before : s.tasks.Perm (t :: rest)
  after : s'.tasks.Perm (t'.toList ++ rest)
  found : s.executions.get? t.workflowId = some r
  move : Move s t r (t'.map (·.phase)) r'
  rewrites : Rewrites s s' t.workflowId r'
  same_task : ∀ u, t' = some u → u.workflowId = t.workflowId ∧ u.worker = t.worker
  setting : SameSetting s { s' with tasks := s.tasks }

/-- One step among the tasks of a server: one task makes it, and the others stay. -/
theorem step?_cases {now i : Nat} {s s' : Server} {signals signals' : Signals}
    (h : s.step? now signals i = some (s', signals')) :
    ∃ t t' s₁ rest, StepOf s signals t t' s₁ ∧ s.tasks.Perm (t :: rest) ∧
      s'.tasks.Perm (t'.toList ++ rest) ∧ s' = { s₁ with tasks := s'.tasks } := by
  unfold step? at h
  split at h
  · cases h
  · rename_i t ht
    split at h
    · cases h
    · rename_i t' s₁ signals₁ hstep
      cases h
      refine ⟨t, t', s₁, s.tasks.take i ++ s.tasks.drop (i + 1), stepTask_cases hstep, ?_,
        arranged_perm .., rfl⟩
      have hsplit : s.tasks.Perm (s.tasks.take i ++ t :: s.tasks.drop (i + 1)) := by
        rw [← eq_take_append_drop ht]
      exact hsplit.trans List.perm_middle

/-- No step among the tasks of a server changes the setting. -/
theorem step?_setting {now i : Nat} {s s' : Server} {signals signals' : Signals}
    (h : s.step? now signals i = some (s', signals')) :
    SameSetting s { s' with tasks := s.tasks } := by
  obtain ⟨t, t', s₁, rest, hstep, -, -, heq⟩ := step?_cases h
  have hsame := hstep.sameSetting
  have hs₁ : ({ s' with tasks := s.tasks } : Server) = s₁ := by
    rw [heq, ← hsame.tasks]
  rwa [hs₁]

/-- A step among tasks with records is a move of one of them. -/
theorem step?_move {now i : Nat} {s s' : Server} {signals signals' : Signals}
    (hfound : ∀ t ∈ s.tasks, ∃ r, s.executions.get? t.workflowId = some r)
    (h : s.step? now signals i = some (s', signals')) :
    ∃ t t' r r' rest, TaskMove s s' t t' r r' rest := by
  obtain ⟨t, t', s₁, rest, hstep, hbefore, hafter, heq⟩ := step?_cases h
  have ht : t ∈ s.tasks := hbefore.mem_iff.mpr List.mem_cons_self
  obtain ⟨r, hr⟩ := hfound t ht
  obtain ⟨r', hmove, hrewrites⟩ := hstep.move hr
  refine ⟨t, t', r, r', rest, hbefore, hafter, hr, hmove, ?_, ?_, step?_setting h⟩
  · rwa [heq]
  · rintro u rfl
    exact hstep.same_task

end Server

end Conformance
