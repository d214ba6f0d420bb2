import Conformance.Proofs.Server.Accounting

/-!
# Tasks that sleep

A task notes when it wakes up only while it sleeps. So a task whose time has come can go on, and so
can its server.

## Main definitions

- `TaskPhase.Wakes` — how a task that sleeps goes on
- `WorkflowTask.Timed`, `Server.Timed` — only tasks that sleep have noted a time

## Main statements

- `Server.timed_of_run` — after every run of a server, only tasks that sleep have noted a time
- `Server.Timed.lt_of_stepFirst?_eq_none` — where no task goes on, no task's time has come
-/

namespace Conformance

/-- `p.Wakes p'` says that a task that sleeps in the phase `p` wakes up in the phase `p'`. -/
inductive TaskPhase.Wakes : TaskPhase → TaskPhase → Prop
  | running (ms : Nat) (next : Code) : Wakes (.running (.sleep ms next)) (.running next)
  | inActivity (id : Int) (ms : Nat) (a : ActivityCode) (next : Ending → Code) :
      Wakes (.inActivity id (.sleep ms a) next) (.inActivity id a next)

/-- A task that has noted a time sleeps. -/
def WorkflowTask.Timed (t : WorkflowTask) : Prop :=
  ∀ time, t.wake = some time → ∃ p, t.phase.Wakes p

namespace WorkflowTask

theorem timed_of_awake {t : WorkflowTask} (h : t.wake = none) : t.Timed :=
  fun _ hwake => nomatch h.symm.trans hwake

end WorkflowTask

namespace Server

variable {s s' : Server} {signals signals' : Signals} {now : Nat} {t t' : WorkflowTask}

/-! ## Steps of a task -/

theorem wake_begin (h : (s.begin signals t).task = some t') : t'.wake = t.wake := by
  unfold begin at h
  split at h
  · cases h
  · split at h <;> cases h
    rfl

theorem wake_callActivity {a : String} {args : List Json} {next : Ending → Code}
    (h : (s.callActivity signals t a args next).task = some t') : t'.wake = t.wake := by
  unfold callActivity at h
  split at h
  · cases h
    rfl
  · dsimp only at h
    split at h <;> cases h <;> rfl

/-- A task that is awake notes a time only when it goes to sleep. -/
theorem timed_stepTask_of_awake (hwake : t.wake = none)
    (h : s.stepTask now signals t = some ⟨some t', s', signals'⟩) : t'.Timed := by
  obtain ⟨id, worker, phase, wake⟩ := t
  obtain rfl : wake = none := hwake
  unfold stepTask at h
  cases phase with
  | fresh => exact WorkflowTask.timed_of_awake (wake_begin (congrArg TaskStep.task (Option.some.inj h)))
  | running c =>
    cases c with
    | done e => cases h
    | callActivity a args next =>
      exact WorkflowTask.timed_of_awake (wake_callActivity (congrArg TaskStep.task (Option.some.inj h)))
    | awaitLatch l next =>
      dsimp only at h
      split at h <;> cases h
      exact WorkflowTask.timed_of_awake rfl
    | sleep ms next =>
      cases h
      exact fun _ _ => ⟨_, .running ms next⟩
  | inActivity scheduled a next =>
    cases a with
    | done e | openLatch l a | readCounter c a =>
      cases h
      exact WorkflowTask.timed_of_awake rfl
    | awaitLatch l a =>
      dsimp only at h
      split at h <;> cases h
      exact WorkflowTask.timed_of_awake rfl
    | sleep ms a =>
      cases h
      exact fun _ _ => ⟨_, .inActivity scheduled ms a next⟩

/-- A task that sleeps goes on when its time has come, and is awake then. -/
theorem stepTask_of_asleep {p : TaskPhase} {time : Nat} (hwake : t.wake = some time)
    (hwakes : t.phase.Wakes p) :
    s.stepTask now signals t =
      if time ≤ now then some ⟨some { t with phase := p, wake := none }, s, signals⟩ else none := by
  obtain ⟨id, worker, phase, wake⟩ := t
  obtain rfl : wake = some time := hwake
  unfold stepTask
  cases hwakes <;> rfl

theorem timed_stepTask (htimed : t.Timed)
    (h : s.stepTask now signals t = some ⟨some t', s', signals'⟩) : t'.Timed := by
  cases hwake : t.wake with
  | none => exact timed_stepTask_of_awake hwake h
  | some time =>
    obtain ⟨p, hwakes⟩ := htimed time hwake
    rw [stepTask_of_asleep hwake hwakes] at h
    split at h <;> cases h
    exact WorkflowTask.timed_of_awake rfl

/-! ## Runs of a server -/

/-- Only tasks that sleep have noted a time. -/
def Timed (s : Server) : Prop := ∀ t ∈ s.tasks, t.Timed

theorem Timed.of_perm (h : s.Timed) (hperm : s'.tasks.Perm s.tasks) : s'.Timed :=
  fun t ht => h t (hperm.mem_iff.mp ht)

theorem Timed.of_append (h : s.Timed) {tasks : List WorkflowTask}
    (htasks : s'.tasks = s.tasks ++ tasks) (hawake : ∀ t ∈ tasks, t.wake = none) : s'.Timed := by
  intro t ht
  rw [htasks] at ht
  rcases List.mem_append.mp ht with ht | ht
  · exact h t ht
  · exact WorkflowTask.timed_of_awake (hawake t ht)

theorem Timed.step? (h : s.Timed) {i : Nat} (hstep : s.step? now signals i = some (s', signals')) :
    s'.Timed := by
  unfold Server.step? at hstep
  split at hstep
  · cases hstep
  · rename_i t ht
    split at hstep
    · cases hstep
    · rename_i t' s₁ signals₁ htask
      cases hstep
      intro u hu
      rcases List.mem_append.mp ((arranged_perm ..).mem_iff.mp hu) with hu | hu
      · rw [Option.mem_toList] at hu
        subst hu
        exact timed_stepTask (h t (List.mem_of_getElem? ht)) htask
      · refine h u ?_
        rcases List.mem_append.mp hu with hu | hu
        · exact List.mem_of_mem_take hu
        · exact List.mem_of_mem_drop hu

theorem Timed.dispatch (h : s.Timed) (queue workflowId : String) :
    (s.dispatch queue workflowId).Timed := by
  unfold Server.dispatch
  split
  · refine h.of_append rfl ?_
    intro t ht
    rw [List.mem_singleton.mp ht]
  · exact h

theorem Timed.attach (h : s.Timed) (target : String) (id : WorkerId) : (s.attach target id).Timed := by
  cases hw : s.worker? id with
  | none =>
    unfold Server.attach
    rw [hw]
    exact h
  | some w =>
    rw [attach_eq hw]
    refine h.of_append rfl ?_
    intro t ht
    obtain ⟨workflowId, -, rfl⟩ := List.mem_map.mp ht
    rfl

theorem Timed.serve (h : s.Timed) {x : Exchange} (hx : Served s x s') : s'.Timed := by
  cases hx with
  | quiet _ hquiet =>
    intro t ht
    rw [hquiet.tasks] at ht
    exact h t ht
  | accept target ns workflowType options args _ =>
    refine Timed.dispatch ?_ _ _
    exact h
  | attach target id => exact h.attach target id
  | detach id =>
    rw [detach_eq]
    exact h

theorem Timed.letThrough (h : s.Timed) (latch : SignalId) : (s.letThrough latch).Timed :=
  h.of_perm (tasks_letThrough s latch)

/-- After every run of a server, only tasks that sleep have noted a time. -/
theorem timed_of_run {s₀ : Server} {log : List Exchange} (h₀ : Fresh s₀) (h : Run s₀ log s) :
    s.Timed := by
  -- by induction on the run; tasks are added awake, and only their own steps put them to sleep
  induction h with
  | start =>
    obtain ⟨updateSupport, refused, failingShutdown, rfl⟩ := h₀
    exact nofun
  | serve _ q ih => exact ih.serve (serve_cases _ q)
  | task _ hstep ih => exact ih.step? hstep
  | letThrough _ latch ih => exact ih.letThrough latch

/-! ## Tasks whose time has come -/

theorem step?_of_stepFrom?_eq_none {i count : Nat} (h : s.stepFrom? now signals i count = none)
    {j : Nat} (hle : i ≤ j) (hlt : j < i + count) : s.step? now signals j = none := by
  induction count generalizing i with
  | zero => omega
  | succ count ih =>
    unfold stepFrom? at h
    split at h
    · cases h
    · rename_i hnone
      by_cases hij : i = j
      · rw [← hij]
        exact hnone
      · exact ih h (by omega) (by omega)

/-- A server without a step has no task whose time has come. -/
theorem Timed.lt_of_stepFirst?_eq_none (h : s.Timed) (hnone : s.stepFirst? now signals = none)
    {time : Nat} (htime : time ∈ s.wakes) : now < time := by
  obtain ⟨t, ht, hwake⟩ := List.mem_filterMap.mp htime
  obtain ⟨i, hi, rfl⟩ := List.getElem_of_mem ht
  obtain ⟨p, hwakes⟩ := h _ ht time hwake
  have hstep := step?_of_stepFrom?_eq_none hnone (Nat.zero_le i) (by omega)
  by_contra hover
  have htask : s.stepTask now signals s.tasks[i] = some _ :=
    (stepTask_of_asleep hwake hwakes).trans (if_pos (Nat.le_of_not_lt hover))
  unfold Server.step? at hstep
  rw [List.getElem?_eq_getElem hi] at hstep
  dsimp only at hstep
  rw [htask] at hstep
  cases hstep

end Server

end Conformance
