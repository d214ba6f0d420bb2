import Conformance.Descent
import Conformance.Server.Basic
import Conformance.Signals

/-!
# Workflow tasks

A workflow task runs the code of a workflow, records every step in the history of its run, and
publishes the completion at the end. Its steps are small: between two of them anything else may
happen. A task that waits for a closed latch or for a later time has no step.

The tasks of a server are kept in the order in which they go on. A new task comes last; so does one
that falls asleep, since of those that wake up at the same time the first to fall asleep goes on
first; and so do those that have waited for a latch once it is opened.

## Main definitions

- `Server.stepTask` — one step of one task
- `Server.arranged` — the order of the tasks after a step
- `Server.step?` — one step of the task at a position
- `WorkflowTask.After` — the order in which every step goes down
-/

namespace Conformance

/-! ## Steps -/

/-- Whether a task waits for a latch. -/
def WorkflowTask.waitsFor (latch : SignalId) (t : WorkflowTask) : Bool :=
  match t.phase with
  | .running (.awaitLatch l _) => l = latch
  | .inActivity _ (.awaitLatch l _) _ => l = latch
  | _ => false

namespace Server

/-- Records the end of a run and publishes its completion. -/
def finish (s : Server) (workflowId : String) (completion : Completion) : Server :=
  match s.executions.get? workflowId with
  | none => s
  | some r =>
    { s with
      executions := s.executions.insert workflowId (r.finish completion)
      completions := s.completions.insert r.execution.runId completion }

/-- Records the outcome of an activity under the id of the event that scheduled it. -/
def closeActivity (s : Server) (workflowId : String) (scheduled : Int) (ending : Ending) : Server :=
  s.modifyExecution workflowId fun r => r.close scheduled ending

/-- The activities of a worker, if they declare a type. -/
def activitiesFor (w : Worker) (activityType : String) : Option Activities :=
  w.activities.filter fun a => a.types.contains activityType

/-- The task queue of a worker. -/
def queueOf (s : Server) (id : WorkerId) : String :=
  match s.worker? id with
  | some w => w.taskQueue
  | none => ""

/-- What one step of a task leads to: the task that is left, if it has not ended, and the state
around it. -/
structure TaskStep where
  task : Option WorkflowTask
  server : Server
  signals : Signals

/-- The first step of a task: it finds the code to run. -/
def begin (s : Server) (signals : Signals) (t : WorkflowTask) : TaskStep :=
  match s.executions.get? t.workflowId with
  | none => ⟨none, s, signals⟩
  | some r =>
    match (s.worker? t.worker).bind (·.workflow? r.workflowType) with
    | some w => ⟨some { t with phase := .running (w.code false r.input) }, s, signals⟩
    | none =>
      ⟨none, s.finish t.workflowId (.error ("workflow type " ++ r.workflowType
        ++ " is not registered on task queue " ++ s.queueOf t.worker)), signals⟩

/-- Schedules an activity and invokes it, if the worker implements it. -/
def callActivity (s : Server) (signals : Signals) (t : WorkflowTask) (activityType : String)
    (args : List Json) (next : Ending → Code) : TaskStep :=
  match s.executions.get? t.workflowId with
  | none =>
    let failure := WorkflowFailure.application ("workflow " ++ t.workflowId ++ " disappeared")
    ⟨some { t with phase := .running (next (.error failure)) }, s, signals⟩
  | some r =>
    let s := s.modifyExecution t.workflowId fun r => r.schedule activityType args
    match (s.worker? t.worker).bind fun w => (activitiesFor w activityType).map (w, ·) with
    | some (w, a) =>
      let ordinal := w.invocations + 1
      ⟨some { t with phase := .inActivity r.nextId (a.invoke activityType args ordinal) next },
        s.modifyWorker t.worker fun w => { w with invocations := ordinal }, signals⟩
    | none =>
      let ending : Ending := .error (.activity activityType ("activity type " ++ activityType
        ++ " is not registered on task queue " ++ s.queueOf t.worker))
      ⟨some { t with phase := .running (next ending) },
        s.closeActivity t.workflowId r.nextId ending, signals⟩

/-- One step of a task at a time, or nothing if the task has to wait. -/
def stepTask (now : Nat) (s : Server) (signals : Signals) (t : WorkflowTask) : Option TaskStep :=
  -- a sleeping task first notes when it wakes up
  let slumber (ms : Nat) (phase : TaskPhase) : Option TaskStep :=
    match t.wake with
    | none => some ⟨some { t with wake := some (now + ms) }, s, signals⟩
    | some w => if w ≤ now then some ⟨some { t with phase, wake := none }, s, signals⟩ else none
  match t.phase with
  | .fresh => some (s.begin signals t)
  | .running (.done ending) =>
    some ⟨none, s.finish t.workflowId (Completion.ofEnding ending), signals⟩
  | .running (.callActivity activityType args next) =>
    some (s.callActivity signals t activityType args next)
  | .running (.awaitLatch latch next) =>
    if signals.isOpen latch then some ⟨some { t with phase := .running next }, s, signals⟩ else none
  | .running (.sleep ms next) => slumber ms (.running next)
  | .inActivity scheduled (.done ending) next =>
    some ⟨some { t with phase := .running (next ending) },
      s.closeActivity t.workflowId scheduled ending, signals⟩
  | .inActivity scheduled (.openLatch latch act) next =>
    some ⟨some { t with phase := .inActivity scheduled act next }, s, signals.openLatch latch⟩
  | .inActivity scheduled (.awaitLatch latch act) next =>
    if signals.isOpen latch then
      some ⟨some { t with phase := .inActivity scheduled act next }, s, signals⟩
    else none
  | .inActivity scheduled (.sleep ms act) next => slumber ms (.inActivity scheduled act next)
  | .inActivity scheduled (.readCounter counter act) next =>
    some ⟨some { t with phase := .inActivity scheduled (act (signals.count counter)) next }, s,
      signals⟩

/-- The latch that the next step of a task opens, unless it is open already. -/
def opens (signals : Signals) (t : WorkflowTask) : Option SignalId :=
  match t.phase with
  | .inActivity _ (.openLatch latch _) _ => if signals.isOpen latch then none else some latch
  | _ => none

/-- Whether a task sleeps beyond a time. -/
def sleepsBeyond (now : Nat) (t : Option WorkflowTask) : Bool :=
  (t.bind (·.wake)).any (now < ·)

/-- The tasks in the order in which they go on after one of them, which is between two lists of
others, has made a step. -/
def arranged (now : Nat) (opened : Option SignalId) (before : List WorkflowTask)
    (t : Option WorkflowTask) (after : List WorkflowTask) : List WorkflowTask :=
  match opened with
  | some latch =>
    let others (l : List WorkflowTask) := l.filter fun t => !t.waitsFor latch
    others before ++ t.toList ++ others after ++ (before ++ after).filter (·.waitsFor latch)
  | none =>
    if sleepsBeyond now t then before ++ after ++ t.toList else before ++ t.toList ++ after

/-- One step of the task at a position. -/
def step? (now : Nat) (s : Server) (signals : Signals) (i : Nat) : Option (Server × Signals) :=
  match s.tasks[i]? with
  | none => none
  | some t =>
    match s.stepTask now signals t with
    | none => none
    | some ⟨t', s', signals'⟩ =>
      let tasks := arranged now (opens signals t) (s.tasks.take i) t' (s.tasks.drop (i + 1))
      some ({ s' with tasks }, signals')

/-- A step of the first task that has one, among those from a position on. -/
def stepFrom? (now : Nat) (s : Server) (signals : Signals) (i : Nat) :
    (count : Nat) → Option (Server × Signals)
  | 0 => none
  | count + 1 =>
    match s.step? now signals i with
    | some next => some next
    | none => stepFrom? now s signals (i + 1) count

/-- A step of the first task that has one. -/
def stepFirst? (now : Nat) (s : Server) (signals : Signals) : Option (Server × Signals) :=
  s.stepFrom? now signals 0 s.tasks.length

/-- The tasks after a latch has been opened by somebody else. -/
def letThrough (s : Server) (latch : SignalId) : Server :=
  { s with tasks := arranged 0 (some latch) s.tasks none [] }

/-- The times at which sleeping tasks wake up. -/
def wakes (s : Server) : List Nat := s.tasks.filterMap (·.wake)

end Server

/-! ## Every step goes down -/

/-- `TaskPhase.After p' p` says that one step can lead from `p` to `p'`. -/
inductive TaskPhase.After : TaskPhase → TaskPhase → Prop
  | start (c : Code) : After (.running c) .fresh
  | answer (t : String) (args : List Json) (next : Ending → Code) (e : Ending) :
      After (.running (next e)) (.running (.callActivity t args next))
  | invoke (t : String) (args : List Json) (next : Ending → Code) (id : Int) (a : ActivityCode) :
      After (.inActivity id a next) (.running (.callActivity t args next))
  | latch (l : SignalId) (next : Code) : After (.running next) (.running (.awaitLatch l next))
  | sleep (ms : Nat) (next : Code) : After (.running next) (.running (.sleep ms next))
  | finish (id : Int) (a : ActivityCode) (next : Ending → Code) (e : Ending) :
      After (.running (next e)) (.inActivity id a next)
  | openLatch (id : Int) (l : SignalId) (a : ActivityCode) (next : Ending → Code) :
      After (.inActivity id a next) (.inActivity id (.openLatch l a) next)
  | awaitLatch (id : Int) (l : SignalId) (a : ActivityCode) (next : Ending → Code) :
      After (.inActivity id a next) (.inActivity id (.awaitLatch l a) next)
  | slumber (id : Int) (ms : Nat) (a : ActivityCode) (next : Ending → Code) :
      After (.inActivity id a next) (.inActivity id (.sleep ms a) next)
  | readCounter (id : Int) (c : SignalId) (a : Nat → ActivityCode) (next : Ending → Code) (n : Nat) :
      After (.inActivity id (a n) next) (.inActivity id (.readCounter c a) next)

namespace TaskPhase

theorem acc_inActivity (id : Int) (a : ActivityCode) (next : Ending → Code)
    (h : ∀ e, Acc After (.running (next e))) : Acc After (.inActivity id a next) := by
  induction a with
  | done e =>
    refine Acc.intro _ fun p hp => ?_
    cases hp with
    | finish _ _ _ e => exact h e
  | openLatch l a ih =>
    refine Acc.intro _ fun p hp => ?_
    cases hp with
    | finish _ _ _ e => exact h e
    | openLatch => exact ih
  | awaitLatch l a ih =>
    refine Acc.intro _ fun p hp => ?_
    cases hp with
    | finish _ _ _ e => exact h e
    | awaitLatch => exact ih
  | sleep ms a ih =>
    refine Acc.intro _ fun p hp => ?_
    cases hp with
    | finish _ _ _ e => exact h e
    | slumber => exact ih
  | readCounter c a ih =>
    refine Acc.intro _ fun p hp => ?_
    cases hp with
    | finish _ _ _ e => exact h e
    | readCounter _ _ _ _ n => exact ih n

theorem acc_running (c : Code) : Acc After (.running c) := by
  induction c with
  | done e => exact Acc.intro _ fun p hp => by cases hp
  | callActivity t args next ih =>
    refine Acc.intro _ fun p hp => ?_
    cases hp with
    | answer _ _ _ e => exact ih e
    | invoke _ _ _ id a => exact acc_inActivity id a next ih
  | awaitLatch l next ih =>
    refine Acc.intro _ fun p hp => ?_
    cases hp with
    | latch => exact ih
  | sleep ms next ih =>
    refine Acc.intro _ fun p hp => ?_
    cases hp with
    | sleep => exact ih

theorem wellFounded_after : WellFounded After :=
  ⟨fun p => by
    cases p with
    | fresh =>
      refine Acc.intro _ fun p hp => ?_
      cases hp with
      | start c => exact acc_running c
    | running c => exact acc_running c
    | inActivity id a next => exact acc_inActivity id a next fun e => acc_running (next e)⟩

end TaskPhase

namespace WorkflowTask

/-- One if a task has not noted when it wakes up. -/
def unset (t : WorkflowTask) : Nat := if t.wake.isNone then 1 else 0

/-- The order in which every step of a task goes down: by phase, then by whether the task still
has to note when it wakes up. -/
def After (t' t : WorkflowTask) : Prop :=
  Prod.Lex TaskPhase.After (· < ·) (t'.phase, t'.unset) (t.phase, t.unset)

theorem wellFounded_after : WellFounded After :=
  InvImage.wf (fun t : WorkflowTask => (t.phase, t.unset))
    (Prod.lex ⟨_, TaskPhase.wellFounded_after⟩ ⟨_, Nat.lt_wfRel.wf⟩).wf

theorem after_of_phase {t' t : WorkflowTask} (h : TaskPhase.After t'.phase t.phase) :
    After t' t :=
  Prod.Lex.left _ _ h

theorem after_of_wake {t' t : WorkflowTask} (hp : t'.phase = t.phase) (h : t.wake = none)
    (h' : t'.wake.isSome = true) : After t' t := by
  have hu : t'.unset < t.unset := by
    cases hw : t'.wake with
    | none => simp [hw] at h'
    | some w => simp [unset, h, hw]
  have : (t'.phase, t'.unset) = (t.phase, t'.unset) := by rw [hp]
  show Prod.Lex _ _ (t'.phase, t'.unset) (t.phase, t.unset)
  rw [this]
  exact Prod.Lex.right _ hu

end WorkflowTask

namespace Server

/-- The task that is left after a step comes after the one that made it. -/
theorem stepTask_after {now : Nat} {s s' : Server} {signals signals' : Signals}
    {t t' : WorkflowTask} (h : s.stepTask now signals t = some ⟨some t', s', signals'⟩) :
    WorkflowTask.After t' t := by
  obtain ⟨workflowId, worker, phase, wake⟩ := t
  unfold stepTask at h
  cases phase with
  | fresh =>
    simp only [Option.some.injEq] at h
    unfold begin at h
    refine WorkflowTask.after_of_phase ?_
    split at h
    · cases h
    · split at h
      · cases h
        exact .start _
      · cases h
  | running c =>
    cases c with
    | done e => simp at h
    | callActivity a args next =>
      simp only [Option.some.injEq] at h
      unfold callActivity at h
      refine WorkflowTask.after_of_phase ?_
      split at h
      · cases h
        exact .answer _ _ _ _
      · dsimp only at h
        split at h
        · cases h
          exact .invoke _ _ _ _ _
        · cases h
          exact .answer _ _ _ _
    | awaitLatch l next =>
      dsimp only at h
      split at h
      · cases h
        exact WorkflowTask.after_of_phase (.latch _ _)
      · cases h
    | sleep ms next =>
      dsimp only at h
      split at h
      · cases h
        exact WorkflowTask.after_of_wake rfl rfl rfl
      · split at h
        · cases h
          exact WorkflowTask.after_of_phase (.sleep _ _)
        · cases h
  | inActivity id a next =>
    cases a with
    | done e =>
      cases h
      exact WorkflowTask.after_of_phase (.finish _ _ _ _)
    | openLatch l act =>
      cases h
      exact WorkflowTask.after_of_phase (.openLatch _ _ _ _)
    | awaitLatch l act =>
      dsimp only at h
      split at h
      · cases h
        exact WorkflowTask.after_of_phase (.awaitLatch _ _ _ _)
      · cases h
    | sleep ms act =>
      dsimp only at h
      split at h
      · cases h
        exact WorkflowTask.after_of_wake rfl rfl rfl
      · split at h
        · cases h
          exact WorkflowTask.after_of_phase (.slumber _ _ _ _)
        · cases h
    | readCounter c act =>
      cases h
      exact WorkflowTask.after_of_phase (.readCounter _ _ _ _ _)

/-- No task is lost or added by the order in which they go on. -/
theorem arranged_perm (now : Nat) (opened : Option SignalId) (before after : List WorkflowTask)
    (t : Option WorkflowTask) :
    (arranged now opened before t after).Perm (t.toList ++ (before ++ after)) := by
  unfold arranged
  split
  · rename_i latch
    have hsplit := List.filter_append_perm (fun t => !t.waitsFor latch) (before ++ after)
    simp only [Bool.not_not] at hsplit
    refine List.Perm.trans ?_ (hsplit.append_left t.toList)
    simp only [List.filter_append, ← List.append_assoc]
    exact ((List.perm_append_comm.append_right _).append_right _).append_right _
  · split
    · exact List.perm_append_comm
    · simp only [← List.append_assoc]
      exact List.perm_append_comm.append_right after

theorem eq_take_append_drop {l : List WorkflowTask} {i : Nat} {t : WorkflowTask}
    (h : l[i]? = some t) : l = l.take i ++ t :: l.drop (i + 1) := by
  obtain ⟨hi, rfl⟩ := List.getElem?_eq_some_iff.mp h
  rw [List.getElem_cons_drop, List.take_append_drop]

/-- A step of a task brings the pool of tasks down. -/
theorem step?_descent {now i : Nat} {s s' : Server} {signals signals' : Signals}
    (h : s.step? now signals i = some (s', signals')) :
    Descent WorkflowTask.After s'.tasks s.tasks := by
  unfold step? at h
  split at h
  · cases h
  · rename_i t ht
    split at h
    · cases h
    · rename_i t' s₁ sig₁ hstep
      cases h
      dsimp only
      have hp := arranged_perm now (opens signals t) (s.tasks.take i) (s.tasks.drop (i + 1)) t'
      generalize arranged now (opens signals t) _ t' _ = tasks at hp
      rw [eq_take_append_drop ht]
      cases t' with
      | some t' => exact Descent.of_replace (stepTask_after hstep) hp
      | none => exact Descent.of_remove hp

theorem stepFrom?_descent {now i count : Nat} {s s' : Server} {signals signals' : Signals}
    (h : s.stepFrom? now signals i count = some (s', signals')) :
    Descent WorkflowTask.After s'.tasks s.tasks := by
  induction count generalizing i with
  | zero => cases h
  | succ count ih =>
    unfold stepFrom? at h
    split at h
    · rename_i next hnext
      cases h
      exact step?_descent hnext
    · exact ih h

theorem stepFirst?_descent {now : Nat} {s s' : Server} {signals signals' : Signals}
    (h : s.stepFirst? now signals = some (s', signals')) :
    Descent WorkflowTask.After s'.tasks s.tasks :=
  stepFrom?_descent h

end Server

end Conformance
