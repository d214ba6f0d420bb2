import Conformance.Proofs.Background.Sleeping

/-!
# Code that runs alone

A workflow that has a server to itself ends in one way only: nobody else opens latches, and nobody
else's invocations are counted. With what it ends, and when, can be read off its code. Its task goes
there step by step.

## Main definitions

- `ActivityCode.course`, `Code.course` — with what, and when, code ends that runs alone
- `WorkflowTask.Heads` — what a task is going to end with
- `WorkflowTask.Onward` — what a step of such a task leads to

## Main statements

- `WorkflowTask.Heads.onward` — a step leaves where the task is going as it is
- `WorkflowTask.Heads.stuck` — where a task without a step is going does not depend on the time

## Design notes

Times are absolute, so that a step of a task and time that passes do not change what the task is
going to end with.
-/

namespace Conformance

/-! ## The course of code -/

/-- With what an activity ends that runs alone from a time on, and when, and the latches that are
open then. An activity that waits for ever has no end. -/
def ActivityCode.course : ActivityCode → (now : Nat) → Signals → Option (Ending × Nat × Signals)
  | .done ending, now, s => some (ending, now, s)
  | .openLatch latch next, now, s => course next now (s.openLatch latch)
  | .awaitLatch latch next, now, s => if s.isOpen latch then course next now s else none
  | .sleep ms next, now, s => course next (now + ms) s
  | .readCounter counter next, now, s => course (next (s.count counter)) now s

/-- With what a workflow ends that runs alone on a worker from a time on, and when. -/
def Code.course : Code → (host : Worker) → (now : Nat) → Signals → Option (Ending × Nat)
  | .done ending, _, now, _ => some (ending, now)
  | .callActivity activityType args next, host, now, s =>
    match Server.activitiesFor host activityType with
    | none =>
      course (next (.error (.activity activityType ("activity type " ++ activityType
        ++ " is not registered on task queue " ++ host.taskQueue)))) host now s
    | some a =>
      let ordinal := host.invocations + 1
      ((a.invoke activityType args ordinal).course now s).bind fun (ending, now, s) =>
        course (next ending) { host with invocations := ordinal } now s
  | .awaitLatch latch next, host, now, s => if s.isOpen latch then course next host now s else none
  | .sleep ms next, host, now, s => course next host (now + ms) s

theorem ActivityCode.le_course {a : ActivityCode} {now time : Nat} {s s' : Signals} {e : Ending}
    (h : a.course now s = some (e, time, s')) : now ≤ time := by
  induction a generalizing now s with
  | done e =>
    cases h
    exact Nat.le_refl _
  | openLatch l next ih => exact ih h
  | awaitLatch l next ih =>
    unfold course at h
    split at h
    · exact ih h
    · cases h
  | sleep ms next ih => exact Nat.le_trans (Nat.le_add_right now ms) (ih h)
  | readCounter c next ih => exact ih _ h

theorem Code.le_course {c : Code} {host : Worker} {now time : Nat} {s : Signals} {e : Ending}
    (h : c.course host now s = some (e, time)) : now ≤ time := by
  induction c generalizing host now s with
  | done e =>
    cases h
    exact Nat.le_refl _
  | callActivity a args next ih =>
    unfold course at h
    split at h
    · exact ih _ h
    · obtain ⟨⟨e', now', s'⟩, hactivity, hrest⟩ := Option.bind_eq_some_iff.mp h
      exact Nat.le_trans (ActivityCode.le_course hactivity) (ih _ hrest)
  | awaitLatch l next ih =>
    unfold course at h
    split at h
    · exact ih h
    · cases h
  | sleep ms next ih => exact Nat.le_trans (Nat.le_add_right now ms) (ih h)

/-! ## The course of a task -/

/-- With what a task in a phase ends that runs alone; a task that has not begun is going to run the
code `start`. -/
def TaskPhase.course (start : Code) (host : Worker) (now : Nat) (s : Signals) :
    TaskPhase → Option (Ending × Nat)
  | .fresh => start.course host now s
  | .running c => c.course host now s
  | .inActivity _ a next =>
    (a.course now s).bind fun (ending, now, s) => (next ending).course host now s

theorem TaskPhase.le_course {start : Code} {host : Worker} {now time : Nat} {s : Signals}
    {p : TaskPhase} {e : Ending} (h : p.course start host now s = some (e, time)) : now ≤ time := by
  cases p with
  | fresh => exact Code.le_course (c := start) h
  | running c => exact Code.le_course (c := c) h
  | inActivity id a next =>
    obtain ⟨⟨e', now', s'⟩, hactivity, hrest⟩ := Option.bind_eq_some_iff.mp h
    exact Nat.le_trans (ActivityCode.le_course hactivity) (Code.le_course hrest)

namespace WorkflowTask

/-- What a task is going to end with that runs alone: it is awake, or sleeps until a time. -/
inductive Heads (start : Code) (host : Worker) (now : Nat) (s : Signals) (t : WorkflowTask) :
    Option (Ending × Nat) → Prop
  | awake (h : t.wake = none) : Heads start host now s t (t.phase.course start host now s)
  | asleep {p : TaskPhase} {time : Nat} (h : t.wake = some time) (hwakes : t.phase.Wakes p)
      (hle : now ≤ time) : Heads start host now s t (p.course start host time s)

section

variable {start : Code} {host : Worker} {now : Nat} {s : Signals} {t : WorkflowTask}
  {o : Option (Ending × Nat)}

theorem Heads.le (h : Heads start host now s t o) {e : Ending} {time : Nat}
    (ho : o = some (e, time)) : now ≤ time := by
  cases h with
  | awake _ => exact TaskPhase.le_course ho
  | asleep _ _ hle => exact Nat.le_trans hle (TaskPhase.le_course ho)

theorem Heads.timed (h : Heads start host now s t o) : t.Timed := by
  cases h with
  | awake hwake => exact timed_of_awake hwake
  | asleep _ hwakes _ => exact fun _ _ => ⟨_, hwakes⟩

end

end WorkflowTask

/-! ## Steps -/

theorem Server.worker?_modifyWorker {server : Server} {id : WorkerId} {w : Worker}
    (hw : server.worker? id = some w) (f : Worker → Worker) :
    (server.modifyWorker id f).worker? id = some (f w) := by
  have hget : server.workers[id]? = some w := hw
  show (server.workers.modify id f)[id]? = some (f w)
  rw [List.getElem?_modify, hget]
  simp

namespace WorkflowTask

/-- What a step of a task leads to that is going to end with `o`: a task of the same run that is
going to end with the same, or this end at this time. -/
inductive Onward (start : Code) (host : Worker) (now : Nat) (server : Server) (t : WorkflowTask)
    (o : Option (Ending × Nat)) : Server.TaskStep → Prop
  | goes_on {t' : WorkflowTask} {server' : Server} {s' : Signals} {host' : Worker}
      (hid : t'.workflowId = t.workflowId) (hworker : t'.worker = t.worker)
      (hhost : server'.worker? t.worker = some host') (hsame : host'.uncounted = host.uncounted)
      (hcompletions : server'.completions = server.completions)
      (hheads : t'.Heads start host' now s' o) :
      Onward start host now server t o ⟨some t', server', s'⟩
  | ends {e : Ending} {s' : Signals} (ho : o = some (e, now)) :
      Onward start host now server t o
        ⟨none, server.finish t.workflowId (Completion.ofEnding e), s'⟩

variable {start : Code} {host : Worker} {now : Nat} {server : Server} {s : Signals}
  {t : WorkflowTask} {o : Option (Ending × Nat)} {r : ExecutionRecord}

/-- A call leads into the activity, or to the next code if there is no such activity. -/
theorem onward_callActivity {a : String} {args : List Json} {next : Ending → Code}
    (hwake : t.wake = none) (hhost : server.worker? t.worker = some host)
    (hr : server.executions.get? t.workflowId = some r) :
    Onward start host now server t ((Code.callActivity a args next).course host now s)
      (server.callActivity s t a args next) := by
  have hscheduled : ∀ f, (server.modifyExecution t.workflowId f).worker? t.worker = some host :=
    fun _ => hhost
  unfold Server.callActivity Code.course
  rw [hr]
  dsimp only
  rw [hscheduled, Option.bind_some]
  cases hactivities : Server.activitiesFor host a with
  | none =>
    have hqueue : ∀ f, (server.modifyExecution t.workflowId f).queueOf t.worker = host.taskQueue := by
      intro f
      unfold Server.queueOf
      rw [hscheduled]
    dsimp only [Option.map_none]
    rw [hqueue]
    exact .goes_on rfl rfl hhost rfl rfl (.awake hwake)
  | some activities =>
    -- the worker counts the invocation, which makes no other difference to it
    exact .goes_on rfl rfl (Server.worker?_modifyWorker (hscheduled _) _) rfl rfl (.awake hwake)

theorem onward_running {id : String} {worker : WorkerId} {c : Code} {x : Server.TaskStep}
    (hhost : server.worker? worker = some host) (hr : server.executions.get? id = some r)
    (hstep : server.stepTask now s ⟨id, worker, .running c, none⟩ = some x) :
    Onward start host now server ⟨id, worker, .running c, none⟩ (c.course host now s) x := by
  unfold Server.stepTask at hstep
  cases c with
  | done e =>
    cases hstep
    exact .ends rfl
  | callActivity a args next =>
    cases hstep
    exact onward_callActivity rfl hhost hr
  | awaitLatch l next =>
    dsimp only at hstep
    split at hstep
    · rename_i hopen
      cases hstep
      have hcourse : (Code.awaitLatch l next).course host now s = next.course host now s :=
        if_pos hopen
      rw [hcourse]
      exact .goes_on rfl rfl hhost rfl rfl (.awake rfl)
    · cases hstep
  | sleep ms next =>
    cases hstep
    show Onward _ _ _ _ _ ((TaskPhase.running next).course start host (now + ms) s) _
    exact .goes_on rfl rfl hhost rfl rfl (.asleep rfl (.running ms next) (Nat.le_add_right ..))

theorem onward_inActivity {id : String} {worker : WorkerId} {scheduled : Int} {a : ActivityCode}
    {next : Ending → Code} {x : Server.TaskStep} (hhost : server.worker? worker = some host)
    (hstep : server.stepTask now s ⟨id, worker, .inActivity scheduled a next, none⟩ = some x) :
    Onward start host now server ⟨id, worker, .inActivity scheduled a next, none⟩
      ((TaskPhase.inActivity scheduled a next).course start host now s) x := by
  unfold Server.stepTask at hstep
  cases a with
  | done _ | openLatch _ _ | readCounter _ _ =>
    cases hstep
    exact .goes_on rfl rfl hhost rfl rfl (.awake rfl)
  | awaitLatch l a =>
    dsimp only at hstep
    split at hstep
    · rename_i hopen
      cases hstep
      have hcourse : (ActivityCode.awaitLatch l a).course now s = a.course now s := if_pos hopen
      show Onward _ _ _ _ _ (((ActivityCode.awaitLatch l a).course now s).bind _) _
      rw [hcourse]
      exact .goes_on rfl rfl hhost rfl rfl (.awake rfl)
    · cases hstep
  | sleep ms a =>
    cases hstep
    show Onward _ _ _ _ _
      ((TaskPhase.inActivity scheduled a next).course start host (now + ms) s) _
    exact .goes_on rfl rfl hhost rfl rfl
      (.asleep rfl (.inActivity scheduled ms a next) (Nat.le_add_right ..))

/-- A step of a task that runs alone leaves what the task is going to end with as it is. -/
theorem Heads.onward (h : Heads start host now s t o)
    (hhost : server.worker? t.worker = some host)
    (hr : server.executions.get? t.workflowId = some r)
    (hstart : t.phase = .fresh →
      ∃ f, host.workflow? r.workflowType = some f ∧ f.code false r.input = start)
    {x : Server.TaskStep} (hstep : server.stepTask now s t = some x) :
    Onward start host now server t o x := by
  cases h with
  | awake hwake =>
    obtain ⟨id, worker, phase, wake⟩ := t
    obtain rfl : wake = none := hwake
    cases phase with
    | fresh =>
      obtain ⟨f, hf, rfl⟩ := hstart rfl
      cases hstep
      unfold Server.begin
      rw [hr]
      dsimp only
      rw [hhost, Option.bind_some, hf]
      exact .goes_on rfl rfl hhost rfl rfl (.awake rfl)
    | running c => exact onward_running hhost hr hstep
    | inActivity scheduled a next => exact onward_inActivity hhost hstep
  | @asleep p time hwake hwakes hle =>
    rw [Server.stepTask_of_asleep hwake hwakes] at hstep
    split at hstep
    · rename_i hover
      cases hstep
      -- a task that wakes up does so at the very time it has noted
      obtain rfl : now = time := Nat.le_antisymm hle hover
      exact .goes_on rfl rfl hhost rfl rfl (.awake rfl)
    · cases hstep

/-- A task that is awake and has no step waits for ever. -/
theorem course_of_stuck (hwake : t.wake = none) (hstep : server.stepTask now s t = none)
    (now' : Nat) : t.phase.course start host now' s = none := by
  obtain ⟨id, worker, phase, wake⟩ := t
  obtain rfl : wake = none := hwake
  unfold Server.stepTask at hstep
  cases phase with
  | fresh => cases hstep
  | running c =>
    cases c with
    | done _ | callActivity _ _ _ | sleep _ _ => cases hstep
    | awaitLatch l next =>
      dsimp only at hstep
      split at hstep
      · cases hstep
      · exact if_neg ‹_›
  | inActivity scheduled a next =>
    cases a with
    | done _ | openLatch _ _ | sleep _ _ | readCounter _ _ => cases hstep
    | awaitLatch l a =>
      dsimp only at hstep
      split at hstep
      · cases hstep
      · have hcourse : (ActivityCode.awaitLatch l a).course now' s = none := if_neg ‹_›
        show ((ActivityCode.awaitLatch l a).course now' s).bind _ = none
        rw [hcourse]
        rfl

/-- A task that runs alone and has no step sleeps beyond the present, or waits for ever. Time that
passes up to the end of its sleep makes no difference to what it is going to end with. -/
theorem Heads.stuck (h : Heads start host now s t o) (hstep : server.stepTask now s t = none) :
    (∀ time, t.wake = some time → now < time) ∧
      ∀ now', (∀ time, t.wake = some time → now' ≤ time) → t.Heads start host now' s o := by
  cases h with
  | awake hwake =>
    refine ⟨fun time htime => (nomatch hwake.symm.trans htime), fun now' _ => ?_⟩
    rw [course_of_stuck hwake hstep now, ← course_of_stuck hwake hstep now']
    exact .awake hwake
  | @asleep p time hwake hwakes _ =>
    rw [Server.stepTask_of_asleep hwake hwakes] at hstep
    have hlt : now < time := by
      by_contra hover
      rw [if_pos (Nat.le_of_not_lt hover)] at hstep
      cases hstep
    refine ⟨fun time' htime => ?_, fun now' hle => .asleep hwake hwakes (hle time hwake)⟩
    cases hwake.symm.trans htime
    exact hlt

end WorkflowTask

end Conformance
