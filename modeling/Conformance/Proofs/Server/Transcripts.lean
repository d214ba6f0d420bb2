import Conformance.Proofs.Replay.Agreement

/-!
# What the code of a run is told

The code of a workflow is told the outcomes of its activities while the server goes from step to
step. The transcript of a workflow id keeps them: it is extended by the steps of the tasks of this
id, and only by these. Once the code of a run has begun, and as long as the run is not replaced by
another one of the same id, the record of the run is the record of its transcript.

## Main definitions

- `Server.Transcript`, `Server.Transcript.step` — the calls of a run, and what one step adds
- `Server.Heard` — a run of a server with the transcript of a workflow id
- `Server.Keeps` — a record and the phase of a task are what the transcript makes of them

## Main statements

- `Server.Run.exists_heard` — every run of a server has a transcript
- `Server.Keeps.step` — a step of the task keeps the record and the transcript together
- `Server.keeps_of_begins` — so they are together after everything else that happens
-/

namespace Conformance

/-- The next step of the task tells something: it makes a call, or an activity has ended. -/
def TaskPhase.tells : TaskPhase → Bool
  | .running (.callActivity ..) => true
  | .inActivity _ (.done _) _ => true
  | _ => false

theorem TaskPhase.tells_iff {p : TaskPhase} : p.tells = true ↔
    (∃ a args next, p = .running (.callActivity a args next)) ∨
      ∃ id e next, p = .inActivity id (.done e) next := by
  unfold TaskPhase.tells
  split <;> simp_all

namespace Server

/-! ## Transcripts -/

/-- The calls of a run with what the code was told, and the call that is not answered yet. -/
structure Transcript where
  calls : List ActivityCall := []
  pending : Option (String × List Json) := none

/-- Whether the worker of a task implements an activity type. -/
def implements (s : Server) (t : WorkflowTask) (activityType : String) : Bool :=
  ((s.worker? t.worker).bind fun w => activitiesFor w activityType).isSome

/-- What the code is told of an activity that its worker does not implement. -/
def refusal (s : Server) (t : WorkflowTask) (activityType : String) : Ending :=
  .error (.activity activityType ("activity type " ++ activityType
    ++ " is not registered on task queue " ++ s.queueOf t.worker))

/-- What the next step of a task adds. A call is answered at once if the worker does not implement
the activity, and otherwise with what the activity ends with. -/
def Transcript.step (x : Transcript) (s : Server) (t : WorkflowTask) : Transcript :=
  match t.phase with
  | .running (.callActivity activityType args _) =>
    if s.implements t activityType then { x with pending := some (activityType, args) }
    else { x with calls := x.calls ++ [⟨activityType, args, s.refusal t activityType⟩] }
  | .inActivity _ (.done ending) _ =>
    match x.pending with
    | some (activityType, args) => ⟨x.calls ++ [⟨activityType, args, ending⟩], none⟩
    | none => x
  | _ => x

theorem Transcript.step_of_not_tells {x : Transcript} {s : Server} {t : WorkflowTask}
    (h : t.phase.tells = false) : x.step s t = x := by
  unfold Transcript.step
  split
  · simp_all [TaskPhase.tells]
  · simp_all [TaskPhase.tells]
  · rfl

/-- `Heard s₀ id log s x` says that something led from `s₀` to `s`, with the requests and answers
of `log`, and that `x` is what the code of the workflow id was told meanwhile. -/
inductive Heard (s₀ : Server) (id : String) : List Exchange → Server → Transcript → Prop
  | start : Heard s₀ id [] s₀ {}
  | serve {log : List Exchange} {s : Server} {x : Transcript} (h : Heard s₀ id log s x)
      (q : Request) : Heard s₀ id (log ++ [⟨q, (s.serve q).1⟩]) (s.serve q).2 x
  | task {log : List Exchange} {s s' : Server} {x : Transcript} {now i : Nat}
      {signals signals' : Signals} {t : WorkflowTask} (h : Heard s₀ id log s x)
      (ht : s.tasks[i]? = some t) (hstep : s.step? now signals i = some (s', signals')) :
      Heard s₀ id log s' (if t.workflowId = id then x.step s t else x)
  | letThrough {log : List Exchange} {s : Server} {x : Transcript} (h : Heard s₀ id log s x)
      (latch : SignalId) : Heard s₀ id log (s.letThrough latch) x

theorem Heard.run {s₀ s : Server} {id : String} {log : List Exchange} {x : Transcript}
    (h : Heard s₀ id log s x) : Run s₀ log s := by
  induction h with
  | start => exact .start
  | serve _ q ih => exact ih.serve q
  | task _ _ hstep ih => exact ih.task hstep
  | letThrough _ latch ih => exact ih.letThrough latch

/-- Whatever happens at a server, every workflow id has a transcript of it. -/
theorem Run.exists_heard {s₀ s : Server} {log : List Exchange} (h : Run s₀ log s) (id : String) :
    ∃ x, Heard s₀ id log s x := by
  induction h with
  | start => exact ⟨_, .start⟩
  | serve _ q ih =>
    obtain ⟨x, hx⟩ := ih
    exact ⟨x, hx.serve q⟩
  | @task log s s' now i signals signals' _ hstep ih =>
    obtain ⟨x, hx⟩ := ih
    cases ht : s.tasks[i]? with
    | none => simp [step?, ht] at hstep
    | some t => exact ⟨_, hx.task ht hstep⟩
  | letThrough _ latch ih =>
    obtain ⟨x, hx⟩ := ih
    exact ⟨x, hx.letThrough latch⟩

/-! ## Transcripts and records -/

/-- `Keeps c r₀ x p r` says that the record `r` and the phase `p` of the task are what the code `c`
makes of the record `r₀` when it makes the calls of the transcript `x` and is told their
outcomes. -/
inductive Keeps (c : Code) (r₀ : ExecutionRecord) :
    Transcript → Option TaskPhase → ExecutionRecord → Prop
  | running (calls : List ActivityCall) (c' : Code) (h : c.Leads calls c') :
      Keeps c r₀ ⟨calls, none⟩ (some (.running c')) (r₀.afterCalls calls)
  | inActivity (calls : List ActivityCall) (a : String) (args : List Json)
      (next : Ending → Code) (act : ActivityCode)
      (h : c.Leads calls (.callActivity a args next)) :
      Keeps c r₀ ⟨calls, some (a, args)⟩
        (some (.inActivity (r₀.afterCalls calls).nextId act next))
        ((r₀.afterCalls calls).schedule a args)
  | finished (calls : List ActivityCall) (e : Ending) (h : c.Leads calls (.done e)) :
      Keeps c r₀ ⟨calls, none⟩ none ((r₀.afterCalls calls).finish (Completion.ofEnding e))

section

variable {c : Code} {r₀ r : ExecutionRecord} {x : Transcript} {p : Option TaskPhase}

theorem Keeps.follows (h : Keeps c r₀ x p r) : Follows c r₀ p r := by
  cases h with
  | running calls c' h => exact .running calls c' h
  | inActivity calls a args next act h => exact .inActivity calls a args next act _ rfl h
  | finished calls e h => exact .finished calls e h

/-- The code was told what the transcript says. -/
theorem Keeps.leads (h : Keeps c r₀ x p r) : ∃ c', c.Leads x.calls c' := by
  cases h with
  | running calls c' h => exact ⟨c', h⟩
  | inActivity calls a args next act h => exact ⟨_, h⟩
  | finished calls e h => exact ⟨_, h⟩

/-- The history holds the calls of the transcript, and perhaps one that is not answered yet. -/
theorem Keeps.activities (h : Keeps c r₀ x p r) (h₀ : r₀.gathered.activities = []) :
    ∃ rest, r.history.activities = x.calls.map ActivityCall.recorded ++ rest := by
  cases h with
  | running calls c' h =>
    refine ⟨[], ?_⟩
    rw [List.append_nil]
    exact (r₀.activities_afterCalls calls).trans (by rw [h₀, List.nil_append])
  | inActivity calls a args next act h =>
    refine ⟨[⟨a, none⟩], ?_⟩
    have hscheduled := ((r₀.afterCalls calls).gathered_schedule a args).1
    rw [r₀.activities_afterCalls calls, h₀, List.nil_append] at hscheduled
    exact hscheduled
  | finished calls e h =>
    refine ⟨[], ?_⟩
    have hfinished := (r₀.afterCalls calls).activities_finish (Completion.ofEnding e)
    rw [r₀.activities_afterCalls calls, h₀, List.nil_append] at hfinished
    rw [List.append_nil]
    exact hfinished

/-- An outcome that the code is told is that of its last call. -/
theorem Keeps.answered {calls : List ActivityCall} {a : String} {args : List Json}
    {next : Ending → Code} (h : c.Leads calls (.callActivity a args next)) (e : Ending) :
    Keeps c r₀ ⟨calls ++ [⟨a, args, e⟩], none⟩ (some (.running (next e)))
      (((r₀.afterCalls calls).schedule a args).close (r₀.afterCalls calls).nextId e) := by
  have hkeeps : Keeps c r₀ ⟨calls ++ [⟨a, args, e⟩], none⟩ (some (.running (next e)))
      (r₀.afterCalls (calls ++ [⟨a, args, e⟩])) := .running _ _ (h.snoc e)
  rwa [ExecutionRecord.afterCalls_snoc] at hkeeps

variable {s s' : Server} {t : WorkflowTask}

/-- A call of the code is scheduled, and the activity begins if the worker implements it. -/
theorem callActivity_of_implements (signals : Signals) {a : String}
    (hr : s.executions.get? t.workflowId = some r) (himplements : s.implements t a = true)
    (args : List Json) (next : Ending → Code) :
    ∃ act, (s.callActivity signals t a args next).task.map (·.phase) =
        some (.inActivity r.nextId act next) ∧
      Rewrites s (s.callActivity signals t a args next).server t.workflowId
        (r.schedule a args) := by
  obtain ⟨activities, hactivities⟩ := Option.isSome_iff_exists.1 himplements
  obtain ⟨w, hw, hactivities⟩ := Option.bind_eq_some_iff.1 hactivities
  have hfound : ((s.modifyExecution t.workflowId fun r => r.schedule a args).worker?
      t.worker).bind (fun w => (activitiesFor w a).map (w, ·)) = some (w, activities) := by
    have : (s.modifyExecution t.workflowId fun r => r.schedule a args).worker? t.worker =
        some w := hw
    simp [this, hactivities]
  unfold callActivity
  simp only [hr, hfound, Option.map_some]
  exact ⟨_, rfl, rewrites_modifyExecution hr _⟩

/-- A call of an activity that the worker does not implement is scheduled and refused. -/
theorem callActivity_of_not_implements (signals : Signals) {a : String}
    (hr : s.executions.get? t.workflowId = some r) (himplements : s.implements t a = false)
    (args : List Json) (next : Ending → Code) :
    (s.callActivity signals t a args next).task.map (·.phase) =
        some (.running (next (s.refusal t a))) ∧
      Rewrites s (s.callActivity signals t a args next).server t.workflowId
        ((r.schedule a args).close r.nextId (s.refusal t a)) := by
  have hnone : ((s.modifyExecution t.workflowId fun r => r.schedule a args).worker?
      t.worker).bind (fun w => (activitiesFor w a).map (w, ·)) = none := by
    have hsame : (s.modifyExecution t.workflowId fun r => r.schedule a args).worker? t.worker =
        s.worker? t.worker := rfl
    rw [hsame]
    simp only [implements, Option.isSome_eq_false_iff, Option.isNone_iff_eq_none,
      Option.bind_eq_none_iff] at himplements
    simp only [Option.bind_eq_none_iff, Option.map_eq_none_iff]
    exact himplements
  have hscheduled := rewrites_modifyExecution hr fun r => r.schedule a args
  have hself := hscheduled t.workflowId
  rw [if_pos rfl] at hself
  unfold callActivity
  simp only [hr, hnone, Option.map_some]
  refine ⟨rfl, ?_⟩
  intro id
  rw [closeActivity, rewrites_modifyExecution hself _ id, hscheduled id]
  by_cases h : t.workflowId = id
  · rw [if_pos h, if_pos h]
    rfl
  · rw [if_neg h, if_neg h, if_neg h]

/-- A task that goes on in silence keeps what was told. -/
theorem Keeps.silent {q q' : TaskPhase} (h : Keeps c r₀ x (some q) r) (hq : Silent q q') :
    Keeps c r₀ x (some q') r := by
  cases hq with
  | refl _ => exact h
  | latch l next =>
    cases h with
    | running calls _ hleads => exact .running calls _ (hleads.silent (.latch l (.refl _)))
  | sleep ms next =>
    cases h with
    | running calls _ hleads => exact .running calls _ (hleads.silent (.sleep ms (.refl _)))
  | activity id act act' next =>
    cases h with
    | inActivity calls a args _ _ hleads => exact .inActivity calls a args next act' hleads

/-- A step of the task keeps the record and the transcript together. -/
theorem Keeps.step {now : Nat} {signals signals' : Signals} {t' : Option WorkflowTask}
    (h : Keeps c r₀ x (some t.phase) r) (hr : s.executions.get? t.workflowId = some r)
    (hstep : s.stepTask now signals t = some ⟨t', s', signals'⟩) :
    ∃ r', Keeps c r₀ (x.step s t) (t'.map (·.phase)) r' ∧ Rewrites s s' t.workflowId r' := by
  cases htells : t.phase.tells with
  | false =>
    rw [Transcript.step_of_not_tells htells]
    cases stepTask_cases hstep with
    | begin hp =>
      rw [hp] at h
      cases h
    | finish e hp =>
      rw [hp] at h
      cases h with
      | running calls c' hleads => exact ⟨_, .finished calls e hleads, rewrites_finish hr _⟩
    | call a args next hp => simp [hp, TaskPhase.tells] at htells
    | close id e next hp => simp [hp, TaskPhase.tells] at htells
    | still q wake hq => exact ⟨r, h.silent hq, rewrites_self hr⟩
  | true =>
    obtain ⟨a, args, next, hp⟩ | ⟨id, e, next, hp⟩ := TaskPhase.tells_iff.1 htells
    · have hcall : s.callActivity signals t a args next = ⟨t', s', signals'⟩ := by
        simpa [stepTask, hp] using hstep
      rw [hp] at h
      cases h with
      | running calls c' hleads =>
        simp only [Transcript.step, hp]
        cases himplements : s.implements t a with
        | true =>
          obtain ⟨act, hphase, hrewrites⟩ :=
            callActivity_of_implements signals (a := a) hr himplements args next
          rw [hcall] at hphase hrewrites
          rw [hphase]
          exact ⟨_, .inActivity calls a args next act hleads, hrewrites⟩
        | false =>
          obtain ⟨hphase, hrewrites⟩ :=
            callActivity_of_not_implements signals (a := a) hr himplements args next
          rw [hcall] at hphase hrewrites
          rw [hphase]
          exact ⟨_, .answered hleads _, hrewrites⟩
    · have hclose : (⟨some { t with phase := .running (next e) },
          s.closeActivity t.workflowId id e, signals⟩ : TaskStep) = ⟨t', s', signals'⟩ := by
        simpa [stepTask, hp] using hstep
      cases hclose
      rw [hp] at h
      cases h with
      | inActivity calls a args _ _ hleads =>
        simp only [Transcript.step, hp]
        exact ⟨_, .answered hleads e, rewrites_modifyExecution hr _⟩

end

/-! ## Everything else that happens -/

section

variable {c : Code} {r₀ r : ExecutionRecord} {x : Transcript} {p : Option TaskPhase}
  {s s' : Server} {id : String}

/-- A record that has ended has no task, so only the task of one that goes on has to be found. -/
theorem Keeps.inPhase (h : Keeps c r₀ x p r) (h₀ : r₀.status = .running)
    (haccounted : Accounted s) (hr : s.executions.get? id = some r)
    (htask : ∀ q, p = some q → ∃ t ∈ s.tasks, t.workflowId = id ∧ t.phase = q) :
    InPhase s id p := by
  cases p with
  | some q =>
    obtain ⟨t, ht, hid, rfl⟩ := htask q rfl
    exact .busy t ht hid
  | none =>
    apply InPhase.idle
    intro hmem
    obtain ⟨-, hsome⟩ | ⟨hended, -⟩ := h.follows.status h₀
    · cases hsome
    · apply haccounted.runs id hmem
      rw [runningOn_eq_none_iff]
      intro r' hr'
      rw [hr] at hr'
      cases hr'
      exact hended

/-- What is seen stays as it is if the record does and the task is still there. -/
theorem Keeps.seen (h : Keeps c r₀ x p r) (h₀ : r₀.status = .running)
    (haccounted : Accounted s') (hseen : Seen s id p r) (hr : s'.executions.get? id = some r)
    (htasks : ∀ t ∈ s.tasks, t.workflowId = id → t ∈ s'.tasks) : Seen s' id p r := by
  refine ⟨hr, h.inPhase h₀ haccounted hr ?_⟩
  rintro q rfl
  cases hseen.2 with
  | busy t ht hid => exact ⟨t, htasks t ht hid, hid, rfl⟩

theorem Served.tasks_subset {q : Exchange} (h : Served s q s') : s.tasks ⊆ s'.tasks := by
  cases h with
  | quiet _ hquiet =>
    rw [hquiet.tasks]
    exact List.Subset.refl _
  | accept target ns workflowType options args _ =>
    obtain ⟨tasks, htasks, -⟩ :=
      tasks_accept s target ns workflowType options args (s.nextRun options)
    rw [htasks]
    exact List.subset_append_left ..
  | attach target worker =>
    cases hw : s.worker? worker with
    | none =>
      rw [Server.attach, hw]
      exact List.Subset.refl _
    | some w =>
      rw [tasks_attach hw target]
      exact List.subset_append_left ..
  | detach worker =>
    rw [detach_eq]
    exact List.Subset.refl _

/-- A request leaves a record as it is, or makes the record of a new run. -/
theorem Served.executions {q : Exchange} (h : Served s q s')
    (hr : s'.executions.get? id = some r) :
    s.executions.get? id = some r ∨ ∃ options, r.execution = s.nextRun options := by
  cases h with
  | quiet _ hquiet =>
    rw [hquiet.executions] at hr
    exact .inl hr
  | accept target ns workflowType options args _ =>
    rw [executions_accept] at hr
    by_cases hid : (s.nextRun options).workflowId = id
    · rw [if_pos hid] at hr
      cases hr
      exact .inr ⟨options, rfl⟩
    · rw [if_neg hid] at hr
      exact .inl hr
  | attach target worker =>
    rw [(executions_attach s target worker).1] at hr
    exact .inl hr
  | detach worker =>
    rw [detach_eq] at hr
    exact .inl hr

/-- The step of a server is the step of a task, and the others stay. -/
theorem stepTask_of_step? {now i : Nat} {signals signals' : Signals} {t : WorkflowTask}
    (ht : s.tasks[i]? = some t) (hstep : s.step? now signals i = some (s', signals')) :
    ∃ t' s₁, s.stepTask now signals t = some ⟨t', s₁, signals'⟩ ∧
      s'.executions = s₁.executions ∧
      (∀ u, t' = some u → u ∈ s'.tasks) ∧
      ∀ u ∈ s.tasks, u.workflowId ≠ t.workflowId → u ∈ s'.tasks := by
  unfold step? at hstep
  rw [ht] at hstep
  cases htask : s.stepTask now signals t with
  | none => simp [htask] at hstep
  | some next =>
    obtain ⟨t', s₁, signals₁⟩ := next
    simp only [htask, Option.some.injEq, Prod.mk.injEq] at hstep
    obtain ⟨rfl, rfl⟩ := hstep
    have hmem : ∀ u, u ∈ arranged now (opens signals t) (s.tasks.take i) t'
        (s.tasks.drop (i + 1)) ↔ u ∈ t'.toList ++ (s.tasks.take i ++ s.tasks.drop (i + 1)) :=
      fun u => (arranged_perm ..).mem_iff
    refine ⟨t', s₁, rfl, rfl, ?_, ?_⟩
    · rintro u rfl
      exact (hmem u).2 (by simp)
    · intro u hu hne
      rw [eq_take_append_drop ht] at hu
      have hother : u ≠ t := by
        rintro rfl
        exact hne rfl
      apply (hmem u).2
      simp only [List.mem_append, List.mem_cons] at hu ⊢
      obtain hu | rfl | hu := hu
      · exact .inr (.inl hu)
      · exact absurd rfl hother
      · exact .inr (.inr hu)

end

/-- The record of the workflow id is that of the transcript, unless it is the record of another run
than that of `r₀`. -/
def InStep (c : Code) (r₀ : ExecutionRecord) (id : String) (s : Server) (x : Transcript) : Prop :=
  ∀ r, s.executions.get? id = some r → r.execution = r₀.execution →
    ∃ p, Seen s id p r ∧ Keeps c r₀ x p r

section

variable {c : Code} {r₀ : ExecutionRecord} {id : String} {s s' : Server} {x : Transcript}
  (h : InStep c r₀ id s x) (h₀ : r₀.status = .running) (haccounted' : Accounted s')
include h h₀ haccounted'

/-- No request touches the transcript. A new run has a number that has not been given out. -/
theorem InStep.serve {q : Exchange} (hserved : Served s q s')
    (hnumber : ∃ n, n ≤ s.starts ∧ r₀.execution.runId = runIdOf n) : InStep c r₀ id s' x := by
  intro r hr hsame
  obtain hold | ⟨options, hnew⟩ := hserved.executions hr
  · obtain ⟨p, hseen, hkeeps⟩ := h r hold hsame
    exact ⟨p, hkeeps.seen h₀ haccounted' hseen hr fun t ht _ => hserved.tasks_subset ht, hkeeps⟩
  · obtain ⟨n, hn, hid⟩ := hnumber
    have hfresh : runIdOf (s.starts + 1) = runIdOf n := by
      rw [← hid, ← hsame, hnew]
      rfl
    have hlater := runIdOf_inj hfresh
    omega

/-- A step of the own task is told to the transcript, and a step of another one leaves it. -/
theorem InStep.task {now i : Nat} {signals signals' : Signals} {t : WorkflowTask}
    (haccounted : Accounted s) (ht : s.tasks[i]? = some t)
    (hstep : s.step? now signals i = some (s', signals')) :
    InStep c r₀ id s' (if t.workflowId = id then x.step s t else x) := by
  intro r hr hsame
  have hmem : t ∈ s.tasks := List.mem_of_getElem? ht
  obtain ⟨t', s₁, htask, hexecutions, hleft, hothers⟩ := stepTask_of_step? ht hstep
  obtain ⟨r₁, hr₁⟩ := haccounted.found hmem
  obtain ⟨r₂, hmove, hrewrites⟩ := (stepTask_cases htask).move hr₁
  have hr₂ := hrewrites id
  rw [← hexecutions, hr] at hr₂
  by_cases hown : t.workflowId = id
  · subst hown
    rw [if_pos rfl] at hr₂ ⊢
    cases hr₂
    obtain ⟨p, hseen, hkeeps⟩ := h r₁ hr₁ (hmove.sameRun.execution.symm.trans hsame)
    obtain rfl := haccounted.phase_unique hseen.2 (.busy t hmem rfl)
    obtain ⟨r₃, hkeeps', hrewrites'⟩ := hkeeps.step hr₁ htask
    have hr₃ := hrewrites' t.workflowId
    rw [if_pos rfl, ← hexecutions, hr] at hr₃
    cases hr₃
    refine ⟨_, ⟨hr, hkeeps'.inPhase h₀ haccounted' hr ?_⟩, hkeeps'⟩
    intro q hq
    obtain ⟨u, rfl, rfl⟩ := Option.map_eq_some_iff.1 hq
    exact ⟨u, hleft u rfl, (stepTask_cases htask).same_task.1, rfl⟩
  · rw [if_neg hown] at hr₂ ⊢
    obtain ⟨p, hseen, hkeeps⟩ := h r hr₂.symm hsame
    refine ⟨p, hkeeps.seen h₀ haccounted' hseen hr ?_, hkeeps⟩
    rintro u hu rfl
    exact hothers u hu (Ne.symm hown)

omit haccounted' in
theorem InStep.letThrough {latch : SignalId} (haccounted' : Accounted (s.letThrough latch)) :
    InStep c r₀ id (s.letThrough latch) x := by
  intro r hr hsame
  obtain ⟨p, hseen, hkeeps⟩ := h r hr hsame
  refine ⟨p, hkeeps.seen h₀ haccounted' hseen hr ?_, hkeeps⟩
  intro t ht _
  exact (tasks_letThrough s latch).mem_iff.2 ht

end

/-- From the step on with which its code begins to run, and as long as no other run of the workflow
id is started, the record of a run is that of its transcript. -/
theorem keeps_of_begins {s₀ s s₁ s' : Server} {log log' : List Exchange} (h₀ : Fresh s₀)
    (h : Run s₀ log s) {r : ExecutionRecord} {f : Workflow} (hbegins : Begins s s₁ r f)
    {x : Transcript} (h' : Heard s₁ r.execution.workflowId log' s' x) :
    InStep (f.code false r.input) r r.execution.workflowId s' x := by
  obtain ⟨id, hseen, hseen₁⟩ := hbegins.seen
  obtain ⟨now, i, signals, signals', t, hstep, -⟩ := hbegins
  have h₁ : Run s₀ log s₁ := h.task hstep
  have hrunning : r.status = .running := (opening_of_fresh h₀ h hseen).status
  have hnumbered := numbered_of_run h₀ h₁
  obtain ⟨n, hn, hnumber⟩ := hnumbered.numbered id r hseen₁.1
  have hid : r.execution.workflowId = id := hnumbered.named id r hseen₁.1
  rw [hid] at h' ⊢
  clear hid
  induction h' with
  | start =>
    -- at first the code has made no call
    intro r' hr' _
    rw [hseen₁.1] at hr'
    cases hr'
    exact ⟨_, hseen₁, .running [] _ (.refl _)⟩
  | serve hheard q ih =>
    have haccounted := accounted_of_run h₀ ((h₁.trans hheard.run).serve q)
    have hle := hheard.run.starts_le
    exact ih.serve hrunning haccounted (serve_cases _ q) ⟨n, Nat.le_trans hn hle, hnumber⟩
  | task hheard ht hstep ih =>
    have haccounted := accounted_of_run h₀ (h₁.trans hheard.run)
    exact ih.task hrunning (haccounted.step? hstep) haccounted ht hstep
  | letThrough hheard latch ih =>
    exact ih.letThrough hrunning (accounted_of_run h₀ ((h₁.trans hheard.run).letThrough latch))

end Server

end Conformance
