import Conformance.Proofs.Server.Numbering

/-!
# What a step can do to one run

A run is seen at a server with the phase of its task, or without one. One step of the server does
one of four things to what is seen of a workflow id: nothing, it hands the run to a worker, it
starts another run, or it makes a move of the task. What is to be shown of every run is shown of
these four.

## Main definitions

- `Server.Seen` — what is seen of a workflow id
- `Server.Turn` — what a step can do to it

## Main statements

- `Server.seen_exists` — every record is seen
- `Server.Run.seen_induction` — what every turn keeps holds of everything that is seen
-/

namespace Conformance.Server

/-! ## What is seen of a workflow id -/

/-- The phase of the task of a workflow id, or that there is no task. -/
inductive InPhase (s : Server) (id : String) : Option TaskPhase → Prop
  | idle (h : id ∉ s.underWay) : InPhase s id none
  | busy (t : WorkflowTask) (ht : t ∈ s.tasks) (hid : t.workflowId = id) :
      InPhase s id (some t.phase)

/-- What is seen of a workflow id: the record of its latest run, and the phase of its task. -/
def Seen (s : Server) (id : String) (p : Option TaskPhase) (r : ExecutionRecord) : Prop :=
  s.executions.get? id = some r ∧ InPhase s id p

/-- Every record is seen. -/
theorem seen_exists {s : Server} {id : String} {r : ExecutionRecord}
    (hr : s.executions.get? id = some r) : ∃ p, Seen s id p r := by
  by_cases h : id ∈ s.underWay
  · obtain ⟨t, ht, hid⟩ := List.mem_map.mp h
    exact ⟨_, hr, .busy t ht hid⟩
  · exact ⟨_, hr, .idle h⟩

/-- What a step can do to what is seen of a workflow id. Runs are started by requests; the step
was one if there is an exchange. -/
inductive Turn (s : Server) (x : Option Exchange) (id : String) :
    Option TaskPhase → ExecutionRecord → Prop
  | same {p : Option TaskPhase} {r : ExecutionRecord} (h : Seen s id p r) : Turn s x id p r
  | handed {r : ExecutionRecord} (h : Seen s id none r) (hr : r.status = .running) :
      Turn s x id (some .fresh) r
  | started {p : Option TaskPhase} (target : String) (ns : Option String) (workflowType : String)
      (options : WorkflowOptions) (args : List Json)
      (hx : x = some ⟨.startWorkflow target ns workflowType options args,
        .ok (s.nextRun options)⟩)
      (hid : (s.nextRun options).workflowId = id) (hp : p = none ∨ p = some .fresh) :
      Turn s x id p (newRecord (s.nextRun options) workflowType options args)
  | moved {t : WorkflowTask} {r : ExecutionRecord} {p : Option TaskPhase} {r' : ExecutionRecord}
      (h : Seen s id (some t.phase) r) (hmove : Move s t r p r') : Turn s x id p r'

/-! ## Every step is a turn -/

theorem InPhase.of_perm {s s' : Server} {id : String} {p : Option TaskPhase}
    (h : InPhase s' id p) (hperm : s'.tasks.Perm s.tasks) : InPhase s id p := by
  have hunderWay : s'.underWay.Perm s.underWay := hperm.map _
  cases h with
  | idle hnot => exact .idle fun hmem => hnot (hunderWay.mem_iff.mpr hmem)
  | busy t ht hid => exact .busy t (hperm.mem_iff.mp ht) hid

/-- Tasks that come in are fresh, and are those of workflows without a task. -/
theorem InPhase.of_append {s s' : Server} {id : String} {p : Option TaskPhase}
    (h : InPhase s' id p) {tasks : List WorkflowTask} (htasks : s'.tasks = s.tasks ++ tasks)
    (hfresh : ∀ t ∈ tasks, t.phase = .fresh) :
    InPhase s id p ∨ p = some .fresh ∧ ∃ t ∈ tasks, t.workflowId = id := by
  cases h with
  | idle hnot =>
    refine Or.inl (.idle fun hmem => hnot ?_)
    rw [underWay, htasks, List.map_append]
    exact List.mem_append_left _ hmem
  | busy t ht hid =>
    rw [htasks] at ht
    rcases List.mem_append.mp ht with ht | ht
    · exact Or.inl (.busy t ht hid)
    · exact Or.inr ⟨congrArg some (hfresh t ht), t, ht, hid⟩

section

variable {s : Server} {id : String} {p : Option TaskPhase} {r : ExecutionRecord}

theorem tasks_accept (s : Server) (target : String) (ns : Option String) (workflowType : String)
    (options : WorkflowOptions) (args : List Json) (e : Execution) :
    ∃ tasks, (s.accept target ns workflowType options args e).tasks = s.tasks ++ tasks ∧
      ∀ t ∈ tasks, t.phase = .fresh ∧ t.workflowId = e.workflowId := by
  unfold accept dispatch
  split
  · rename_i worker _
    refine ⟨[{ workflowId := e.workflowId, worker }], rfl, ?_⟩
    intro t ht
    rw [List.mem_singleton.mp ht]
    exact ⟨rfl, rfl⟩
  · exact ⟨[], (List.append_nil _).symm, fun t ht => nomatch ht⟩

theorem Accounted.turn_accept (haccounted : Accounted s) (target : String) (ns : Option String)
    (workflowType : String) (options : WorkflowOptions) (args : List Json)
    (hidle : s.runningOn (s.nextRun options).workflowId = none)
    (h : Seen (s.accept target ns workflowType options args (s.nextRun options)) id p r) :
    Turn s (some ⟨.startWorkflow target ns workflowType options args, .ok (s.nextRun options)⟩)
      id p r := by
  obtain ⟨hr, hp⟩ := h
  obtain ⟨tasks, htasks, hfresh⟩ :=
    tasks_accept s target ns workflowType options args (s.nextRun options)
  rw [executions_accept] at hr
  have hphase := hp.of_append htasks fun t ht => (hfresh t ht).1
  by_cases hid : (s.nextRun options).workflowId = id
  · rw [if_pos hid] at hr
    cases hr
    refine .started target ns workflowType options args rfl hid ?_
    rcases hphase with hphase | ⟨hphase, -⟩
    · cases hphase with
      | idle _ => exact Or.inl rfl
      | busy t ht hid' =>
        -- a workflow id with a task has a run that goes on
        have hmem : (s.nextRun options).workflowId ∈ s.underWay := by
          rw [hid, ← hid']
          exact List.mem_map_of_mem ht
        exact absurd hmem (haccounted.not_idle hidle).2
    · exact Or.inr hphase
  · rw [if_neg hid] at hr
    rcases hphase with hphase | ⟨-, t, ht, hid'⟩
    · exact .same ⟨hr, hphase⟩
    · exact absurd ((hfresh t ht).2.symm.trans hid') hid

theorem Accounted.turn_attach (haccounted : Accounted s) {x : Option Exchange} (target : String)
    (worker : WorkerId) (h : Seen (s.attach target worker) id p r) : Turn s x id p r := by
  obtain ⟨hr, hp⟩ := h
  rw [(executions_attach s target worker).1] at hr
  cases hw : s.worker? worker with
  | none =>
    rw [Server.attach, hw] at hp
    exact .same ⟨hr, hp⟩
  | some w =>
    have hfresh : ∀ t ∈ (s.waiting w.taskQueue).map
        fun workflowId => ({ workflowId, worker } : WorkflowTask), t.phase = .fresh := by
      intro t ht
      obtain ⟨workflowId, -, rfl⟩ := List.mem_map.mp ht
      rfl
    rcases hp.of_append (tasks_attach hw target) hfresh with hp | ⟨rfl, t, ht, hid⟩
    · exact .same ⟨hr, hp⟩
    · obtain ⟨workflowId, hwait, rfl⟩ := List.mem_map.mp ht
      cases hid
      obtain ⟨r', hr', hrunning, -⟩ :=
        runningOn_eq_some_iff.mp (haccounted.waits _ workflowId hwait)
      rw [hr] at hr'
      cases hr'
      exact .handed ⟨hr, .idle (haccounted.waits_alone _ workflowId hwait)⟩ hrunning

theorem Accounted.turn_serve {s' : Server} (haccounted : Accounted s) {x : Exchange}
    (hx : Served s x s') (h : Seen s' id p r) : Turn s (some x) id p r := by
  cases hx with
  | quiet _ hquiet =>
    obtain ⟨hr, hp⟩ := h
    rw [hquiet.executions] at hr
    refine .same ⟨hr, hp.of_perm ?_⟩
    rw [hquiet.tasks]
  | accept target ns workflowType options args hidle =>
    exact haccounted.turn_accept target ns workflowType options args
      (runningOn_eq_none_iff.mpr hidle) h
  | attach target worker => exact haccounted.turn_attach target worker h
  | detach worker =>
    rw [detach_eq] at h
    exact .same ⟨h.1, h.2.of_perm (.refl _)⟩

/-- After a move the run is seen with the task that the move has left. -/
theorem TaskMove.phase_eq {s' : Server} {t : WorkflowTask} {t' : Option WorkflowTask}
    {r₁ r₁' : ExecutionRecord} {rest : List WorkflowTask}
    (hstep : TaskMove s s' t t' r₁ r₁' rest) (honce : s.underWay.Nodup)
    (hp : InPhase s' t.workflowId p) : p = t'.map (·.phase) := by
  have hbefore : s.underWay.Perm (t.workflowId :: rest.map (·.workflowId)) := hstep.before.map _
  have hgone : t.workflowId ∉ rest.map (·.workflowId) :=
    (List.nodup_cons.mp (hbefore.nodup_iff.mp honce)).1
  cases hp with
  | idle hnot =>
    cases t' with
    | none => rfl
    | some u =>
      have hu : u ∈ s'.tasks := hstep.after.mem_iff.mpr List.mem_cons_self
      have hmem : u.workflowId ∈ s'.underWay := List.mem_map_of_mem hu
      rw [(hstep.same_task u rfl).1] at hmem
      exact absurd hmem hnot
  | busy u hu hid =>
    rcases List.mem_append.mp (hstep.after.mem_iff.mp hu) with hu | hu
    · rw [Option.mem_toList.mp hu]
      rfl
    · exact absurd (hid ▸ List.mem_map_of_mem hu) hgone

/-- A move leaves the phases of the other runs. -/
theorem TaskMove.phase_of_other {s' : Server} {t : WorkflowTask} {t' : Option WorkflowTask}
    {r₁ r₁' : ExecutionRecord} {rest : List WorkflowTask}
    (hstep : TaskMove s s' t t' r₁ r₁' rest) (hne : t.workflowId ≠ id) (hp : InPhase s' id p) :
    InPhase s id p := by
  have hbefore : s.underWay.Perm (t.workflowId :: rest.map (·.workflowId)) := hstep.before.map _
  cases hp with
  | idle hnot =>
    refine .idle fun hmem => hnot ?_
    rcases List.mem_cons.mp (hbefore.mem_iff.mp hmem) with heq | hmem
    · exact absurd heq.symm hne
    · obtain ⟨u, hu, rfl⟩ := List.mem_map.mp hmem
      exact List.mem_map_of_mem (hstep.after.mem_iff.mpr (List.mem_append_right _ hu))
  | busy u hu hid =>
    rcases List.mem_append.mp (hstep.after.mem_iff.mp hu) with hu | hu
    · have hsame := (hstep.same_task u (Option.mem_toList.mp hu)).1
      exact absurd (hsame.symm.trans hid) hne
    · exact .busy u (hstep.before.mem_iff.mpr (List.mem_cons_of_mem _ hu)) hid

/-- A move is a turn of its own run, and changes nothing for the others. -/
theorem Accounted.turn_taskMove {s' : Server} (haccounted : Accounted s) {x : Option Exchange}
    {t : WorkflowTask} {t' : Option WorkflowTask} {r₁ r₁' : ExecutionRecord}
    {rest : List WorkflowTask} (hstep : TaskMove s s' t t' r₁ r₁' rest) (h : Seen s' id p r) :
    Turn s x id p r := by
  obtain ⟨hr, hp⟩ := h
  rw [hstep.rewrites] at hr
  by_cases hid : t.workflowId = id
  · subst hid
    rw [if_pos rfl] at hr
    cases hr
    have ht : t ∈ s.tasks := hstep.before.mem_iff.mpr List.mem_cons_self
    rw [hstep.phase_eq haccounted.runs_once hp]
    exact .moved ⟨hstep.found, .busy t ht rfl⟩ hstep.move
  · rw [if_neg hid] at hr
    exact .same ⟨hr, hstep.phase_of_other hid hp⟩

theorem turn_letThrough {x : Option Exchange} (latch : SignalId)
    (h : Seen (s.letThrough latch) id p r) : Turn s x id p r := by
  exact .same ⟨h.1, h.2.of_perm (tasks_letThrough s latch)⟩

end

/-! ## Induction over turns -/

/-- What holds of everything that is seen at first, and is kept by every turn, holds of everything
that is seen later. The run may begin in the middle of another one. -/
theorem Run.seen_induction {s₀ s₁ s : Server} {log₁ log : List Exchange} (h₀ : Fresh s₀)
    (h₁ : Run s₀ log₁ s₁) (h : Run s₁ log s)
    {P : List Exchange → String → Option TaskPhase → ExecutionRecord → Prop}
    (hstart : ∀ id p r, Seen s₁ id p r → P [] id p r)
    (hturn : ∀ log s x, Run s₁ log s → (∀ id p r, Seen s id p r → P log id p r) →
      ∀ id p r, Turn s x id p r → P (log ++ x.toList) id p r) :
    ∀ id p r, Seen s id p r → P log id p r := by
  -- the account of the whole run up to a step tells which turn the step is
  induction h with
  | start => exact hstart
  | serve hrun q ih =>
    intro id p r hseen
    have haccounted := accounted_of_run h₀ (h₁.trans hrun)
    exact hturn _ _ (some _) hrun ih id p r (haccounted.turn_serve (serve_cases _ q) hseen)
  | @task log s s' now i signals signals' hrun hstep ih =>
    intro id p r hseen
    have haccounted := accounted_of_run h₀ (h₁.trans hrun)
    obtain ⟨t, t', r₁, r₁', rest, hmove⟩ := haccounted.taskMove hstep
    have hP := hturn log s none hrun ih id p r (haccounted.turn_taskMove hmove hseen)
    rwa [Option.toList_none, List.append_nil] at hP
  | @letThrough log s hrun latch ih =>
    intro id p r hseen
    have hP := hturn log s none hrun ih id p r (turn_letThrough latch hseen)
    rwa [Option.toList_none, List.append_nil] at hP

theorem Served.starts_le {s s' : Server} {x : Exchange} (h : Served s x s') :
    s.starts ≤ s'.starts := by
  cases h with
  | quiet _ hquiet => exact hquiet.starts
  | accept target ns workflowType options args _ =>
    rw [starts_accept]
    exact Nat.le_succ _
  | attach target id => exact Nat.le_of_eq (executions_attach s target id).2.symm
  | detach id => exact Nat.le_of_eq (congrArg Server.starts (detach_eq s id)).symm

/-- The count of starts never goes down. -/
theorem Run.starts_le {s₁ s : Server} {log : List Exchange} (h : Run s₁ log s) :
    s₁.starts ≤ s.starts := by
  induction h with
  | start => exact Nat.le_refl _
  | serve _ q ih => exact Nat.le_trans ih (serve_cases _ q).starts_le
  | task _ hstep ih =>
    have hstarts := (step?_setting hstep).starts
    exact Nat.le_trans ih (Nat.le_of_eq hstarts.symm)
  | letThrough _ _ ih => exact ih

end Conformance.Server
