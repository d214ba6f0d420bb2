import Conformance.Proofs.Isolation.Requests
import Mathlib.Data.Option.Defs

/-!
# Steps within a share

The task of a workflow changes the share that it belongs to and nothing else. In two servers with the same
share it makes the same steps.

## Main definitions

- `Server.Share.SameStep` — two steps that lead to the same, up to numbers
- `Server.Action.takesRun`, `Server.Action.makesWorker` — the actions that take a number

## Main statements

- `Server.Share.moves_stepOf`, `Server.Share.mirrors_stepTask` — a step of a task
- `Server.Share.moves_stepOf?`, `Server.Share.mirrors_stepOf?` — the step of the task of a workflow id
- `Server.Share.moves_act`, `Server.Share.mirrors_act` — an action
-/

namespace Conformance.Server

variable {s s' s₁ : Server} {now : Nat} {signals signals' : Signals} {t : WorkflowTask}
  {t' : Option WorkflowTask} {rest : List WorkflowTask}

/-! ## The task of a workflow id -/

/-- The task of a workflow id makes its step among the others, which stay. -/
theorem stepOf?_of_mem (hnodup : s.underWay.Nodup) (ht : t ∈ s.tasks) (now : Nat)
    (signals : Signals) :
    ∃ (rest : List WorkflowTask) (order : Option WorkflowTask → List WorkflowTask),
      s.tasks.Perm (t :: rest) ∧ (∀ t', (order t').Perm (t'.toList ++ rest)) ∧
      s.stepOf? t.workflowId now signals = (s.stepTask now signals t).map fun x =>
        ({ x.server with tasks := order x.task }, x.signals) := by
  obtain ⟨i, hi⟩ := List.getElem?_of_mem ht
  refine ⟨s.tasks.take i ++ s.tasks.drop (i + 1),
    fun t' => arranged now (opens signals t) (s.tasks.take i) t' (s.tasks.drop (i + 1)), ?_,
    fun t' => arranged_perm .., ?_⟩
  · have hsplit : s.tasks.Perm (s.tasks.take i ++ t :: s.tasks.drop (i + 1)) := by
      rw [← eq_take_append_drop hi]
    exact hsplit.trans List.perm_middle
  · rw [stepOf?_of_getElem? hnodup hi, step?, hi]
    dsimp only
    cases s.stepTask now signals t <;> rfl

theorem stepOf?_of_notMem {id : String} (h : id ∉ s.underWay) (now : Nat) (signals : Signals) :
    s.stepOf? id now signals = none := by
  cases hstep : s.stepOf? id now signals with
  | none => rfl
  | some next =>
    obtain ⟨i, t, ht, rfl, -⟩ := stepOf?_eq_some hstep
    exact absurd (List.mem_map_of_mem (List.mem_of_getElem? ht)) h

/-- The others are the tasks of the other workflow ids. -/
theorem mem_rest_iff (hnodup : s.underWay.Nodup) (hperm : s.tasks.Perm (t :: rest))
    (u : WorkflowTask) : u ∈ rest ↔ u ∈ s.tasks ∧ u.workflowId ≠ t.workflowId := by
  have hids : (t.workflowId :: rest.map (·.workflowId)).Nodup :=
    (hperm.map WorkflowTask.workflowId).nodup_iff.mp hnodup
  rw [hperm.mem_iff, List.mem_cons]
  constructor
  · intro hu
    refine ⟨.inr hu, fun hsame => (List.nodup_cons.mp hids).1 ?_⟩
    exact hsame ▸ List.mem_map_of_mem hu
  · rintro ⟨rfl | hu, hne⟩
    · exact absurd rfl hne
    · exact hu

/-! ## Numbers that actions take -/

def Action.takesRun : Action → Bool
  | .ask q => q.takesRun
  | _ => false

def Action.makesWorker : Action → Bool
  | .ask q => q.makesWorker
  | _ => false

/-- The counts of runs and of workers after an action. -/
theorem counts_act (s : Server) (a : Action) :
    (s.act a).2.starts = s.starts + a.takesRun.toNat ∧
      (s.act a).2.workers.length = s.workers.length + a.makesWorker.toNat := by
  cases a with
  | ask q => exact counts_serve s q
  | look sub | letThrough latch => exact ⟨rfl, rfl⟩
  | step id now signals =>
    cases hstep : s.stepOf? id now signals with
    | none =>
      rw [act, hstep]
      exact ⟨rfl, rfl⟩
    | some next =>
      obtain ⟨i, t, -, -, hi⟩ := stepOf?_eq_some hstep
      rw [act, hstep]
      have hsetting := step?_setting hi
      have hworkers := congrArg List.length hsetting.workers
      rw [List.length_map, List.length_map] at hworkers
      exact ⟨hsetting.starts, hworkers⟩

theorem Renaming.takesRun_action (ν : Renaming) (a : Action) :
    (ν.action a).takesRun = a.takesRun := by
  cases a with
  | ask q => cases q <;> rfl
  | look | step | letThrough => rfl

theorem Renaming.makesWorker_action (ν : Renaming) (a : Action) :
    (ν.action a).makesWorker = a.makesWorker := by
  cases a with
  | ask q => cases q <;> rfl
  | look | step | letThrough => rfl

namespace Share

variable {E : Share} {ν : Renaming}

/-! ## Nothing else changes -/

/-- A step of a task changes the share that the task belongs to only. -/
theorem moves_stepOf (h : E.Holds s) (hid : E.ids t.workflowId) (hw : E.Employs s t.worker)
    (hstep : StepOf s signals t t' s₁) : E.Moves s s₁ := by
  cases hstep with
  | begin _ =>
    unfold Server.begin
    split
    · exact .refl h
    · split
      · exact .refl h
      · exact moves_finish h hid _
  | finish e _ => exact moves_finish h hid _
  | call a args next _ =>
    unfold Server.callActivity
    split
    · exact .refl h
    · have hscheduled := moves_modifyExecution h hid
        fun r => (sameRun_schedule r a args).execution
      dsimp only
      split
      · exact hscheduled.trans
          (moves_modifyWorker hscheduled.holds (hscheduled.employs hw) fun _ _ => rfl)
      · exact hscheduled.trans
          (moves_modifyExecution hscheduled.holds hid fun r => (sameRun_close r _ _).execution)
  | close scheduled e next _ =>
    exact moves_modifyExecution h hid fun r => (sameRun_close r scheduled e).execution
  | still _ _ _ => exact .refl h

theorem moves_stepOf? (h : E.Holds s) (hnodup : s.underWay.Nodup) {id : String} (hid : E.ids id)
    (hstep : s.stepOf? id now signals = some (s', signals')) : E.Moves s s' := by
  obtain ⟨i, t, ht, rfl, -⟩ := stepOf?_eq_some hstep
  have htask := List.mem_of_getElem? ht
  obtain ⟨rest, order, hperm, horder, heq⟩ := stepOf?_of_mem hnodup htask now signals
  rw [hstep, eq_comm, Option.map_eq_some_iff] at heq
  obtain ⟨⟨t', s₁, signals₁⟩, hx, hnext⟩ := heq
  cases hnext
  have hkind := stepTask_cases hx
  have hmoves := moves_stepOf h hid (h.tasks t htask hid) hkind
  have htasks : s₁.tasks = s.tasks := hkind.sameSetting.tasks
  refine hmoves.trans (moves_tasks hmoves.holds (order t') (fun u hu => ?_) fun u hu hmine => ?_)
  · -- a task of another side is neither the one that made the step nor what is left of it
    have hleft : u ∉ t'.toList := fun hmem => by
      obtain rfl := Option.mem_toList.mp hmem
      exact hu (hkind.same_task.1 ▸ hid)
    have hother : u ≠ t := fun heq => hu (heq ▸ hid)
    rw [(horder t').mem_iff, htasks, hperm.mem_iff, List.mem_append, List.mem_cons]
    rw [or_iff_right hleft, or_iff_right hother]
  · rcases List.mem_append.mp ((horder t').mem_iff.mp hu) with hmem | hmem
    · obtain rfl := Option.mem_toList.mp hmem
      rw [hkind.same_task.2]
      exact hmoves.employs (h.tasks t htask hid)
    · exact hmoves.employs (h.tasks u (hperm.mem_iff.mpr (List.mem_cons_of_mem t hmem)) hmine)

theorem moves_letThrough (h : E.Holds s) (latch : SignalId) : E.Moves s (s.letThrough latch) :=
  moves_tasks h (s.letThrough latch).tasks (fun _ _ => (tasks_letThrough s latch).mem_iff)
    fun t ht => h.tasks t ((tasks_letThrough s latch).mem_iff.mp ht)

/-! ## The same steps -/

/-- Two steps that lead to the same, up to numbers. -/
structure SameStep (E : Share) (ν : Renaming) (x y : TaskStep) : Prop where
  task : y.task = x.task.map ν.task
  server : E.Mirrors ν x.server y.server
  signals : y.signals = x.signals

section

variable (m : E.Mirrors ν s s')
include m

theorem queueOf_of_mirrors {w : WorkerId} (hw : E.Employs s w) :
    s'.queueOf (ν.workers w) = s.queueOf w := by
  obtain ⟨x, hx, hqueue⟩ := hw
  rw [queueOf, queueOf, hx, m.workers w x hx hqueue]

theorem worker?_of_mirrors {w : WorkerId} (hw : E.Employs s w) :
    s'.worker? (ν.workers w) = s.worker? w := by
  obtain ⟨x, hx, hqueue⟩ := hw
  rw [hx, m.workers w x hx hqueue]

theorem sameStep_begin (h : E.Holds s) (hid : E.ids t.workflowId) (hw : E.Employs s t.worker)
    (signals : Signals) : E.SameStep ν (s.begin signals t) (s'.begin signals (ν.task t)) := by
  have hrecord : s'.executions.get? (ν.task t).workflowId = _ := m.executions t.workflowId hid
  have hworker : s'.worker? (ν.task t).worker = _ := worker?_of_mirrors m hw
  have hqueue : s'.queueOf (ν.task t).worker = _ := queueOf_of_mirrors m hw
  unfold Server.begin
  rw [hrecord, hworker, hqueue]
  cases s.executions.get? t.workflowId with
  | none => exact ⟨rfl, m, rfl⟩
  | some r =>
    have htype : (ν.record r).workflowType = r.workflowType := rfl
    dsimp only [Option.map]
    rw [htype]
    split
    · exact ⟨rfl, m, rfl⟩
    · exact ⟨rfl, mirrors_finish m h hid _, rfl⟩

theorem sameStep_callActivity (hid : E.ids t.workflowId) (hw : E.Employs s t.worker)
    (signals : Signals) (a : String) (args : List Json) (next : Ending → Code) :
    E.SameStep ν (s.callActivity signals t a args next)
      (s'.callActivity signals (ν.task t) a args next) := by
  obtain ⟨id, w, phase, wake⟩ := t
  dsimp only at hid hw
  show E.SameStep ν _ (s'.callActivity signals ⟨id, ν.workers w, phase, wake⟩ a args next)
  have hscheduled := mirrors_modifyExecution m hid (fun r => r.schedule a args) fun _ => rfl
  have hemployed : E.Employs (s.modifyExecution id fun r => r.schedule a args) w := hw
  unfold Server.callActivity
  dsimp only
  rw [m.executions id hid]
  cases s.executions.get? id with
  | none => exact ⟨rfl, m, rfl⟩
  | some r =>
    have hnext : (ν.record r).nextId = r.nextId := rfl
    dsimp only [Option.map_some]
    rw [hnext, worker?_of_mirrors hscheduled hemployed, queueOf_of_mirrors hscheduled hemployed]
    obtain ⟨x, hx, hqueue⟩ := hemployed
    split
    · exact ⟨rfl, mirrors_modifyWorker hscheduled hx hqueue _, rfl⟩
    · exact ⟨rfl, mirrors_modifyExecution hscheduled hid _ fun r => ν.close_record r _ _, rfl⟩

/-- The task of a workflow makes the same step in both servers, or none. -/
theorem mirrors_stepTask (h : E.Holds s) (hid : E.ids t.workflowId) (hw : E.Employs s t.worker)
    (now : Nat) (signals : Signals) :
    Option.Rel (E.SameStep ν) (s.stepTask now signals t) (s'.stepTask now signals (ν.task t)) := by
  have hphase : (ν.task t).phase = t.phase := rfl
  have hwake : (ν.task t).wake = t.wake := rfl
  unfold stepTask
  rw [hphase, hwake]
  cases t.phase with
  | fresh => exact .some (sameStep_begin m h hid hw signals)
  | running c =>
    cases c with
    | done e => exact .some ⟨rfl, mirrors_finish m h hid _, rfl⟩
    | callActivity a args next => exact .some (sameStep_callActivity m hid hw signals a args next)
    | awaitLatch l next =>
      dsimp only
      split
      · exact .some ⟨rfl, m, rfl⟩
      · exact .none
    | sleep ms next =>
      dsimp only
      split
      · exact .some ⟨rfl, m, rfl⟩
      · split
        · exact .some ⟨rfl, m, rfl⟩
        · exact .none
  | inActivity scheduled a next =>
    cases a with
    | done e =>
      exact .some ⟨rfl, mirrors_modifyExecution m hid _ fun r => ν.close_record r _ _, rfl⟩
    | openLatch l act | readCounter c act => exact .some ⟨rfl, m, rfl⟩
    | awaitLatch l act =>
      dsimp only
      split
      · exact .some ⟨rfl, m, rfl⟩
      · exact .none
    | sleep ms act =>
      dsimp only
      split
      · exact .some ⟨rfl, m, rfl⟩
      · split
        · exact .some ⟨rfl, m, rfl⟩
        · exact .none

theorem mem_underWay_iff {id : String} (hid : E.ids id) : id ∈ s'.underWay ↔ id ∈ s.underWay := by
  constructor
  · intro hmem
    obtain ⟨u, hu, rfl⟩ := List.mem_map.mp hmem
    obtain ⟨t, rfl⟩ := ν.exists_task_eq u
    exact List.mem_map.mpr ⟨t, (m.tasks t hid).mpr hu, rfl⟩
  · intro hmem
    obtain ⟨t, ht, rfl⟩ := List.mem_map.mp hmem
    exact List.mem_map.mpr ⟨ν.task t, (m.tasks t hid).mp ht, rfl⟩

/-- The workflow makes the same step in both servers, or none. -/
theorem mirrors_stepOf? (h : E.Holds s) (hnodup : s.underWay.Nodup) (hnodup' : s'.underWay.Nodup)
    {id : String} (hid : E.ids id) (now : Nat) (signals : Signals) :
    Option.Rel (fun x y => y.2 = x.2 ∧ E.Mirrors ν x.1 y.1) (s.stepOf? id now signals)
      (s'.stepOf? id now signals) := by
  by_cases hmem : id ∈ s.underWay
  case neg =>
    rw [stepOf?_of_notMem hmem, stepOf?_of_notMem (mt (mem_underWay_iff m hid).mp hmem)]
    exact .none
  obtain ⟨t, ht, rfl⟩ := List.mem_map.mp hmem
  have ht' := (m.tasks t hid).mp ht
  obtain ⟨rest, order, hperm, horder, heq⟩ := stepOf?_of_mem hnodup ht now signals
  obtain ⟨rest', order', hperm', horder', heq'⟩ := stepOf?_of_mem hnodup' ht' now signals
  -- the task is known by its workflow id on both sides, and so are the others
  have hothers : ∀ u, E.ids u.workflowId → (u ∈ rest ↔ ν.task u ∈ rest') := fun u hu => by
    rw [mem_rest_iff hnodup hperm, mem_rest_iff hnodup' hperm', m.tasks u hu]
    rfl
  have hstep := mirrors_stepTask m h hid (h.tasks t ht hid) now signals
  rw [heq, show s'.stepOf? t.workflowId now signals = _ from heq']
  generalize s.stepTask now signals t = step at hstep ⊢
  generalize s'.stepTask now signals (ν.task t) = step' at hstep ⊢
  cases hstep with
  | none => exact .none
  | @some x y hsame =>
    refine .some ⟨hsame.signals, mirrors_tasks hsame.server _ _ fun u hu => ?_⟩
    have hleft : u ∈ x.task.toList ↔ ν.task u ∈ y.task.toList := by
      rw [hsame.task, Option.mem_toList, Option.mem_toList, Option.map_eq_some_iff]
      simp [ν.task_inj]
    rw [(horder x.task).mem_iff, (horder' y.task).mem_iff, List.mem_append, List.mem_append]
    exact or_congr hleft (hothers u hu)

theorem mirrors_letThrough (latch : SignalId) :
    E.Mirrors ν (s.letThrough latch) (s'.letThrough latch) :=
  mirrors_tasks m (s.letThrough latch).tasks (s'.letThrough latch).tasks fun t hid =>
    (tasks_letThrough s latch).mem_iff.trans
      ((m.tasks t hid).trans (tasks_letThrough s' latch).mem_iff.symm)

end

/-! ## Actions -/

variable {a : Action}

/-- An action on a share changes nothing outside it. -/
theorem moves_act (h : E.Holds s) (hnodup : s.underWay.Nodup)
    (ha : a.KeepsTo E.queues E.ids (E.Employs s) E.Awaits)
    (hnew : a.takesRun = true → E.runs (s.starts + 1)) : E.Moves s (s.act a).2 := by
  cases a with
  | ask q => exact moves_serve h ha hnew
  | look sub => exact .refl h
  | letThrough latch => exact moves_letThrough h latch
  | step id now signals =>
    cases hstep : s.stepOf? id now signals with
    | none =>
      rw [act, hstep]
      exact .refl h
    | some next =>
      rw [act, hstep]
      exact moves_stepOf? h hnodup ha hstep

/-- Two servers with the same share answer an action on it in the same way, and have the same share
afterwards. -/
theorem mirrors_act (m : E.Mirrors ν s s') (h : E.Holds s) (hnodup : s.underWay.Nodup)
    (hnodup' : s'.underWay.Nodup) (ha : a.KeepsTo E.queues E.ids (E.Employs s) E.Awaits)
    (hrun : a.takesRun = true → ν.runs (s.starts + 1) = s'.starts + 1)
    (hworker : a.makesWorker = true → ν.workers s.workers.length = s'.workers.length) :
    ν.Events ⟨a, (s.act a).1⟩ ⟨ν.action a, (s'.act (ν.action a)).1⟩ ∧
      E.Mirrors ν (s.act a).2 (s'.act (ν.action a)).2 := by
  cases a with
  | ask q =>
    obtain ⟨hanswer, hmirrors⟩ := mirrors_serve m ha hrun hworker
    exact ⟨.ask q hanswer, hmirrors⟩
  | look sub =>
    dsimp only [Renaming.action, act]
    rw [isSettled_of_mirrors m ha]
    exact ⟨.look sub _, m⟩
  | letThrough latch => exact ⟨.letThrough latch, mirrors_letThrough m latch⟩
  | step id now signals =>
    have hstep := mirrors_stepOf? m h hnodup hnodup' ha now signals
    dsimp only [Renaming.action, act]
    generalize s.stepOf? id now signals = next at hstep ⊢
    generalize s'.stepOf? id now signals = next' at hstep ⊢
    cases hstep with
    | none => exact ⟨.step id now signals none, m⟩
    | @some x y hsame =>
      obtain ⟨s₁, signals'⟩ := x
      obtain ⟨s₁', signals''⟩ := y
      obtain ⟨rfl, hmirrors⟩ := hsame
      exact ⟨.step id now signals (some signals''), hmirrors⟩

end Share

end Conformance.Server
