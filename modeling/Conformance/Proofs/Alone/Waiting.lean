import Conformance.Proofs.Alone.Course
import Conformance.Proofs.Background.Deadline
import Conformance.Proofs.Server.Story

/-!
# Waiting for a run that is alone

While one run is all there is in a world, the background makes the steps of its task, and time goes
from one of its sleeps to the next. Whoever waits for the completion of the run until a deadline gets
it exactly if the course of its code ends before.

## Main definitions

- `World.Background` — what the background leaves as it is
- `World.Alone` — one run is all there is, and is going to end in a given way

## Main statements

- `World.background_of_drifted` — waiting changes runs, workers' counts, latches and the clock only
- `World.Alone.step?` — every step in the background leaves where the run is going as it is
- `World.Alone.awaited` — after waiting, the run has ended, or its course has no end before the deadline

## Design notes

At the deadline the one who waits comes before the background, so that a run that would end at this
very time comes too late.
-/

namespace Conformance

/-! ## A single task -/

namespace Server

theorem arranged_single (now : Nat) (opened : Option SignalId) (t : Option WorkflowTask) :
    arranged now opened [] t [] = t.toList := by
  unfold arranged
  cases opened with
  | some latch => simp
  | none => split <;> simp

/-- A step of the only task leaves at most one task. -/
theorem step?_single {s : Server} {t : WorkflowTask} (h : s.tasks = [t]) (now : Nat)
    (signals : Signals) :
    s.step? now signals 0 =
      (s.stepTask now signals t).map fun x =>
        ({ x.server with tasks := x.task.toList }, x.signals) := by
  have htask : s.tasks[0]? = some t := by rw [h]; rfl
  unfold step?
  rw [htask]
  dsimp only
  cases s.stepTask now signals t with
  | none => rfl
  | some x =>
    have harranged := arranged_single now (opens signals t) x.task
    rw [h]
    show some ({ x.server with tasks := arranged now (opens signals t) [] x.task [] }, _) = _
    rw [harranged]
    rfl

theorem stepFirst?_single {s : Server} {t : WorkflowTask} (h : s.tasks = [t]) (now : Nat)
    (signals : Signals) :
    s.stepFirst? now signals =
      (s.stepTask now signals t).map fun x =>
        ({ x.server with tasks := x.task.toList }, x.signals) := by
  have hlength : s.tasks.length = 1 := by rw [h]; rfl
  unfold stepFirst?
  rw [hlength, stepFrom?, step?_single h]
  cases s.stepTask now signals t <;> rfl

theorem stepFirst?_nil {s : Server} (h : s.tasks = []) (now : Nat) (signals : Signals) :
    s.stepFirst? now signals = none := by
  unfold stepFirst?
  rw [h]
  rfl

/-- A run that has not been replaced is settled by its completion. -/
theorem isSettled_eq {s : Server} {e : Execution} {r : ExecutionRecord} {sub : Subscription}
    (hr : s.executions.get? e.workflowId = some r) (hsame : r.execution = e) (hsub : sub.found = e) :
    s.isSettled sub = s.completions.contains e.runId := by
  have hreplaced : s.isReplaced e = false := by
    unfold isReplaced
    rw [hr, Option.map_some, hsame]
    simp
  unfold isSettled
  rw [hsub, hreplaced, Bool.or_false]

end Server

namespace World

/-! ## What the background leaves as it is -/

/-- The worlds differ in runs, in completions, in the counts of invocations, in tasks, in latches and
in time only. -/
structure Background (w w' : World) : Prop where
  world : w' = { w with clock := w'.clock, server := w'.server, signals := w'.signals }
  server : w'.server = { w.server with
    executions := w'.server.executions, completions := w'.server.completions
    workers := w'.server.workers, tasks := w'.server.tasks }
  workers : w'.server.workers.map Worker.uncounted = w.server.workers.map Worker.uncounted

theorem Background.refl (w : World) : w.Background w := ⟨rfl, rfl, rfl⟩

theorem Background.trans {w w' w'' : World} (h : w.Background w') (h' : w'.Background w'') :
    w.Background w'' := by
  have hworld := h'.world
  have hserver := h'.server
  rw [h.world] at hworld
  rw [h.server] at hserver
  exact ⟨hworld, hserver, h'.workers.trans h.workers⟩

theorem Background.delayed {w w' : World} (h : w.Background w') : w'.delayed = w.delayed := by
  rw [h.world]

/-- A worker has counted invocations, and is otherwise what it was. -/
theorem Background.worker? {w w' : World} (h : w.Background w') {id : WorkerId} {x : Worker}
    (hx : w.server.worker? id = some x) :
    ∃ x', w'.server.worker? id = some x' ∧ x'.uncounted = x.uncounted := by
  have hget : w.server.workers[id]? = some x := hx
  have hmap : (w'.server.workers.map Worker.uncounted)[id]? =
      (w.server.workers.map Worker.uncounted)[id]? := by rw [h.workers]
  rw [List.getElem?_map, List.getElem?_map, hget, Option.map_some, Option.map_eq_some_iff] at hmap
  exact hmap

theorem background_advanceTo (w : World) (time : Nat) : w.Background (w.advanceTo time) :=
  ⟨rfl, rfl, rfl⟩

theorem step?_of_nothing_delayed {w : World} (hdelayed : w.delayed = []) :
    w.step? = (w.server.stepFirst? w.clock w.signals).map fun x =>
      { w with server := x.1, signals := x.2 } := by
  have hdue : w.dueIndex? = none := by
    unfold dueIndex?
    rw [hdelayed]
    rfl
  unfold step?
  cases w.server.stepFirst? w.clock w.signals with
  | none =>
    dsimp only
    rw [hdue]
    rfl
  | some x => rfl

theorem background_step? {w w' : World} (hdelayed : w.delayed = []) (h : w.step? = some w') :
    w.Background w' := by
  rw [step?_of_nothing_delayed hdelayed] at h
  obtain ⟨⟨server, signals⟩, hstep, rfl⟩ := Option.map_eq_some_iff.mp h
  obtain ⟨j, hj⟩ := exists_step?_of_stepFrom? hstep
  have hsetting := Server.step?_setting hj
  refine ⟨rfl, ?_, hsetting.workers⟩
  have heq := congrArg (fun s : Server => { s with tasks := server.tasks }) hsetting.eq
  exact heq

theorem Drifts.background {ready : World → Bool} {deadline : Nat} {w w' : World}
    (h : Drifts ready deadline w w') (hdelayed : w.delayed = []) : w.Background w' := by
  cases h with
  | step _ hstep => exact background_step? hdelayed hstep
  | time _ _ _ _ _ => exact background_advanceTo w _

/-- Whatever is waited for, the background leaves everything else as it is. -/
theorem background_of_drifted {ready : World → Bool} {deadline : Nat} {w w' : World}
    (h : Drifted ready deadline w w') (hdelayed : w.delayed = []) : w.Background w' := by
  induction h with
  | refl => exact .refl w
  | tail _ hdrifts ih => exact ih.trans (hdrifts.background (ih.delayed.trans hdelayed))

theorem step?_single {w : World} (hdelayed : w.delayed = []) {t : WorkflowTask}
    (htasks : w.server.tasks = [t]) :
    w.step? = (w.server.stepTask w.clock w.signals t).map fun x =>
      { w with server := { x.server with tasks := x.task.toList }, signals := x.signals } := by
  rw [step?_of_nothing_delayed hdelayed, Server.stepFirst?_single htasks, Option.map_map]
  rfl

theorem step?_nil {w : World} (hdelayed : w.delayed = []) (htasks : w.server.tasks = []) :
    w.step? = none := by
  rw [step?_of_nothing_delayed hdelayed, Server.stepFirst?_nil htasks]
  rfl

/-! ## A run that is alone -/

/-- A run has not begun, or it follows its code. -/
def Begun (c : Code) (r₀ : ExecutionRecord) (p : Option TaskPhase) (r : ExecutionRecord) : Prop :=
  p = some .fresh ∧ r = r₀ ∨ Follows c r₀ p r

theorem Begun.sameRun {c : Code} {r₀ r : ExecutionRecord} {p : Option TaskPhase}
    (h : Begun c r₀ p r) : Server.SameRun r₀ r := by
  rcases h with ⟨-, rfl⟩ | h
  · exact .refl r
  · exact h.sameRun

theorem Begun.move {f : Workflow} {r₀ r r' : ExecutionRecord} {s : Server} {t : WorkflowTask}
    {p : Option TaskPhase} (h : Begun (f.code false r₀.input) r₀ (some t.phase) r)
    (hf : (s.worker? t.worker).bind (·.workflow? r₀.workflowType) = some f)
    (hmove : Server.Move s t r p r') : Begun (f.code false r₀.input) r₀ p r' := by
  rcases h with ⟨hfresh, rfl⟩ | h
  · have hphase := Option.some.inj hfresh
    cases hmove with
    | begin g _ hg =>
      cases hf.symm.trans hg
      exact .inr (.running [] _ (.refl _))
    | unregistered _ _ hnone => exact nomatch hf.symm.trans hnone
    | finish _ hp | schedule _ _ _ _ hp | refuse _ _ _ _ hp | close _ _ _ hp =>
      exact nomatch hphase.symm.trans hp
    | still p hp =>
      rw [hphase] at hp
      cases hp
      exact .inl ⟨rfl, rfl⟩
  · exact .inr (h.move hmove)

/-- The run of the workflow `f` that was started with the record `r₀` is all there is in a world. It
is going to end with `o`, or it has ended so before the deadline. -/
inductive Alone (f : Workflow) (r₀ : ExecutionRecord) (deadline : Nat) (o : Option (Ending × Nat))
    (w : World) : Prop
  | under_way {t : WorkflowTask} {host : Worker} {r : ExecutionRecord}
      (htasks : w.server.tasks = [t]) (hid : t.workflowId = r₀.execution.workflowId)
      (hr : w.server.executions.get? t.workflowId = some r)
      (hbegun : Begun (f.code false r₀.input) r₀ (some t.phase) r)
      (hhost : w.server.worker? t.worker = some host)
      (hf : host.workflow? r₀.workflowType = some f)
      (hnone : w.server.completions.get? r₀.execution.runId = none)
      (hheads : t.Heads (f.code false r₀.input) host w.clock w.signals o)
  | ended {e : Ending} {time : Nat} {r : ExecutionRecord} (ho : o = some (e, time))
      (htime : time < deadline) (htasks : w.server.tasks = [])
      (hr : w.server.executions.get? r₀.execution.workflowId = some r)
      (hfollows : Follows (f.code false r₀.input) r₀ none r)
      (hcompletion : w.server.completions.get? r₀.execution.runId = some (Completion.ofEnding e))

section

variable {f : Workflow} {r₀ : ExecutionRecord} {deadline : Nat} {o : Option (Ending × Nat)}
  {w w' : World}

/-- Every step in the background leaves where the run is going as it is. -/
theorem Alone.step? (h : w.Alone f r₀ deadline o) (hdelayed : w.delayed = [])
    (hclock : w.clock < deadline) (hstep : w.step? = some w') : w'.Alone f r₀ deadline o := by
  cases h with
  | ended _ _ htasks _ _ _ =>
    rw [step?_nil hdelayed htasks] at hstep
    cases hstep
  | @under_way t host r htasks hid hr hbegun hhost hf hnone hheads =>
    rw [step?_single hdelayed htasks] at hstep
    obtain ⟨⟨t', s', signals'⟩, hx, rfl⟩ := Option.map_eq_some_iff.mp hstep
    have hsame := hbegun.sameRun
    have hregistered : (w.server.worker? t.worker).bind (·.workflow? r₀.workflowType) = some f := by
      rw [hhost]
      exact hf
    have hstart : t.phase = .fresh → ∃ g, host.workflow? r.workflowType = some g ∧
        g.code false r.input = f.code false r₀.input := by
      intro _
      rw [hsame.workflowType, hsame.input]
      exact ⟨f, hf, rfl⟩
    obtain ⟨r', hmove, hrewrites⟩ := (Server.stepTask_cases hx).move hr
    have hr' := hrewrites t.workflowId
    rw [if_pos rfl] at hr'
    have hbegun' := hbegun.move hregistered hmove
    -- the history follows the code by this move, and the course of the code by the same step
    cases hheads.onward hhost hr hstart hx with
    | @goes_on t' _ _ host' hid' hworker' hhost' huncounted hcompletions hheads' =>
      have hworkflows : host'.uncounted.workflows = host.uncounted.workflows := by rw [huncounted]
      have hworkflow : host'.workflow? r₀.workflowType = host.workflow? r₀.workflowType :=
        congrArg (List.find? _) hworkflows
      refine .under_way (t := t') rfl (hid'.trans hid) ?_ hbegun' ?_ ?_ ?_ hheads'
      · rw [hid']
        exact hr'
      · rw [hworker']
        exact hhost'
      · exact hworkflow.trans hf
      · rw [← hcompletions] at hnone
        exact hnone
    | @ends e _ ho =>
      have hfollows : Follows (f.code false r₀.input) r₀ none r' := by
        rcases hbegun' with ⟨hfresh, -⟩ | hfollows
        · cases hfresh
        · exact hfollows
      refine .ended ho hclock rfl ?_ hfollows ?_
      · rw [← hid]
        exact hr'
      · show (w.server.finish t.workflowId (Completion.ofEnding e)).completions.get? _ = _
        unfold Server.finish
        rw [hr]
        dsimp only
        rw [hsame.execution, Table.get?_insert_self]

/-- A run that is alone is not replaced, so that waiting for it ends with its completion. -/
theorem Alone.isSettled_eq (h : w.Alone f r₀ deadline o) {sub : Server.Subscription}
    (hsub : sub.found = r₀.execution) :
    w.server.isSettled sub = w.server.completions.contains r₀.execution.runId := by
  cases h with
  | under_way _ hid hr hbegun _ _ _ _ =>
    exact Server.isSettled_eq (hid ▸ hr) hbegun.sameRun.execution hsub
  | ended _ _ _ hr hfollows _ => exact Server.isSettled_eq hr hfollows.sameRun.execution hsub

theorem Alone.timed (h : w.Alone f r₀ deadline o) : w.server.Timed := by
  cases h with
  | @under_way t host r htasks _ _ _ _ _ _ hheads =>
    intro u hu
    rw [htasks] at hu
    rw [List.mem_singleton.mp hu]
    exact hheads.timed
  | ended _ _ htasks _ _ _ =>
    intro u hu
    rw [htasks] at hu
    cases hu

/-- At rest, time that passes up to the next time at which something happens makes no difference. -/
theorem Alone.advanceTo (h : w.Alone f r₀ deadline o) (hdelayed : w.delayed = [])
    (hrest : w.step? = none) {now : Nat} (hnow : ∀ time, w.nextTime? = some time → now ≤ time) :
    (w.advanceTo now).Alone f r₀ deadline o := by
  cases h with
  | ended ho htime htasks hr hfollows hcompletion =>
    exact .ended ho htime htasks hr hfollows hcompletion
  | @under_way t host r htasks hid hr hbegun hhost hf hnone hheads =>
    have hnext : w.nextTime? = t.wake := by
      unfold World.nextTime? Server.wakes
      rw [htasks, hdelayed]
      cases hwake : t.wake <;> simp [hwake]
    rw [hnext] at hnow
    rw [step?_single hdelayed htasks, Option.map_eq_none_iff] at hrest
    obtain ⟨hbeyond, hlater⟩ := hheads.stuck hrest
    exact .under_way htasks hid hr hbegun hhost hf hnone (hlater _ fun time htime =>
      Nat.max_le.mpr ⟨Nat.le_of_lt (hbeyond time htime), hnow time htime⟩)

/-- Whatever happens while somebody waits, the run is alone. -/
theorem alone_of_drifted {ready : World → Bool} (h : Drifted ready deadline w w')
    (halone : w.Alone f r₀ deadline o) (hdelayed : w.delayed = []) : w'.Alone f r₀ deadline o := by
  induction h with
  | refl => exact halone
  | tail hdrifted hdrifts ih =>
    have hdelayed := (background_of_drifted hdrifted hdelayed).delayed.trans hdelayed
    cases hdrifts with
    | step hopen hstep => exact ih.step? hdelayed hopen hstep
    | time _ hrest _ _ hnext => exact ih.advanceTo hdelayed hrest hnext

theorem Alone.late (h : w.Alone f r₀ deadline o)
    (hnone : w.server.completions.contains r₀.execution.runId = false) (hclock : deadline ≤ w.clock)
    {e : Ending} {time : Nat} (ho : o = some (e, time)) : deadline ≤ time := by
  cases h with
  | ended _ _ _ _ _ hcompletion =>
    unfold Table.contains at hnone
    rw [hcompletion] at hnone
    cases hnone
  | under_way _ _ _ _ _ _ _ hheads => exact Nat.le_trans hclock (hheads.le ho)

/-- What is found after waiting for a run that is alone: it has ended, or it has no end before the
deadline. -/
def Awaited (f : Workflow) (r₀ : ExecutionRecord) (deadline : Nat) (o : Option (Ending × Nat))
    (w : World) : Prop :=
  w.server.completions.contains r₀.execution.runId = true ∧ w.Alone f r₀ deadline o ∨
    w.server.completions.contains r₀.execution.runId = false ∧
      ∀ e time, o = some (e, time) → deadline ≤ time

/-- Waiting for a run that is alone ends when it has ended, or when it is too late. -/
theorem Alone.awaited (h : w.Alone f r₀ deadline o) (hdelayed : w.delayed = [])
    {sub : Server.Subscription} (hsub : sub.found = r₀.execution) :
    Awaited f r₀ deadline o (w.wait (fun w => w.server.isSettled sub) (some deadline)).2 := by
  obtain ⟨hdrifted, hwaited⟩ := wait_cases (fun w => w.server.isSettled sub) deadline h.timed
  have halone := alone_of_drifted hdrifted h hdelayed
  have hsettled := halone.isSettled_eq hsub
  generalize w.wait (fun w => w.server.isSettled sub) (some deadline) = x at hwaited halone hsettled
  cases hwaited with
  | met hmet => exact .inl ⟨hsettled.symm.trans hmet, halone⟩
  | expired hunmet hclock =>
    have hnone := hsettled.symm.trans hunmet
    exact .inr ⟨hnone, fun e time => halone.late hnone hclock⟩

/-- The answer is the result with which the run ends before the deadline, if there is one. -/
theorem Awaited.answer_eq_ok_iff (h : Awaited f r₀ deadline o w) {sub : Server.Subscription}
    (hsub : sub.found = r₀.execution) (v : Json) :
    w.server.answer sub = .ok v ↔ ∃ time, o = some (.ok v, time) ∧ time < deadline := by
  unfold Server.answer
  rw [hsub]
  rcases h with ⟨hsome, halone⟩ | ⟨hnone, hlate⟩
  · cases halone with
    | under_way _ _ _ _ _ _ hnone _ =>
      unfold Table.contains at hsome
      rw [hnone] at hsome
      cases hsome
    | @ended e time r ho htime _ _ _ hcompletion =>
      rw [hcompletion, ho]
      cases e with
      | ok result =>
        constructor
        · intro hanswer
          cases hanswer
          exact ⟨time, rfl, htime⟩
        · rintro ⟨time', heq, -⟩
          cases heq
          rfl
      | error failure =>
        refine iff_of_false nofun ?_
        rintro ⟨time', heq, -⟩
        cases heq
  · have hcompletion : w.server.completions.get? r₀.execution.runId = none :=
      Option.not_isSome_iff_eq_none.mp (Bool.eq_false_iff.mp hnone)
    rw [hcompletion]
    dsimp only
    refine iff_of_false ?_ ?_
    · split <;> exact nofun
    · rintro ⟨time, ho, hlt⟩
      exact Nat.not_le_of_lt hlt (hlate _ time ho)

/-- The record of a run that ends before the deadline tells of all that its code has done. -/
theorem Awaited.recorded (h : Awaited f r₀ deadline o w) {e : Ending} {time : Nat}
    (ho : o = some (e, time)) (hlt : time < deadline) :
    ∃ r, w.server.executions.get? r₀.execution.workflowId = some r ∧
      Follows (f.code false r₀.input) r₀ none r := by
  rcases h with ⟨hsome, halone⟩ | ⟨-, hlate⟩
  · cases halone with
    | under_way _ _ _ _ _ _ hnone _ =>
      unfold Table.contains at hsome
      rw [hnone] at hsome
      cases hsome
    | @ended _ _ r _ _ _ hr hfollows _ => exact ⟨r, hr, hfollows⟩
  · exact absurd (hlate e time ho) (Nat.not_le_of_lt hlt)

end

end World

end Conformance
