import Conformance.Proofs.Replay.Recording

/-!
# Recording and replaying agree

A run of a deterministic workflow leaves a history that replays. What was recorded is what the code
did; a replay gives the code what was recorded; so the code does the same again.

## Main definitions

- `Server.Begins` — a step with which the code of a workflow begins to run

## Main statements

- `Server.follows_of_begins` — from then on the record of the run follows that code
- `ExecutionRecord.replay_eq_ok` — the history of a run that has ended replays
- `Server.replay_of_finished_run` — so does what a server reports of such a run, on every worker
-/

namespace Conformance

namespace Server

/-! ## The beginning of a run -/

/-- The step from `s` to `s'` is the one with which the code of the workflow `f` begins to run, for
the run with the record `r`. -/
def Begins (s s' : Server) (r : ExecutionRecord) (f : Workflow) : Prop :=
  ∃ now i signals signals' t, s.step? now signals i = some (s', signals') ∧
    s.tasks[i]? = some t ∧ t.phase = .fresh ∧ s.executions.get? t.workflowId = some r ∧
    (s.worker? t.worker).bind (·.workflow? r.workflowType) = some f

/-- The run that begins is seen before and after the step. -/
theorem Begins.seen {s s' : Server} {r : ExecutionRecord} {f : Workflow} (h : Begins s s' r f) :
    ∃ id, Seen s id (some .fresh) r ∧ Seen s' id (some (.running (f.code false r.input))) r := by
  obtain ⟨now, i, signals, signals', t, hstep, ht, hphase, hr, hf⟩ := h
  have hbegin : s.begin signals t =
      ⟨some { t with phase := .running (f.code false r.input) }, s, signals⟩ := by
    rw [begin, hr]
    dsimp only
    rw [hf]
  have htask : s.stepTask now signals t = some (s.begin signals t) := by
    unfold stepTask
    rw [hphase]
  rw [step?, ht] at hstep
  dsimp only at hstep
  rw [htask, hbegin] at hstep
  cases hstep
  have hmem : t ∈ s.tasks := List.mem_of_getElem? ht
  have hfresh := InPhase.busy t hmem rfl
  rw [hphase] at hfresh
  refine ⟨t.workflowId, ⟨hr, hfresh⟩, hr, ?_⟩
  refine .busy { t with phase := .running (f.code false r.input) } ?_ rfl
  exact (arranged_perm ..).mem_iff.mpr List.mem_cons_self

/-- A workflow id has one task at most, and so one phase. -/
theorem Accounted.phase_unique {s : Server} (h : Accounted s) {id : String}
    {p p' : Option TaskPhase} (hp : InPhase s id p) (hp' : InPhase s id p') : p = p' := by
  cases hp with
  | idle hnot =>
    cases hp' with
    | idle _ => rfl
    | busy t ht hid => exact absurd (hid ▸ List.mem_map_of_mem ht) hnot
  | busy t ht hid =>
    cases hp' with
    | idle hnot => exact absurd (hid ▸ List.mem_map_of_mem ht) hnot
    | busy t' ht' hid' =>
      rw [List.inj_on_of_nodup_map h.runs_once ht ht' (hid.trans hid'.symm)]

/-- A run that begins has only just been started. -/
theorem opening_of_fresh {s₀ s : Server} {log : List Exchange} (h₀ : Fresh s₀) (h : Run s₀ log s)
    {id : String} {r : ExecutionRecord} (hseen : Seen s id (some .fresh) r) : Opening log r := by
  obtain ⟨r₀, hopening, hstory⟩ := story_of_run h₀ h id _ r hseen
  cases hstory with
  | fresh => exact hopening
  | follows c hfollows => cases hfollows

/-! ## What follows it -/

/-- Turns continue a run that follows its code, or replace it by another one. -/
theorem Turn.follows {s : Server} {x : Option Exchange} {id : String} {p : Option TaskPhase}
    {c : Code} {r r' : ExecutionRecord} (h : Turn s x id p r') (hrunning : r.status = .running)
    (hnumber : ∃ n, n ≤ s.starts ∧ r.execution.runId = runIdOf n)
    (hfollows : ∀ p r', Seen s id p r' → r'.execution = r.execution → Follows c r p r')
    (hsame : r'.execution = r.execution) : Follows c r p r' := by
  cases h with
  | same hseen => exact hfollows _ _ hseen hsame
  | handed hseen hr =>
    rcases (hfollows _ _ hseen hsame).status hrunning with ⟨-, hsome⟩ | ⟨hended, -⟩
    · cases hsome
    · exact absurd hr hended
  | started target ns workflowType options args _ _ _ =>
    -- the new run has a number that has not been given out before
    obtain ⟨n, hn, hid⟩ := hnumber
    have hfresh : runIdOf (s.starts + 1) = runIdOf n :=
      (congrArg Execution.runId hsame).trans hid
    have hlater := runIdOf_inj hfresh
    omega
  | moved hseen hmove =>
    have hbefore := hfollows _ _ hseen (hmove.sameRun.execution.symm.trans hsame)
    exact hbefore.move hmove

/-- From the step on with which its code begins to run, the record of a run follows this code. -/
theorem follows_of_begins {s₀ s s₁ s' : Server} {log log' : List Exchange} (h₀ : Fresh s₀)
    (h : Run s₀ log s) {r : ExecutionRecord} {f : Workflow} (hbegins : Begins s s₁ r f)
    (h' : Run s₁ log' s') {id : String} {r' : ExecutionRecord}
    (hr' : s'.executions.get? id = some r') (hsame : r'.execution = r.execution) :
    ∃ p, Seen s' id p r' ∧ Follows (f.code false r.input) r p r' := by
  obtain ⟨id₁, hseen, hseen₁⟩ := hbegins.seen
  obtain ⟨now, i, signals, signals', t, hstep, -⟩ := hbegins
  have h₁ : Run s₀ log s₁ := h.task hstep
  have hrunning : r.status = .running := (opening_of_fresh h₀ h hseen).status
  have hnumbered := numbered_of_run h₀ h₁
  obtain ⟨n, hn, hnumber⟩ := hnumbered.numbered id₁ r hseen₁.1
  have hid : r.execution.workflowId = id₁ := hnumbered.named id₁ r hseen₁.1
  have hfollows := Run.seen_induction h₀ h₁ h' (P := fun _ id p r' =>
    id = id₁ → r'.execution = r.execution → Follows (f.code false r.input) r p r') ?_ ?_
  · obtain ⟨p, hseen'⟩ := seen_exists hr'
    refine ⟨p, hseen', hfollows id p r' hseen' ?_ hsame⟩
    rw [← hid, ← hsame]
    exact ((numbered_of_run h₀ (h₁.trans h')).named id r' hr').symm
  · -- at first the code has made no call
    rintro _ p r'' ⟨hr'', hp⟩ rfl -
    obtain rfl := Option.some.inj (hseen₁.1.symm.trans hr'')
    rw [(accounted_of_run h₀ h₁).phase_unique hp hseen₁.2]
    exact .running [] _ (.refl _)
  · -- later turns follow the code, as long as they are turns of this run
    rintro log s x hrun ih _ p r'' hturn rfl hsame
    have hnumber' : ∃ n, n ≤ s.starts ∧ r.execution.runId = runIdOf n :=
      ⟨n, Nat.le_trans hn hrun.starts_le, hnumber⟩
    exact hturn.follows hrunning hnumber' (fun p r' hseen => ih _ p r' hseen rfl) hsame

end Server

/-! ## Replaying -/

open Server

/-- A run that has ended tells whether its code succeeded. -/
theorem ExecutionRecord.status_finish_ofEnding (r : ExecutionRecord) (e : Ending) :
    (r.finish (Completion.ofEnding e)).status = if e.isOk then .completed else .failed := by
  cases e <;> rfl

/-- A history holds the calls that its run has made. -/
theorem activities_of_calls (e : Execution) (workflowType : String) (options : WorkflowOptions)
    (args : List Json) (calls : List ActivityCall) (completion : Completion) :
    (((newRecord e workflowType options args).afterCalls calls).finish
      completion).history.activities = calls.map ActivityCall.recorded := by
  have hnone : (newRecord e workflowType options args).gathered.activities = [] := rfl
  refine (ExecutionRecord.activities_finish _ _).trans ?_
  rw [ExecutionRecord.activities_afterCalls, hnone, List.nil_append]

/-- A worker accepts a history if the workflow accepts it that is registered for its type. -/
theorem Worker.replay_of_registered {v : Worker} {g : Workflow} {history : History}
    {workflowType : String} (htype : history.workflowType? = some workflowType)
    (hg : v.workflow? workflowType = some g) (h : g.replay history = .ok ()) :
    v.replay history = .ok () := by
  unfold Worker.replay
  rw [htype]
  dsimp only
  rw [hg]
  dsimp only
  rw [h]

/-- The history of a run that has followed the code of a deterministic workflow to its end replays
against this code. -/
theorem ExecutionRecord.replay_eq_ok {e : Execution} {workflowType : String}
    {options : WorkflowOptions} {args : List Json} {f : Workflow} (hf : f.Deterministic)
    {r : ExecutionRecord}
    (h : Follows (f.code false args) (newRecord e workflowType options args) none r)
    {v : Worker} {g : Workflow} (hg : v.workflow? workflowType = some g)
    (hcode : g.code = f.code) : v.replay r.history = .ok () := by
  have hwellFormed := wellFormed_of_story (.follows _ h)
  have hinput : r.history.input = args := hwellFormed.input_eq
  refine Worker.replay_of_registered hwellFormed.workflowType?_eq hg ?_
  cases h with
  | finished calls ending hleads =>
    have hrecorded :=
      activities_of_calls e workflowType options args calls (Completion.ofEnding ending)
    rw [status_finish_ofEnding] at hwellFormed
    generalize ((newRecord e workflowType options args).afterCalls calls).finish
      (Completion.ofEnding ending) = r at hwellFormed hinput hrecorded ⊢
    -- the replayed code makes the same calls and ends with the same success
    obtain ⟨ending', hreplay, hsame⟩ := (hf.failures args).replay hleads []
    rw [List.nil_append, List.length_nil, Nat.zero_add] at hreplay
    have hcheck : r.history.check ending'.isOk { consumed := calls.length } = .ok () := by
      rw [hsame]
      refine hwellFormed.check_eq_ok ((congrArg List.length hrecorded).trans ?_) ?_ ?_
      · exact List.length_map ..
      · cases ending.isOk <;> simp
      · cases ending.isOk <;> simp
    unfold Workflow.replay
    rw [hcode, hf.replaying, hinput, hrecorded, hreplay]
    cases ending' <;> exact hcheck

namespace Server

/-- The record that an identity addresses is that of its workflow id. -/
theorem get?_of_addressed {s : Server} {e : Execution} {r : ExecutionRecord}
    (h : s.addressed e = .ok r) : s.executions.get? e.workflowId = some r := by
  unfold addressed at h
  split at h
  · rename_i r' hr
    split at h
    · rw [hr, Except.ok.inj h]
    · cases h
  · cases h

/-- Suppose the code of a deterministic workflow begins to run at a server, and after whatever else
has happened there the server reports that the run has ended. Then it also gives out the history of
the run, and every worker that has the workflow type registered with the same code accepts it. -/
theorem replay_of_finished_run {s₀ s s₁ s' : Server} {log log' : List Exchange} (h₀ : Fresh s₀)
    (h : Run s₀ log s) {r : ExecutionRecord} {f : Workflow} (hbegins : Begins s s₁ r f)
    (hf : f.Deterministic) (h' : Run s₁ log' s') {target ns : String} {e : Execution}
    {info : ExecutionInfo} (hinfo : (s'.describe target ns e).1 = .ok info)
    (hsame : info.execution = r.execution) (hended : info.status ≠ .running) :
    ∃ history, (s'.fetchHistory target ns e).1 = .ok history ∧
      ∀ (v : Worker) (g : Workflow), v.workflow? r.workflowType = some g → g.code = f.code →
        v.replay history = .ok () := by
  have hdescribe : (s'.addressed e).map (·.info) = .ok info := hinfo
  have hfetch : (s'.fetchHistory target ns e).1 = (s'.addressed e).map (·.history) := rfl
  cases haddressed : s'.addressed e with
  | error _ =>
    rw [haddressed] at hdescribe
    cases hdescribe
  | ok r' =>
    rw [haddressed] at hdescribe hfetch
    cases hdescribe
    refine ⟨r'.history, hfetch, ?_⟩
    intro v g hg hcode
    obtain ⟨id, hseen, -⟩ := hbegins.seen
    have hopening := opening_of_fresh h₀ h hseen
    obtain ⟨p, -, hfollows⟩ :=
      follows_of_begins h₀ h hbegins h' (get?_of_addressed haddressed) hsame
    -- a run that has ended has no task, so its code has come to its end
    rcases hfollows.status hopening.status with ⟨hrunning, -⟩ | ⟨-, rfl⟩
    · exact absurd hrunning hended
    · cases hopening with
      | mk target ns workflowType options args e _ =>
        exact ExecutionRecord.replay_eq_ok hf hfollows hg hcode

/-- The activity of a workflow is not registered. The workflow passes the failure on and fails, and
its history replays on a worker of another queue. -/
theorem replay_of_failed_run :
    let flow : Workflow := ⟨⟨"Flow", .any, 1⟩, fun _ args => .callActivity "Greet" args .done⟩
    let start : Request := .startWorkflow "direct" none "Flow"
      { workflowId := some "greeting", taskQueue := "queue" } [.str "Ada"]
    let s := (((({} : Server).serve (.addWorker "queue")).2.serve
      (.updateWorker 0 fun w => w.register flow)).2.serve (.attach "direct" 0)).2
    ∃ s₁ s₂ s₃ info history, (s.serve start).2.step? 0 {} 0 = some (s₁, {}) ∧
      s₁.step? 0 {} 0 = some (s₂, {}) ∧ s₂.step? 0 {} 0 = some (s₃, {}) ∧
      (s₃.describe "direct" "default" ⟨"greeting", ""⟩).1 = .ok info ∧ info.status = .failed ∧
      (s₃.fetchHistory "direct" "default" ⟨"greeting", ""⟩).1 = .ok history ∧
      Worker.replay { taskQueue := "other", workflows := [flow] } history = .ok () := by
  intro flow start s
  have hflow : flow.Deterministic := by
    refine ⟨rfl, fun args => .call _ _ _ (fun v => ?_) fun f g => ?_⟩
    · exact .done _ _ rfl
    · exact .done _ _ rfl
  have hrun : Run {} _ (s.serve start).2 :=
    (((Run.start.serve (.addWorker "queue")).serve
      (.updateWorker 0 fun w => w.register flow)).serve (.attach "direct" 0)).serve start
  have hreplays : ∀ s₁ s₂ s₃ info r t, (s.serve start).2.step? 0 {} 0 = some (s₁, {}) →
      (s.serve start).2.tasks[0]? = some t → t.phase = .fresh →
      (s.serve start).2.executions.get? t.workflowId = some r →
      ((s.serve start).2.worker? t.worker).bind (·.workflow? r.workflowType) = some flow →
      s₁.step? 0 {} 0 = some (s₂, {}) → s₂.step? 0 {} 0 = some (s₃, {}) →
      (s₃.describe "direct" "default" ⟨"greeting", ""⟩).1 = .ok info →
      info.execution = r.execution → info.status = .failed → r.workflowType = "Flow" →
      ∃ s₁ s₂ s₃ info history, (s.serve start).2.step? 0 {} 0 = some (s₁, {}) ∧
        s₁.step? 0 {} 0 = some (s₂, {}) ∧ s₂.step? 0 {} 0 = some (s₃, {}) ∧
        (s₃.describe "direct" "default" ⟨"greeting", ""⟩).1 = .ok info ∧ info.status = .failed ∧
        (s₃.fetchHistory "direct" "default" ⟨"greeting", ""⟩).1 = .ok history ∧
        Worker.replay { taskQueue := "other", workflows := [flow] } history = .ok () := by
    intro s₁ s₂ s₃ info r t hstep ht hfresh hr hf hstep₁ hstep₂ hinfo hsame hfailed htype
    have hbegins : Begins (s.serve start).2 s₁ r flow :=
      ⟨0, 0, {}, {}, t, hstep, ht, hfresh, hr, hf⟩
    have hlater : Run s₁ [] s₃ := (Run.start.task hstep₁).task hstep₂
    have hended : info.status ≠ .running := by
      rw [hfailed]
      exact nofun
    obtain ⟨history, hfetch, haccepted⟩ := replay_of_finished_run ⟨.enabled, [], [], rfl⟩ hrun
      hbegins hflow hlater hinfo hsame hended
    have hg : Worker.workflow? { taskQueue := "other", workflows := [flow] } r.workflowType =
        some flow := by
      rw [htype]
      rfl
    exact ⟨s₁, s₂, s₃, info, history, hstep, hstep₁, hstep₂, hinfo, hfailed, hfetch,
      haccepted _ flow hg rfl⟩
  exact hreplays _ _ _ _ _ _ rfl rfl rfl rfl rfl rfl rfl rfl rfl rfl rfl

end Server

end Conformance
