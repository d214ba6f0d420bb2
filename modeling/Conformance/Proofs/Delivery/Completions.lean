import Conformance.Proofs.Server.Histories

/-!
# Completions

The completion of a run is published in the step that records its end, and stays. A record is
replaced by that of a later run only after its completion has been published, so that whoever waits
for a run never misses its end.

## Main definitions

- `Server.Effect` — what a step does to records and completions
- `Server.Published` — completions are those of the runs that have ended
- `ExecutionRecord.Ended` — the end that the events of a run tell of

## Main statements

- `Server.Served.effect`, `Server.effect_step?` — every step has one of the effects
- `Server.published_of_run` — completions are right after every run of a server
- `Server.Effect.persists` — a completion stays
- `Server.ended_iff` — the events of a run tell of its completion, and of no other end
-/

namespace Conformance

/-- The end that the events of a run tell of: its result, or the text of its failure. -/
inductive ExecutionRecord.Ended (r : ExecutionRecord) : Completion → Prop
  | completed {e : HistoryEvent} {result : Json} (he : e ∈ r.events)
      (htype : e.eventType = .workflowExecutionCompleted)
      (hresult : e.attributes.get? "result" = some result) : Ended r (.ok result)
  | failed {e : HistoryEvent} {failure : String} (he : e ∈ r.events)
      (htype : e.eventType = .workflowExecutionFailed)
      (hfailure : e.attributes.get? "failure" = some (.str failure)) : Ended r (.error failure)

namespace Server

/-! ## What a step does to records and completions -/

/-- What a step does to records and completions: nothing, it starts a run whose workflow id has no
other one, it goes on with a run, or it ends a run and publishes its completion. -/
inductive Effect (s s' : Server) : Prop
  | nothing (hexecutions : s'.executions = s.executions)
      (hcompletions : s'.completions = s.completions) (hstarts : s.starts ≤ s'.starts)
  | started (r : ExecutionRecord) (hrunning : r.status = .running)
      (hnew : r.execution.runId = runIdOf (s.starts + 1))
      (hidle : ∀ old, s.executions.get? r.execution.workflowId = some old →
        old.status ≠ .running)
      (hrewrites : Rewrites s s' r.execution.workflowId r)
      (hcompletions : s'.completions = s.completions) (hstarts : s'.starts = s.starts + 1)
  | moved {id : String} {r r' : ExecutionRecord} (hr : s.executions.get? id = some r)
      (hrunning : r.status = .running) (hsame : r'.execution = r.execution)
      (hgoes_on : r'.status = .running) (hrewrites : Rewrites s s' id r')
      (hcompletions : s'.completions = s.completions) (hstarts : s'.starts = s.starts)
  | ended {id : String} {r : ExecutionRecord} (c : Completion)
      (hr : s.executions.get? id = some r) (hrunning : r.status = .running)
      (hrewrites : Rewrites s s' id (r.finish c))
      (hcompletions : s'.completions = s.completions.insert r.execution.runId c)
      (hstarts : s'.starts = s.starts)

section

variable {s s' : Server}

theorem completions_accept (s : Server) (target : String) (ns : Option String)
    (workflowType : String) (options : WorkflowOptions) (args : List Json) (e : Execution) :
    (s.accept target ns workflowType options args e).completions = s.completions := by
  unfold accept dispatch
  split <;> rfl

theorem completions_attach (s : Server) (target : String) (id : WorkerId) :
    (s.attach target id).completions = s.completions := by
  cases hw : s.worker? id with
  | none =>
    rw [Server.attach, hw]
  | some w =>
    rw [attach_eq hw]
    rfl

/-- A request starts a run, or leaves all of them alone. -/
theorem Served.effect {x : Exchange} (h : Served s x s') : Effect s s' := by
  cases h with
  | quiet _ hquiet => exact .nothing hquiet.executions hquiet.completions hquiet.starts
  | accept target ns workflowType options args hidle =>
    exact .started (newRecord (s.nextRun options) workflowType options args) rfl rfl hidle
      (executions_accept s target ns workflowType options args (s.nextRun options))
      (completions_accept ..) (starts_accept ..)
  | attach target id =>
    obtain ⟨hexecutions, hstarts⟩ := executions_attach s target id
    exact .nothing hexecutions (completions_attach ..) (Nat.le_of_eq hstarts.symm)
  | detach id =>
    rw [detach_eq]
    exact .nothing rfl rfl (Nat.le_refl _)

theorem finish_effect {id : String} {r : ExecutionRecord} (hr : s.executions.get? id = some r)
    (hrunning : r.status = .running) (c : Completion) : Effect s (s.finish id c) := by
  refine .ended c hr hrunning (rewrites_finish hr c) ?_ ?_ <;>
  · unfold finish
    rw [hr]

theorem callActivity_effect {signals : Signals} {t : WorkflowTask} {r : ExecutionRecord}
    (hr : s.executions.get? t.workflowId = some r) (hrunning : r.status = .running) {a : String}
    {args : List Json} {next : Ending → Code}
    (hp : t.phase = .running (.callActivity a args next)) :
    Effect s (s.callActivity signals t a args next).server := by
  obtain ⟨r', hmove, hrewrites⟩ := callActivity_move signals hr hp
  have hsetting := sameSetting_callActivity s signals t a args next
  have htask : ∃ u, (s.callActivity signals t a args next).task = some u := by
    unfold callActivity
    rw [hr]
    dsimp only
    split <;> exact ⟨_, rfl⟩
  obtain ⟨u, hu⟩ := htask
  rw [hu] at hmove
  have hcompletions :
      (s.callActivity signals t a args next).server.completions = s.completions := by
    unfold callActivity
    rw [hr]
    dsimp only
    split <;> rfl
  exact .moved hr hrunning hmove.sameRun.execution (hmove.status_of_some.trans hrunning) hrewrites
    hcompletions hsetting.starts

/-- A step of the task of a run goes on with the run or ends it. -/
theorem StepOf.effect {signals : Signals} {t : WorkflowTask} {t' : Option WorkflowTask}
    (h : StepOf s signals t t' s') {r : ExecutionRecord}
    (hr : s.executions.get? t.workflowId = some r) (hrunning : r.status = .running) :
    Effect s s' := by
  cases h with
  | begin _ =>
    unfold Server.begin
    rw [hr]
    dsimp only
    split
    · exact .nothing rfl rfl (Nat.le_refl _)
    · exact finish_effect hr hrunning _
  | finish e _ => exact finish_effect hr hrunning _
  | call a args next hp => exact callActivity_effect hr hrunning hp
  | close id e next _ =>
    exact .moved hr hrunning (sameRun_close r id e).execution ((status_close r id e).trans hrunning)
      (rewrites_modifyExecution hr _) rfl rfl
  | still _ _ _ => exact .nothing rfl rfl (Nat.le_refl _)

theorem Effect.with_tasks (h : Effect s s') (tasks : List WorkflowTask) :
    Effect s { s' with tasks } := by
  cases h with
  | nothing hexecutions hcompletions hstarts => exact .nothing hexecutions hcompletions hstarts
  | started r hrunning hnew hidle hrewrites hcompletions hstarts =>
    exact .started r hrunning hnew hidle hrewrites hcompletions hstarts
  | moved hr hrunning hsame hgoes_on hrewrites hcompletions hstarts =>
    exact .moved hr hrunning hsame hgoes_on hrewrites hcompletions hstarts
  | ended c hr hrunning hrewrites hcompletions hstarts =>
    exact .ended c hr hrunning hrewrites hcompletions hstarts

theorem effect_step? (haccounted : Accounted s) {now i : Nat} {signals signals' : Signals}
    (h : s.step? now signals i = some (s', signals')) : Effect s s' := by
  obtain ⟨t, t', s₁, rest, hstep, hbefore, -, heq⟩ := step?_cases h
  have ht : t ∈ s.tasks := hbefore.mem_iff.mpr List.mem_cons_self
  have hruns := haccounted.runs t.workflowId (List.mem_map_of_mem ht)
  obtain ⟨queue, hqueue⟩ := Option.ne_none_iff_exists'.mp hruns
  obtain ⟨r, hr, hrunning, -⟩ := runningOn_eq_some_iff.mp hqueue
  rw [heq]
  exact (hstep.effect hr hrunning).with_tasks _

theorem effect_letThrough (s : Server) (latch : SignalId) : Effect s (s.letThrough latch) :=
  .nothing rfl rfl (Nat.le_refl _)

end

/-! ## Completions are those of the runs that have ended -/

/-- A completion is there for every run that has ended, and for no run that goes on. -/
structure Published (s : Server) : Prop where
  /-- the completions are those of runs that have been started -/
  given : ∀ key c, s.completions.get? key = some c → ∃ n, n ≤ s.starts ∧ key = runIdOf n
  distinct : ∀ id id' r r', s.executions.get? id = some r → s.executions.get? id' = some r' →
    r.execution.runId = r'.execution.runId → id = id'
  running : ∀ id r, s.executions.get? id = some r → r.status = .running →
    s.completions.get? r.execution.runId = none
  ended : ∀ id r, s.executions.get? id = some r → r.status ≠ .running →
    ∃ (before : ExecutionRecord) (c : Completion), r = before.finish c ∧
      s.completions.get? r.execution.runId = some c

theorem Fresh.published {s : Server} (h : Fresh s) : Published s := by
  obtain ⟨updateSupport, refused, failingShutdown, rfl⟩ := h
  exact ⟨nofun, nofun, nofun, nofun⟩

section

variable {s s' : Server}

/-- A completion is given once, when the run has none yet. -/
theorem Effect.persists (h : Effect s s') (hpublished : Published s) {key : String}
    {c : Completion} (hc : s.completions.get? key = some c) : s'.completions.get? key = some c := by
  cases h with
  | nothing _ hcompletions _ => rwa [hcompletions]
  | started _ _ _ _ _ hcompletions _ => rwa [hcompletions]
  | moved _ _ _ _ _ hcompletions _ => rwa [hcompletions]
  | @ended id r c' hr hrunning _ hcompletions _ =>
    have hnone := hpublished.running id r hr hrunning
    have hne : r.execution.runId ≠ key := by
      rintro rfl
      rw [hnone] at hc
      cases hc
    rw [hcompletions, Table.get?_insert, if_neg hne]
    exact hc

theorem Published.distinct_of_same (h : Published s)
    (hback : ∀ id r', s'.executions.get? id = some r' →
      ∃ r, s.executions.get? id = some r ∧ r'.execution = r.execution) :
    ∀ id id' r r', s'.executions.get? id = some r → s'.executions.get? id' = some r' →
      r.execution.runId = r'.execution.runId → id = id' := by
  intro id id' r r' hr hr' hsame
  obtain ⟨r₁, hr₁, heq⟩ := hback id r hr
  obtain ⟨r₁', hr₁', heq'⟩ := hback id' r' hr'
  rw [heq, heq'] at hsame
  exact h.distinct id id' r₁ r₁' hr₁ hr₁' hsame

theorem Rewrites.cases {id : String} {r' : ExecutionRecord} (h : Rewrites s s' id r')
    {id' : String} {r : ExecutionRecord} (hr : s'.executions.get? id' = some r) :
    id = id' ∧ r = r' ∨ id ≠ id' ∧ s.executions.get? id' = some r := by
  rw [h] at hr
  by_cases heq : id = id'
  · rw [if_pos heq] at hr
    exact .inl ⟨heq, (Option.some.inj hr).symm⟩
  · rw [if_neg heq] at hr
    exact .inr ⟨heq, hr⟩

theorem Rewrites.back {id : String} {r r' : ExecutionRecord} (h : Rewrites s s' id r')
    (hr : s.executions.get? id = some r) (hsame : r'.execution = r.execution) :
    ∀ id' r₁', s'.executions.get? id' = some r₁' →
      ∃ r₁, s.executions.get? id' = some r₁ ∧ r₁'.execution = r₁.execution := by
  intro id' r₁' hr₁'
  rcases h.cases hr₁' with ⟨rfl, rfl⟩ | ⟨-, hr₁⟩
  · exact ⟨r, hr, hsame⟩
  · exact ⟨r₁', hr₁, rfl⟩

theorem Published.started (h : Published s) {log : List Exchange} (hnumbered : Numbered log s)
    {r : ExecutionRecord} (hrunning : r.status = .running)
    (hnew : r.execution.runId = runIdOf (s.starts + 1))
    (hrewrites : Rewrites s s' r.execution.workflowId r)
    (hcompletions : s'.completions = s.completions) (hstarts : s'.starts = s.starts + 1) :
    Published s' := by
  -- the number of the new run is larger than all that have been given out
  have hlater : ∀ n, n ≤ s.starts → r.execution.runId ≠ runIdOf n := by
    intro n hn hsame
    have := runIdOf_inj (hnew.symm.trans hsame)
    omega
  have hother : ∀ id r', s.executions.get? id = some r' →
      r.execution.runId ≠ r'.execution.runId := by
    intro id r' hr'
    obtain ⟨n, hn, hid⟩ := hnumbered.numbered id r' hr'
    rw [hid]
    exact hlater n hn
  refine ⟨fun key c hc => ?given, fun id id' r₁ r₂ hr₁ hr₂ hsame => ?distinct,
    fun id r₁ hr₁ hrunning₁ => ?running, fun id r₁ hr₁ hended => ?ended⟩
  case given =>
    rw [hcompletions] at hc
    obtain ⟨n, hn, hkey⟩ := h.given key c hc
    exact ⟨n, by omega, hkey⟩
  case distinct =>
    rcases hrewrites.cases hr₁ with ⟨rfl, rfl⟩ | ⟨-, hr₁⟩ <;>
      rcases hrewrites.cases hr₂ with ⟨rfl, rfl⟩ | ⟨-, hr₂⟩
    · rfl
    · exact absurd hsame (hother id' r₂ hr₂)
    · exact absurd hsame.symm (hother id r₁ hr₁)
    · exact h.distinct id id' r₁ r₂ hr₁ hr₂ hsame
  case running =>
    rw [hcompletions]
    rcases hrewrites.cases hr₁ with ⟨rfl, rfl⟩ | ⟨-, hr₁⟩
    · refine Option.eq_none_iff_forall_ne_some.mpr fun c hc => ?_
      obtain ⟨n, hn, hkey⟩ := h.given _ c hc
      exact hlater n hn hkey
    · exact h.running id r₁ hr₁ hrunning₁
  case ended =>
    rw [hcompletions]
    rcases hrewrites.cases hr₁ with ⟨rfl, rfl⟩ | ⟨-, hr₁⟩
    · exact absurd hrunning hended
    · exact h.ended id r₁ hr₁ hended

theorem Published.moved (h : Published s) {id : String} {r r' : ExecutionRecord}
    (hr : s.executions.get? id = some r) (hrunning : r.status = .running)
    (hsame : r'.execution = r.execution) (hgoes_on : r'.status = .running)
    (hrewrites : Rewrites s s' id r') (hcompletions : s'.completions = s.completions)
    (hstarts : s'.starts = s.starts) : Published s' := by
  refine ⟨?given, h.distinct_of_same (hrewrites.back hr hsame),
    fun id₁ r₁ hr₁ hrunning₁ => ?running, fun id₁ r₁ hr₁ hended => ?ended⟩
  case given =>
    rw [hcompletions, hstarts]
    exact h.given
  case running =>
    rw [hcompletions]
    rcases hrewrites.cases hr₁ with ⟨rfl, rfl⟩ | ⟨-, hr₁⟩
    · rw [hsame]
      exact h.running id r hr hrunning
    · exact h.running id₁ r₁ hr₁ hrunning₁
  case ended =>
    rw [hcompletions]
    rcases hrewrites.cases hr₁ with ⟨rfl, rfl⟩ | ⟨-, hr₁⟩
    · exact absurd hgoes_on hended
    · exact h.ended id₁ r₁ hr₁ hended

theorem Published.finished (h : Published s) {log : List Exchange} (hnumbered : Numbered log s)
    {id : String} {r : ExecutionRecord} {c : Completion} (hr : s.executions.get? id = some r)
    (hrewrites : Rewrites s s' id (r.finish c))
    (hcompletions : s'.completions = s.completions.insert r.execution.runId c)
    (hstarts : s'.starts = s.starts) : Published s' := by
  have hsame : (r.finish c).execution = r.execution := (sameRun_finish r c).execution
  -- the completions of the other runs stay
  have hother : ∀ id₁ r₁, id ≠ id₁ → s.executions.get? id₁ = some r₁ →
      s'.completions.get? r₁.execution.runId = s.completions.get? r₁.execution.runId := by
    intro id₁ r₁ hne hr₁
    rw [hcompletions, Table.get?_insert, if_neg]
    exact fun heq => hne (h.distinct id id₁ r r₁ hr hr₁ heq)
  refine ⟨fun key c' hc' => ?given, h.distinct_of_same (hrewrites.back hr hsame),
    fun id₁ r₁ hr₁ hrunning₁ => ?running, fun id₁ r₁ hr₁ hended => ?ended⟩
  case given =>
    rw [hcompletions, Table.get?_insert] at hc'
    rw [hstarts]
    split at hc'
    · rename_i hkey
      rw [← hkey]
      exact hnumbered.numbered id r hr
    · exact h.given key c' hc'
  case running =>
    rcases hrewrites.cases hr₁ with ⟨rfl, rfl⟩ | ⟨hne, hr₁⟩
    · exact absurd hrunning₁ (status_finish r c)
    · rw [hother id₁ r₁ hne hr₁]
      exact h.running id₁ r₁ hr₁ hrunning₁
  case ended =>
    rcases hrewrites.cases hr₁ with ⟨rfl, rfl⟩ | ⟨hne, hr₁⟩
    · refine ⟨r, c, rfl, ?_⟩
      rw [hsame, hcompletions, Table.get?_insert, if_pos rfl]
    · rw [hother id₁ r₁ hne hr₁]
      exact h.ended id₁ r₁ hr₁ hended

theorem Published.effect {log : List Exchange} (h : Published s) (hnumbered : Numbered log s)
    (heffect : Effect s s') : Published s' := by
  cases heffect with
  | nothing hexecutions hcompletions hstarts =>
    refine ⟨fun key c hc => ?_, ?_, ?_, ?_⟩
    · rw [hcompletions] at hc
      obtain ⟨n, hn, hkey⟩ := h.given key c hc
      exact ⟨n, Nat.le_trans hn hstarts, hkey⟩
    · rw [hexecutions]
      exact h.distinct
    · rw [hexecutions, hcompletions]
      exact h.running
    · rw [hexecutions, hcompletions]
      exact h.ended
  | started r hrunning hnew _ hrewrites hcompletions hstarts =>
    exact h.started hnumbered hrunning hnew hrewrites hcompletions hstarts
  | moved hr hrunning hsame hgoes_on hrewrites hcompletions hstarts =>
    exact h.moved hr hrunning hsame hgoes_on hrewrites hcompletions hstarts
  | ended c hr _ hrewrites hcompletions hstarts =>
    exact h.finished hnumbered hr hrewrites hcompletions hstarts

end

/-- The completions are right after every run of a server. -/
theorem published_of_run {s₀ s : Server} {log : List Exchange} (h₀ : Fresh s₀)
    (h : Run s₀ log s) : Published s := by
  induction h with
  | start => exact h₀.published
  | serve hrun q ih => exact ih.effect (numbered_of_run h₀ hrun) (serve_cases _ q).effect
  | task hrun hstep ih =>
    exact ih.effect (numbered_of_run h₀ hrun) (effect_step? (accounted_of_run h₀ hrun) hstep)
  | letThrough hrun latch ih => exact ih.effect (numbered_of_run h₀ hrun) (effect_letThrough _ latch)

/-! ## Events tell of completions -/

/-- The record of a run that has ended tells of its end. -/
theorem ended_finish (r : ExecutionRecord) (c : Completion) : (r.finish c).Ended c := by
  cases c with
  | ok result =>
    refine .completed (List.mem_append_right _ List.mem_cons_self) rfl ?_
    rw [Json.get?_ofFields]
    rfl
  | error failure =>
    refine .failed (List.mem_append_right _ List.mem_cons_self) rfl ?_
    rw [Json.get?_ofFields]
    rfl

theorem last_finish (r : ExecutionRecord) (c : Completion) :
    ∃ e, (r.finish c).events.getLast? = some e ∧
      match c with
      | .ok result => e.eventType = .workflowExecutionCompleted ∧
          e.attributes.get? "result" = some result
      | .error failure => e.eventType = .workflowExecutionFailed ∧
          e.attributes.get? "failure" = some (.str failure) := by
  cases c with
  | ok result =>
    refine ⟨_, List.getLast?_concat, rfl, ?_⟩
    rw [Json.get?_ofFields]
    rfl
  | error failure =>
    refine ⟨_, List.getLast?_concat, rfl, ?_⟩
    rw [Json.get?_ofFields]
    rfl

section

variable {workflowType taskQueue : String} {input : List Json} {r : ExecutionRecord}
  (hr : WellFormed workflowType taskQueue input r.status r.events)

include hr

/-- An end comes last, so that there is only one. -/
theorem eq_last_of_end {last e : HistoryEvent} (hlast : r.events.getLast? = some last)
    (he : e ∈ r.events) (hend : e.IsEnd) : e = last := by
  obtain ⟨i, hi⟩ := List.mem_iff_getElem?.mp he
  have hplace := hr.ends i e hi hend
  rw [List.getLast?_eq_getElem?, ← hplace, Nat.add_sub_cancel, hi] at hlast
  exact Option.some.inj hlast

theorem ended_unique {before : ExecutionRecord} {c c' : Completion} (hlast : r = before.finish c')
    (h : r.Ended c) : c = c' := by
  obtain ⟨last, hget, htells⟩ := last_finish before c'
  rw [← hlast] at hget
  cases h with
  | completed he htype hresult =>
    have heq := eq_last_of_end hr hget he (Or.inl htype)
    rw [heq] at htype hresult
    cases c' with
    | ok result' => rw [Option.some.inj (hresult.symm.trans htells.2)]
    | error failure' => exact nomatch htype.symm.trans htells.1
  | failed he htype hfailure =>
    have heq := eq_last_of_end hr hget he (Or.inr htype)
    rw [heq] at htype hfailure
    cases c' with
    | ok result' => exact nomatch htype.symm.trans htells.1
    | error failure' =>
      have htext := Option.some.inj (hfailure.symm.trans htells.2)
      rw [Json.str.inj htext]

theorem running_iff : r.status = .running ↔ ∀ e ∈ r.events, ¬ e.IsEnd := by
  constructor
  · rintro hrunning e he (htype | htype)
    · exact nomatch hrunning.symm.trans (hr.completed.mpr ⟨e, he, htype⟩)
    · exact nomatch hrunning.symm.trans (hr.failed.mpr ⟨e, he, htype⟩)
  · intro hnone
    cases hstatus : r.status with
    | running => rfl
    | completed =>
      obtain ⟨e, he, htype⟩ := hr.completed.mp hstatus
      exact absurd (Or.inl htype) (hnone e he)
    | failed =>
      obtain ⟨e, he, htype⟩ := hr.failed.mp hstatus
      exact absurd (Or.inr htype) (hnone e he)

end

theorem wellFormed_of_run {s₀ s : Server} {log : List Exchange} (h₀ : Fresh s₀)
    (h : Run s₀ log s) {id : String} {r : ExecutionRecord}
    (hr : s.executions.get? id = some r) :
    ∃ workflowType taskQueue input, WellFormed workflowType taskQueue input r.status r.events := by
  obtain ⟨p, hseen⟩ := seen_exists hr
  obtain ⟨r₀, hopening, hstory⟩ := story_of_run h₀ h id p r hseen
  cases hopening with
  | mk _ _ _ _ _ _ _ => exact ⟨_, _, _, wellFormed_of_story hstory⟩

/-- The events of a run tell of an end exactly if it is the completion of the run. -/
theorem ended_iff {s₀ s : Server} {log : List Exchange} (h₀ : Fresh s₀) (h : Run s₀ log s)
    {id : String} {r : ExecutionRecord} (hr : s.executions.get? id = some r) {c : Completion} :
    r.Ended c ↔ s.completions.get? r.execution.runId = some c := by
  obtain ⟨workflowType, taskQueue, input, hwellFormed⟩ := wellFormed_of_run h₀ h hr
  have hpublished := published_of_run h₀ h
  constructor
  · intro hended
    have hstatus : r.status ≠ .running := by
      intro hrunning
      have hnone := (running_iff hwellFormed).mp hrunning
      cases hended with
      | completed he htype _ => exact hnone _ he (Or.inl htype)
      | failed he htype _ => exact hnone _ he (Or.inr htype)
    obtain ⟨before, c', hlast, hc'⟩ := hpublished.ended id r hr hstatus
    rw [ended_unique hwellFormed hlast hended]
    exact hc'
  · intro hc
    have hstatus : r.status ≠ .running := by
      intro hrunning
      rw [hpublished.running id r hr hrunning] at hc
      cases hc
    obtain ⟨before, c', hlast, hc'⟩ := hpublished.ended id r hr hstatus
    cases hc.symm.trans hc'
    rw [hlast]
    exact ended_finish before c

theorem result_of_completed {s₀ s : Server} {log : List Exchange} (h₀ : Fresh s₀)
    (h : Run s₀ log s) {id : String} {r : ExecutionRecord}
    (hr : s.executions.get? id = some r) {e : HistoryEvent} (he : e ∈ r.events)
    (htype : e.eventType = .workflowExecutionCompleted) :
    ∃ result, e.attributes.get? "result" = some result := by
  obtain ⟨_, _, _, hwellFormed⟩ := wellFormed_of_run h₀ h hr
  have hstatus : r.status ≠ .running := fun hrunning =>
    (running_iff hwellFormed).mp hrunning e he (Or.inl htype)
  obtain ⟨before, c, hlast, -⟩ := (published_of_run h₀ h).ended id r hr hstatus
  obtain ⟨last, hget, htells⟩ := last_finish before c
  rw [← hlast] at hget
  have heq := eq_last_of_end hwellFormed hget he (Or.inl htype)
  rw [heq] at htype ⊢
  cases c with
  | ok result => exact ⟨result, htells.2⟩
  | error failure => exact nomatch htype.symm.trans htells.1

end Server

end Conformance
