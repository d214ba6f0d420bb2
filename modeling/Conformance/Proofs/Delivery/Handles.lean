import Mathlib.Data.List.Pairwise
import Conformance.Proofs.Delivery.Completions
import Conformance.Proofs.Server.Handover

/-!
# Handles of runs

A handle names a run by its workflow id and its run id. Records are kept by workflow id and replaced
in place, and every look-up compares run ids on its own. What a handle shows is therefore decided by
the starts of its workflow id: its own run until the next start that is accepted, and nothing from
then on. Without a run id it is always the latest run that is shown.

## Main definitions

- `Server.lastStarted` — the run that was started last for a workflow id, according to a log
- `Server.GoesOn` — a run that was started and has not ended
- `Server.AnswersFrom`, `Server.Denies` — what those who look up a run are told
- `Server.KeepsRunsApart` — no handle shows another run

## Main statements

- `Server.latestRun_of_run` — the record of a workflow id is that of its last start
- `Server.handed_down_of_run` — a run that is no longer the latest one has ended
- `Server.runs_are_kept_apart` — after every run of a server, no handle shows another run
-/

namespace Conformance.Server

/-! ## The last start of a workflow id -/

/-- The run that was started last for a workflow id. -/
def lastStarted (log : List Exchange) (id : String) : Option Execution :=
  ((startedIn log).filter (·.workflowId = id)).getLast?

theorem lastStarted_congr {log log' : List Exchange} (h : startedIn log' = startedIn log) :
    lastStarted log' = lastStarted log := by
  unfold lastStarted
  rw [h]

theorem lastStarted_concat {log : List Exchange} {x : Exchange} {e : Execution}
    (hx : x.started? = some e) (id : String) :
    lastStarted (log ++ [x]) id = if e.workflowId = id then some e else lastStarted log id := by
  unfold lastStarted
  rw [startedIn_concat_some hx, List.filter_append]
  by_cases h : e.workflowId = id
  · rw [if_pos h, List.filter_cons_of_pos (by simpa using h), List.filter_nil]
    exact List.getLast?_concat
  · rw [if_neg h, List.filter_cons_of_neg (by simpa using h), List.filter_nil, List.append_nil]

theorem mem_of_lastStarted {log : List Exchange} {id : String} {e : Execution}
    (h : lastStarted log id = some e) : e ∈ startedIn log ∧ e.workflowId = id := by
  have hmem := List.mem_filter.mp (List.mem_of_getLast? h)
  exact ⟨hmem.1, of_decide_eq_true hmem.2⟩

theorem startedIn_split {before after : List Exchange} {x : Exchange} {e : Execution}
    (hx : x.started? = some e) :
    startedIn (before ++ x :: after) = startedIn before ++ e :: startedIn after := by
  rw [startedIn_append, startedIn, startedIn, startedIn, List.filterMap_cons_some hx]

/-- A start is the last one as long as its workflow id is not used again. -/
theorem lastStarted_of_unused {before after : List Exchange} {x : Exchange} {e : Execution}
    (hx : x.started? = some e) (hunused : ∀ y ∈ startedIn after, y.workflowId ≠ e.workflowId) :
    lastStarted (before ++ x :: after) e.workflowId = some e := by
  have hnone : (startedIn after).filter (·.workflowId = e.workflowId) = [] :=
    List.filter_eq_nil_iff.mpr fun y hy => by simpa using hunused y hy
  unfold lastStarted
  rw [startedIn_split hx, List.filter_append, List.filter_cons_of_pos (by simp), hnone]
  exact List.getLast?_concat

/-- A start is not the last one any more when its workflow id is used again. -/
theorem lastStarted_of_reused {before after : List Exchange} {x : Exchange} {e y : Execution}
    (hx : x.started? = some e) (hy : y ∈ startedIn after) (hsame : y.workflowId = e.workflowId) :
    ∃ z ∈ startedIn after, lastStarted (before ++ x :: after) e.workflowId = some z := by
  have hmem : y ∈ (startedIn after).filter (·.workflowId = e.workflowId) :=
    List.mem_filter.mpr ⟨hy, decide_eq_true hsame⟩
  have hne := List.ne_nil_of_mem hmem
  refine ⟨_, (List.mem_filter.mp (List.getLast_mem hne)).1, ?_⟩
  unfold lastStarted
  rw [startedIn_split hx, List.filter_append, List.filter_cons_of_pos (by simp),
    List.getLast?_append_of_ne_nil _ (List.cons_ne_nil _ _), List.getLast?_cons,
    List.getLast?_eq_some_getLast hne]
  rfl

/-! ## Records are those of the last starts -/

theorem latestRun_of_same {s s' : Server} (h : s'.executions = s.executions) :
    s'.latestRun = s.latestRun := by
  unfold latestRun
  rw [h]

theorem latestRun_taskMove {s s' : Server} {t : WorkflowTask} {t' : Option WorkflowTask}
    {r r' : ExecutionRecord} {rest : List WorkflowTask} (hstep : TaskMove s s' t t' r r' rest) :
    s'.latestRun = s.latestRun := by
  funext id
  unfold latestRun
  rw [hstep.rewrites]
  by_cases heq : t.workflowId = id
  · rw [if_pos heq, ← heq, hstep.found, Option.map_some, Option.map_some,
      hstep.move.sameRun.execution]
  · rw [if_neg heq]

theorem latestRun_serve {log : List Exchange} {s s' : Server}
    (h : s.latestRun = lastStarted log) {x : Exchange} (hx : Served s x s') :
    s'.latestRun = lastStarted (log ++ [x]) := by
  cases hx with
  | quiet hnone hquiet =>
    rw [latestRun_of_same hquiet.executions, h, lastStarted_congr (startedIn_concat_none hnone)]
  | accept target ns workflowType options args _ =>
    funext id
    rw [lastStarted_concat rfl, ← h, latestRun, executions_accept]
    by_cases heq : (s.nextRun options).workflowId = id
    · rw [if_pos heq, if_pos heq]
      rfl
    · rw [if_neg heq, if_neg heq]
      rfl
  | attach target id =>
    rw [latestRun_of_same (executions_attach s target id).1, h,
      lastStarted_congr (startedIn_concat_none rfl)]
  | detach id =>
    rw [detach_eq, lastStarted_congr (startedIn_concat_none rfl)]
    exact h

/-- The record of a workflow id is that of the run that was started last for it. -/
theorem latestRun_of_run {s₀ s : Server} {log : List Exchange} (h₀ : Fresh s₀)
    (h : Run s₀ log s) : s.latestRun = lastStarted log := by
  induction h with
  | start =>
    obtain ⟨updateSupport, refused, failingShutdown, rfl⟩ := h₀
    rfl
  | serve _ q ih => exact latestRun_serve ih (serve_cases _ q)
  | task hrun hstep ih =>
    obtain ⟨t, t', r, r', rest, hmove⟩ := (accounted_of_run h₀ hrun).taskMove hstep
    rw [latestRun_taskMove hmove, ih]
  | letThrough _ latch ih => exact ih

/-! ## Only the latest run of a workflow id goes on -/

/-- Every run that was started is the latest one of its workflow id, or has ended. -/
def HandedDown (log : List Exchange) (s : Server) : Prop :=
  ∀ e ∈ startedIn log, s.latestRun e.workflowId = some e ∨
    ∃ c, s.completions.get? e.runId = some c

/-- A step after which the latest runs are the same hands down what has been. -/
theorem HandedDown.of_same {log log' : List Exchange} {s s' : Server} (h : HandedDown log s)
    (hpublished : Published s) (heffect : Effect s s') (hlatest : s'.latestRun = s.latestRun)
    (hlog : startedIn log' = startedIn log) : HandedDown log' s' := by
  intro e he
  rw [hlog] at he
  rcases h e he with hself | ⟨c, hc⟩
  · exact .inl (by rw [hlatest, hself])
  · exact .inr ⟨c, heffect.persists hpublished hc⟩

/-- A run is replaced by another one only after it has ended. -/
theorem HandedDown.accept {log : List Exchange} {s : Server} (h : HandedDown log s)
    (hpublished : Published s) (target : String) (ns : Option String) (workflowType : String)
    (options : WorkflowOptions) (args : List Json)
    (hidle : ∀ r, s.executions.get? (s.nextRun options).workflowId = some r →
      r.status ≠ .running) :
    HandedDown
      (log ++ [⟨.startWorkflow target ns workflowType options args, .ok (s.nextRun options)⟩])
      (s.accept target ns workflowType options args (s.nextRun options)) := by
  intro e he
  rw [startedIn_concat_some rfl] at he
  rw [completions_accept, latestRun, executions_accept]
  rcases List.mem_append.mp he with he | he
  · rcases h e he with hself | hended
    · by_cases heq : (s.nextRun options).workflowId = e.workflowId
      · -- the record that is replaced is that of `e`, which does not go on
        rw [latestRun, Option.map_eq_some_iff] at hself
        obtain ⟨r, hr, rfl⟩ := hself
        obtain ⟨-, c, -, hc⟩ := hpublished.ended _ r hr (hidle r (by rw [heq]; exact hr))
        exact .inr ⟨c, hc⟩
      · exact .inl (by rw [if_neg heq]; exact hself)
    · exact .inr hended
  · obtain rfl := List.mem_singleton.mp he
    exact .inl (by rw [if_pos rfl]; rfl)

theorem HandedDown.serve {log : List Exchange} {s s' : Server} (h : HandedDown log s)
    (hpublished : Published s) {x : Exchange} (hx : Served s x s') :
    HandedDown (log ++ [x]) s' := by
  have heffect := hx.effect
  cases hx with
  | quiet hnone hquiet =>
    exact h.of_same hpublished heffect (latestRun_of_same hquiet.executions)
      (startedIn_concat_none hnone)
  | accept target ns workflowType options args hidle => exact h.accept hpublished _ _ _ _ _ hidle
  | attach target id =>
    exact h.of_same hpublished heffect (latestRun_of_same (executions_attach s target id).1)
      (startedIn_concat_none rfl)
  | detach id =>
    have hexecutions : (s.detach id).executions = s.executions := by rw [detach_eq]
    exact h.of_same hpublished heffect (latestRun_of_same hexecutions) (startedIn_concat_none rfl)

/-- A run that is no longer the latest one of its workflow id has ended. -/
theorem handed_down_of_run {s₀ s : Server} {log : List Exchange} (h₀ : Fresh s₀)
    (h : Run s₀ log s) : HandedDown log s := by
  induction h with
  | start => exact nofun
  | serve hrun q ih => exact ih.serve (published_of_run h₀ hrun) (serve_cases _ q)
  | task hrun hstep ih =>
    have haccounted := accounted_of_run h₀ hrun
    obtain ⟨t, t', r, r', rest, hmove⟩ := haccounted.taskMove hstep
    exact ih.of_same (published_of_run h₀ hrun) (effect_step? haccounted hstep)
      (latestRun_taskMove hmove) rfl
  | letThrough _ latch ih => exact ih

/-- A run of a workflow that was started and whose end has not been published. -/
def GoesOn (log : List Exchange) (s : Server) (e : Execution) : Prop :=
  e ∈ startedIn log ∧ s.completions.get? e.runId = none

/-- The runs that go on are those with a record that says so. -/
theorem goesOn_iff {s₀ s : Server} {log : List Exchange} (h₀ : Fresh s₀) (h : Run s₀ log s)
    (e : Execution) : GoesOn log s e ↔
      ∃ r, s.executions.get? e.workflowId = some r ∧ r.execution = e ∧ r.status = .running := by
  have hpublished := published_of_run h₀ h
  constructor
  · rintro ⟨he, hnone⟩
    have hlatest : s.latestRun e.workflowId = some e := by
      refine (handed_down_of_run h₀ h e he).resolve_right ?_
      rintro ⟨c, hc⟩
      exact nomatch hnone.symm.trans hc
    rw [latestRun, Option.map_eq_some_iff] at hlatest
    obtain ⟨r, hr, rfl⟩ := hlatest
    refine ⟨r, hr, rfl, ?_⟩
    by_contra hended
    obtain ⟨-, c, -, hc⟩ := hpublished.ended _ r hr hended
    exact nomatch hnone.symm.trans hc
  · rintro ⟨r, hr, rfl, hrunning⟩
    have hlatest : s.latestRun r.execution.workflowId = some r.execution := by
      rw [latestRun, hr]
      rfl
    rw [latestRun_of_run h₀ h] at hlatest
    exact ⟨(mem_of_lastStarted hlatest).1, hpublished.running _ r hr hrunning⟩

/-! ## A second start is refused -/

/-- A start is refused as an invalid argument, and no record, poller or waiting workflow changes. -/
def Refuses (s : Server) (target : String) (ns : Option String) (workflowType : String)
    (options : WorkflowOptions) (args : List Json) : Prop :=
  ∃ message s', s.startWorkflow target ns workflowType options args =
      (.error (.rpc ⟨.invalidArgument, message⟩), s') ∧
    s'.executions = s.executions ∧ s'.completions = s.completions ∧ s'.pollers = s.pollers ∧
    s'.pending = s.pending ∧ s'.tasks = s.tasks

/-- A run whose workflow id has a run that goes on is refused, with a task queue or without. -/
theorem refuses_of_running {s : Server} {options : WorkflowOptions} {r : ExecutionRecord}
    (hr : s.executions.get? (s.nextRun options).workflowId = some r) (hrunning : r.status = .running)
    (target : String) (ns : Option String) (workflowType : String) (args : List Json) :
    s.Refuses target ns workflowType options args := by
  unfold Refuses startWorkflow
  by_cases hqueue : options.taskQueue.isEmpty
  · rw [if_pos hqueue]
    exact ⟨_, s, rfl, rfl, rfl, rfl, rfl, rfl⟩
  · rw [if_neg hqueue]
    have hstatus : (s.executions.get? (s.nextRun options).workflowId).map (·.status) =
        some .running := by
      rw [hr, Option.map_some, hrunning]
    dsimp only
    split
    · exact ⟨_, _, rfl, rfl, rfl, rfl, rfl, rfl⟩
    · rename_i hidle
      exact absurd hstatus hidle

/-! ## What those who look up a run are told -/

/-- Everything that can be asked about an identity is answered from a record: its history, a report
on it, and the run whose result is waited for. -/
structure AnswersFrom (s : Server) (e : Execution) (r : ExecutionRecord) : Prop where
  history : ∀ target ns, (s.fetchHistory target ns e).1 = .ok r.history
  report : ∀ target ns, (s.describe target ns e).1 = .ok r.info
  call : s.subscribe e = .ok ⟨e, r.execution, r.timeout⟩

/-- Whatever is asked about an identity, it is not known. -/
structure Denies (s : Server) (e : Execution) : Prop where
  history : ∀ target ns, (s.fetchHistory target ns e).1 = .error (notFound e)
  report : ∀ target ns, (s.describe target ns e).1 = .error (notFound e)
  call : s.subscribe e = .error (notFound e)

theorem answersFrom_of_addressed {s : Server} {e : Execution} {r : ExecutionRecord}
    (h : s.addressed e = .ok r) : s.AnswersFrom e r where
  history target ns := by
    show (s.addressed e).map (·.history) = _
    rw [h]
    rfl
  report target ns := by
    show (s.addressed e).map (·.info) = _
    rw [h]
    rfl
  call := by
    rw [subscribe, h]
    rfl

theorem denies_of_addressed {s : Server} {e : Execution}
    (h : s.addressed e = .error (notFound e)) : s.Denies e where
  history target ns := by
    show (s.addressed e).map (·.history) = _
    rw [h]
    rfl
  report target ns := by
    show (s.addressed e).map (·.info) = _
    rw [h]
    rfl
  call := by
    rw [subscribe, h]
    rfl

/-- The record of another run does not answer to a run id. -/
theorem addressed_of_replaced {s : Server} {e : Execution} {r : ExecutionRecord}
    (hr : s.executions.get? e.workflowId = some r) (hne : e.runId ≠ r.execution.runId)
    (hnonempty : e.runId ≠ "") : s.addressed e = .error (notFound e) := by
  have hanswers : r.answersTo e = false := by
    simp [ExecutionRecord.answersTo, hne, hnonempty]
  unfold addressed
  rw [hr]
  exact if_neg (by rw [hanswers]; exact Bool.false_ne_true)

theorem addressed_of_unknown {s : Server} {e : Execution}
    (h : s.executions.get? e.workflowId = none) : s.addressed e = .error (notFound e) := by
  unfold addressed
  rw [h]

/-- The exchange in which a run was started is the only one that has started it. -/
theorem eq_of_started {s₀ s : Server} {log : List Exchange} (h₀ : Fresh s₀) (h : Run s₀ log s)
    {x y : Exchange} (hx : x ∈ log) (hy : y ∈ log) {e : Execution} (hxe : x.started? = some e)
    (hye : y.started? = some e) : x = y := by
  have hdifferent := List.pairwise_filterMap.mp (nodup_startedIn h₀ h)
  by_contra hne
  have : Std.Symm fun x y : Exchange =>
      ∀ b, x.started? = some b → ∀ b', y.started? = some b' → b ≠ b' :=
    ⟨fun x y hxy b hb b' hb' heq => hxy b' hb' b hb heq.symm⟩
  exact hdifferent.forall hx hy hne e hxe e hye rfl

/-- The record of a run that is the latest one of its workflow id holds what it was started with. -/
theorem record_of_start {s₀ s : Server} {log : List Exchange} (h₀ : Fresh s₀) (h : Run s₀ log s)
    {target : String} {ns : Option String} {workflowType : String} {options : WorkflowOptions}
    {args : List Json} {e : Execution}
    (hmem : ⟨.startWorkflow target ns workflowType options args, .ok e⟩ ∈ log)
    (hlast : lastStarted log e.workflowId = some e) :
    ∃ r, s.executions.get? e.workflowId = some r ∧
      SameRun (newRecord e workflowType options args) r := by
  rw [← latestRun_of_run h₀ h, latestRun, Option.map_eq_some_iff] at hlast
  obtain ⟨r, hr, hself⟩ := hlast
  obtain ⟨p, hseen⟩ := seen_exists hr
  obtain ⟨r₀, hopening, hstory⟩ := story_of_run h₀ h _ p r hseen
  cases hopening with
  | mk target' ns' workflowType' options' args' e' hmem' =>
    have hsame := hstory.sameRun
    obtain rfl : e = e' := hself.symm.trans hsame.execution
    cases eq_of_started h₀ h hmem hmem' rfl rfl
    exact ⟨r, hr, hsame⟩

/-- No handle of a run shows another run. -/
structure KeepsRunsApart (log : List Exchange) (s : Server) : Prop where
  /-- every start has a run id of its own -/
  distinct : ((startedIn log).map (·.runId)).Nodup
  /-- the runs that go on are those whose records say so -/
  running : ∀ e, GoesOn log s e ↔
    ∃ r, s.executions.get? e.workflowId = some r ∧ r.execution = e ∧ r.status = .running
  one_running : ∀ e e', GoesOn log s e → GoesOn log s e' → e.workflowId = e'.workflowId → e = e'
  refused : ∀ target ns workflowType options args e, GoesOn log s e →
    (s.nextRun options).workflowId = e.workflowId →
    s.Refuses target ns workflowType options args
  /-- a run is shown from its own record until its workflow id is used again -/
  shown : ∀ before target ns workflowType options args e after,
    log = before ++ ⟨.startWorkflow target ns workflowType options args, .ok e⟩ :: after →
    (∀ y ∈ startedIn after, y.workflowId ≠ e.workflowId) →
    ∃ r, s.executions.get? e.workflowId = some r ∧
      SameRun (newRecord e workflowType options args) r ∧ s.AnswersFrom e r
  /-- from then on it is not known -/
  replaced : ∀ before x e after, log = before ++ x :: after → x.started? = some e →
    (∃ y ∈ startedIn after, y.workflowId = e.workflowId) → s.Denies e
  /-- without a run id the latest run is shown -/
  latest : ∀ id e, lastStarted log id = some e →
    ∃ r, s.executions.get? id = some r ∧ r.execution = e ∧ s.AnswersFrom ⟨id, ""⟩ r
  unknown : ∀ id runId, lastStarted log id = none → s.Denies ⟨id, runId⟩
  /-- whoever waits for a run is answered with its own end, also after it has been replaced -/
  awaited : ∀ e ∈ startedIn log, ∀ asked timeout,
    (s.isSettled ⟨asked, e, timeout⟩ = true ↔ ∃ c, s.completions.get? e.runId = some c) ∧
    ∀ c, s.completions.get? e.runId = some c →
      s.answer ⟨asked, e, timeout⟩ = c.mapError .workflow
  /-- the end of a run is the one that its record tells of -/
  told : ∀ id r, s.executions.get? id = some r →
    ∀ c, r.Ended c ↔ s.completions.get? r.execution.runId = some c

section

variable {s₀ s : Server} {log : List Exchange} (h₀ : Fresh s₀) (h : Run s₀ log s)
include h₀ h

theorem runId_ne_empty {e : Execution} (he : e ∈ startedIn log) : e.runId ≠ "" := by
  obtain ⟨numbers, -, -, hids⟩ := (numbered_of_run h₀ h).in_order
  have hmem : e.runId ∈ numbers.map runIdOf := hids ▸ List.mem_map_of_mem he
  obtain ⟨n, -, hn⟩ := List.mem_map.mp hmem
  rw [← hn]
  exact runIdOf_ne_empty n

/-- A run that was replaced is not known any more. -/
theorem denies_of_reused {before after : List Exchange} {x : Exchange} {e : Execution}
    (hlog : log = before ++ x :: after) (hx : x.started? = some e)
    (hreused : ∃ y ∈ startedIn after, y.workflowId = e.workflowId) : s.Denies e := by
  obtain ⟨y, hy, hsame⟩ := hreused
  have hlater : ∃ z ∈ startedIn after, lastStarted (before ++ x :: after) e.workflowId = some z :=
    lastStarted_of_reused hx hy hsame
  obtain ⟨z, hz, hlast⟩ := hlater
  have hnodup := nodup_runIds h₀ h
  have he : e ∈ startedIn log := by
    rw [hlog, startedIn_split hx]
    exact List.mem_append_right _ List.mem_cons_self
  rw [← hlog, ← latestRun_of_run h₀ h, latestRun, Option.map_eq_some_iff] at hlast
  obtain ⟨r, hr, rfl⟩ := hlast
  -- the two runs stand at different places of the log
  have hne : e.runId ≠ r.execution.runId := by
    rw [hlog, startedIn_split hx, List.map_append, List.map_cons] at hnodup
    intro heq
    exact (List.nodup_cons.mp (List.nodup_append.mp hnodup).2.1).1 (heq ▸ List.mem_map_of_mem hz)
  exact denies_of_addressed (addressed_of_replaced hr hne (runId_ne_empty h₀ h he))

/-- A call for the result of a run is answered with the end of this run. -/
theorem answer_of_started {e : Execution} (he : e ∈ startedIn log) (asked : Execution)
    (timeout : Duration) :
    (s.isSettled ⟨asked, e, timeout⟩ = true ↔ ∃ c, s.completions.get? e.runId = some c) ∧
    ∀ c, s.completions.get? e.runId = some c →
      s.answer ⟨asked, e, timeout⟩ = c.mapError .workflow := by
  constructor
  · unfold isSettled Table.contains
    rw [Bool.or_eq_true, Option.isSome_iff_exists]
    refine ⟨fun hsettled => hsettled.elim id fun hreplaced => ?_, Or.inl⟩
    refine (handed_down_of_run h₀ h e he).resolve_left fun hlatest => ?_
    rw [latestRun, Option.map_eq_some_iff] at hlatest
    obtain ⟨r, hr, hself⟩ := hlatest
    rw [isReplaced, hr, Option.map_some, hself, bne_self_eq_false] at hreplaced
    cases hreplaced
  · intro c hc
    unfold answer
    rw [hc]
    cases c <;> rfl

/-- After everything that can happen at a server, in any order: starts have different run ids; of
the runs of a workflow id one goes on at most, and a second start is refused without any change to
records, pollers and waiting workflows; a handle shows its own run until its workflow id is used
again and is not known from then on; and without a run id the latest run is shown. -/
theorem runs_are_kept_apart : KeepsRunsApart log s where
  distinct := nodup_runIds h₀ h
  running := goesOn_iff h₀ h
  one_running e e' he he' hsame := by
    obtain ⟨r, hr, hself, -⟩ := (goesOn_iff h₀ h e).mp he
    obtain ⟨r', hr', hself', -⟩ := (goesOn_iff h₀ h e').mp he'
    rw [hsame, hr'] at hr
    rw [← hself, ← hself', Option.some.inj hr]
  refused target ns workflowType options args e he hid := by
    obtain ⟨r, hr, -, hrunning⟩ := (goesOn_iff h₀ h e).mp he
    exact refuses_of_running (hid ▸ hr) hrunning target ns workflowType args
  shown before target ns workflowType options args e after hlog hunused := by
    have hlast : lastStarted log e.workflowId = some e := by
      rw [hlog]
      exact lastStarted_of_unused rfl hunused
    have hmem : ⟨.startWorkflow target ns workflowType options args, .ok e⟩ ∈ log := by
      rw [hlog]
      exact List.mem_append_right _ List.mem_cons_self
    obtain ⟨r, hr, hsame⟩ := record_of_start h₀ h hmem hlast
    have hself : e.runId = r.execution.runId := congrArg Execution.runId hsame.execution.symm
    exact ⟨r, hr, hsame, answersFrom_of_addressed (addressed_eq_ok hr (.inl hself))⟩
  replaced before x e after hlog hx := denies_of_reused h₀ h hlog hx
  latest id e hlast := by
    rw [← latestRun_of_run h₀ h, latestRun, Option.map_eq_some_iff] at hlast
    obtain ⟨r, hr, hself⟩ := hlast
    exact ⟨r, hr, hself, answersFrom_of_addressed (addressed_eq_ok hr (.inr rfl))⟩
  unknown id runId hnone := by
    rw [← latestRun_of_run h₀ h, latestRun, Option.map_eq_none_iff] at hnone
    exact denies_of_addressed (addressed_of_unknown hnone)
  awaited e he := answer_of_started h₀ h he
  told id r hr c := ended_iff h₀ h hr

end

/-- A run fails because its workflow is not registered, and its workflow id is used again: its handle
is not known any more, and the second run is shown with its run id and without one. -/
theorem second_run_is_shown :
    let start : Request :=
      .startWorkflow "direct" none "Flow" { workflowId := some "again", taskQueue := "queue" } []
    let polled := ((({} : Server).serve (.addWorker "queue")).2.serve (.attach "direct" 0)).2
    let failed := (((polled.serve start).2.step? 0 {} 0).map (·.1)).getD {}
    let s := (failed.serve start).2
    (∃ log, Run {} log s ∧ startedIn log = [⟨"again", runIdOf 1⟩, ⟨"again", runIdOf 2⟩]) ∧
      s.Denies ⟨"again", runIdOf 1⟩ ∧
      ∃ r r', r.execution = ⟨"again", runIdOf 2⟩ ∧ s.AnswersFrom ⟨"again", runIdOf 2⟩ r ∧
        r'.execution = ⟨"again", runIdOf 2⟩ ∧ s.AnswersFrom ⟨"again", ""⟩ r' := by
  intro start polled failed s
  let opening : List Exchange :=
    [⟨.addWorker "queue", (0 : Nat)⟩, ⟨.attach "direct" 0, ()⟩]
  let first : Exchange := ⟨start, (polled.serve start).1⟩
  let second : Exchange := ⟨start, (failed.serve start).1⟩
  have hstep : (polled.serve start).2.step? 0 {} 0 = some (failed, {}) := rfl
  have hrun : Run {} (opening ++ [first] ++ [second]) s :=
    ((((Run.start.serve (.addWorker "queue")).serve (.attach "direct" 0)).serve start).task
      hstep).serve start
  have hfirst : first.started? = some ⟨"again", runIdOf 1⟩ := rfl
  have hsecond : second = ⟨start, .ok ⟨"again", runIdOf 2⟩⟩ := rfl
  have happart := runs_are_kept_apart ⟨.enabled, [], [], rfl⟩ hrun
  obtain ⟨r, -, hsame, hanswers⟩ := happart.shown (opening ++ [first]) _ _ _ _ _ _ []
    (congrArg (fun x => opening ++ [first] ++ [x]) hsecond) nofun
  obtain ⟨r', -, hself, hlatest⟩ := happart.latest "again" ⟨"again", runIdOf 2⟩ rfl
  refine ⟨⟨_, hrun, rfl⟩, ?_, r, r', hsame.execution, hanswers, hself, hlatest⟩
  exact happart.replaced opening first _ [second] rfl hfirst ⟨_, List.mem_cons_self, rfl⟩

end Conformance.Server
