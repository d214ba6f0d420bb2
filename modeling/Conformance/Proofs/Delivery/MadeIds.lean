import Conformance.Proofs.Delivery.Handles
import Conformance.Proofs.Runner.Probing

/-!
# Workflow ids that the server makes

Where a start gives no workflow id, the server makes one from the number of the start. Numbers are not
used twice, so the id is that of no earlier start without one. A start may however give any id of its
own, and so one that the server has yet to make.

## Main definitions

- `Server.workflowIdOf` — the workflow id that is made from a number
- `Server.Chosen` — a workflow id that a start has chosen

## Main statements

- `Server.numberedIds_of_run` — where the workflow ids of all runs come from
- `Server.recorded_iff_chosen` — the next id is in use exactly if a start has chosen it
- `Server.start_under_made_id` — what becomes of a start that gives no id
-/

namespace Conformance.Server

/-- The workflow id that is made from a number. -/
def workflowIdOf (n : Nat) : String := "loopback-workflow-" ++ toString n

theorem workflowIdOf_inj {n m : Nat} (h : workflowIdOf n = workflowIdOf m) : n = m :=
  numeral_inj ((String.append_right_inj _).mp h)

/-! ## Where workflow ids come from -/

/-- Every run got its workflow id from the start that was asked for, or from a number that had not
been given out. -/
def NumberedIds (log : List Exchange) (s : Server) : Prop :=
  ∀ x ∈ log, ∀ e, x.started? = some e → ∃ target ns workflowType options args n,
    x.request = .startWorkflow target ns workflowType options args ∧ n ≤ s.starts ∧
      e.workflowId = options.workflowId.getD (workflowIdOf n)

theorem NumberedIds.mono {log : List Exchange} {s s' : Server} (h : NumberedIds log s)
    (hstarts : s.starts ≤ s'.starts) : NumberedIds log s' := by
  intro x hx e he
  obtain ⟨target, ns, workflowType, options, args, n, hrequest, hn, hid⟩ := h x hx e he
  exact ⟨target, ns, workflowType, options, args, n, hrequest, Nat.le_trans hn hstarts, hid⟩

theorem NumberedIds.concat_none {log : List Exchange} {s : Server} (h : NumberedIds log s)
    {x : Exchange} (hx : x.started? = none) : NumberedIds (log ++ [x]) s := by
  intro y hy e he
  rcases List.mem_append.mp hy with hy | hy
  · exact h y hy e he
  · rw [List.mem_singleton.mp hy, hx] at he
    cases he

theorem NumberedIds.serve {log : List Exchange} {s s' : Server} (h : NumberedIds log s)
    {x : Exchange} (hx : Served s x s') : NumberedIds (log ++ [x]) s' := by
  cases hx with
  | quiet hnone hquiet => exact (h.concat_none hnone).mono hquiet.starts
  | attach target id =>
    exact (h.concat_none rfl).mono (Nat.le_of_eq (executions_attach s target id).2.symm)
  | detach id =>
    rw [detach_eq]
    exact (h.concat_none rfl).mono (Nat.le_refl _)
  | accept target ns workflowType options args _ =>
    have hstarts := starts_accept s target ns workflowType options args (s.nextRun options)
    intro y hy e he
    rcases List.mem_append.mp hy with hy | hy
    · exact h.mono (Nat.le_of_lt (by rw [hstarts]; exact Nat.lt_succ_self _)) y hy e he
    · rw [List.mem_singleton.mp hy] at he ⊢
      cases he
      exact ⟨target, ns, workflowType, options, args, s.starts + 1, rfl, Nat.le_of_eq hstarts.symm,
        rfl⟩

/-- So it is after every run of a server. -/
theorem numberedIds_of_run {s₀ s : Server} {log : List Exchange} (h₀ : Fresh s₀)
    (h : Run s₀ log s) : NumberedIds log s := by
  induction h with
  | start =>
    intro x hx
    cases hx
  | serve _ q ih => exact ih.serve (serve_cases _ q)
  | task hrun hstep ih =>
    obtain ⟨t, t', r, r', rest, hmove⟩ := (accounted_of_run h₀ hrun).taskMove hstep
    exact ih.mono (Nat.le_of_eq hmove.setting.starts.symm)
  | letThrough _ latch ih => exact ih.mono (Nat.le_refl _)

/-! ## The next id -/

/-- A start that was accepted has chosen the workflow id. -/
def Chosen (log : List Exchange) (id : String) : Prop :=
  ∃ x ∈ log, x.request.StartsUnder id ∧ x.started?.isSome

section

variable {s₀ s : Server} {log : List Exchange}

/-- The runs under the next id are those of starts that have chosen it. -/
theorem exists_started_iff_chosen (h₀ : Fresh s₀) (h : Run s₀ log s) :
    (∃ e ∈ startedIn log, e.workflowId = workflowIdOf (s.starts + 1)) ↔
      Chosen log (workflowIdOf (s.starts + 1)) := by
  constructor
  · rintro ⟨e, he, hid⟩
    obtain ⟨x, hx, hxe⟩ := List.mem_filterMap.mp he
    obtain ⟨target, ns, workflowType, options, args, n, hrequest, hn, hgiven⟩ :=
      numberedIds_of_run h₀ h x hx e hxe
    refine ⟨x, hx, ?_, by rw [hxe]; rfl⟩
    rw [hrequest]
    show options.workflowId = _
    cases hchosen : options.workflowId with
    | some given =>
      rw [hchosen, Option.getD_some] at hgiven
      rw [← hgiven, hid]
    | none =>
      -- the id was made from a number, and the next one has not been given out
      rw [hchosen, Option.getD_none, hid] at hgiven
      have hnext := workflowIdOf_inj hgiven
      omega
  · rintro ⟨x, hx, hunder, hsome⟩
    obtain ⟨e, he⟩ := Option.isSome_iff_exists.mp hsome
    obtain ⟨target, ns, workflowType, options, args, n, hrequest, hn, hgiven⟩ :=
      numberedIds_of_run h₀ h x hx e he
    rw [hrequest] at hunder
    have hchosen : options.workflowId = some (workflowIdOf (s.starts + 1)) := hunder
    rw [hchosen, Option.getD_some] at hgiven
    exact ⟨e, List.mem_filterMap.mpr ⟨x, hx, he⟩, hgiven⟩

theorem lastStarted_eq_none_iff {log : List Exchange} {id : String} :
    lastStarted log id = none ↔ ∀ e ∈ startedIn log, e.workflowId ≠ id := by
  unfold lastStarted
  rw [List.getLast?_eq_none_iff, List.filter_eq_nil_iff]
  simp only [decide_eq_true_eq, ne_eq]

/-- The next id is in use exactly if a start has chosen it. -/
theorem recorded_iff_chosen (h₀ : Fresh s₀) (h : Run s₀ log s) :
    (∃ r, s.executions.get? (workflowIdOf (s.starts + 1)) = some r) ↔
      Chosen log (workflowIdOf (s.starts + 1)) := by
  have hlatest := congrFun (latestRun_of_run h₀ h) (workflowIdOf (s.starts + 1))
  rw [← exists_started_iff_chosen h₀ h, ← Option.ne_none_iff_exists']
  have hrecorded : s.executions.get? (workflowIdOf (s.starts + 1)) = none ↔
      lastStarted log (workflowIdOf (s.starts + 1)) = none := by
    rw [← hlatest, latestRun, Option.map_eq_none_iff]
  rw [ne_eq, hrecorded, lastStarted_eq_none_iff]
  simp only [not_forall, not_not, exists_prop]

/-! ## Starts without an id of their own -/

/-- What was addressed before a run was accepted still is, if the workflow id was not in use. -/
theorem addressed_accept_of_unused {e : Execution} (hnone : s.executions.get? e.workflowId = none)
    (target : String) (ns : Option String) (workflowType : String) (options : WorkflowOptions)
    (args : List Json) {asked : Execution} {r : ExecutionRecord}
    (haddressed : s.addressed asked = .ok r) :
    (s.accept target ns workflowType options args e).addressed asked = .ok r := by
  have hne : e.workflowId ≠ asked.workflowId := by
    intro heq
    rw [addressed_of_unknown (heq ▸ hnone)] at haddressed
    cases haddressed
  rw [← haddressed]
  unfold addressed
  rw [executions_accept, if_neg hne]

/-- A run that was recorded is not found any more once the next one is accepted under its workflow
id. -/
theorem addressed_accept_of_used (h₀ : Fresh s₀) (h : Run s₀ log s) {id : String}
    {r : ExecutionRecord} (hr : s.executions.get? id = some r) (target : String) (ns : Option String)
    (workflowType : String) (options : WorkflowOptions) (args : List Json) :
    (s.accept target ns workflowType options args ⟨id, runIdOf (s.starts + 1)⟩).addressed r.execution =
      .error (notFound r.execution) := by
  obtain ⟨n, hn, hnumber⟩ := (numbered_of_run h₀ h).numbered _ r hr
  have hnamed := (numbered_of_run h₀ h).named _ r hr
  have hfound := executions_accept s target ns workflowType options args
    ⟨id, runIdOf (s.starts + 1)⟩ r.execution.workflowId
  rw [if_pos hnamed.symm] at hfound
  refine addressed_of_replaced hfound ?_ ?_
  · -- the run that was recorded had an earlier number
    intro heq
    have hnumbers := runIdOf_inj (hnumber.symm.trans heq)
    omega
  · rw [hnumber]
    exact runIdOf_ne_empty n

/-- A start names its task queue and no workflow id. If no start has chosen the id that the server makes
for it, it is accepted as a run that is recorded under an id of its own, and whatever was addressed
before still is. Otherwise it depends on the run of that id: one that is under way has the start
refused, and one that has ended is replaced. -/
theorem start_under_made_id (h₀ : Fresh s₀) (h : Run s₀ log s) (target : String)
    (ns : Option String) (workflowType : String) {options : WorkflowOptions} (args : List Json)
    (hqueue : options.taskQueue ≠ "") (hid : options.workflowId = none) :
    let e : Execution := ⟨workflowIdOf (s.starts + 1), runIdOf (s.starts + 1)⟩
    let served := s.serve (.startWorkflow target ns workflowType options args)
    (¬ Chosen log e.workflowId →
      (∀ e' ∈ startedIn log, e'.workflowId ≠ e.workflowId) ∧ served.1 = .ok e ∧
      served.2.executions.entries = s.executions.entries ++
        [(e.workflowId, newRecord e workflowType options args)] ∧
      ∀ asked r, s.addressed asked = .ok r → served.2.addressed asked = .ok r) ∧
    (Chosen log e.workflowId → ∃ r, s.executions.get? e.workflowId = some r ∧
      (r.status = .running →
        served.1 = .error (.rpc ⟨.invalidArgument,
          "workflow " ++ e.workflowId ++ " is already running"⟩) ∧
        served.2.executions = s.executions) ∧
      (r.status ≠ .running →
        served.1 = .ok e ∧
        (∀ id, served.2.executions.get? id = if e.workflowId = id then
          some (newRecord e workflowType options args) else s.executions.get? id) ∧
        served.2.addressed r.execution = .error (notFound r.execution))) := by
  intro e served
  have hserved : served = s.startWorkflow target ns workflowType options args := rfl
  have hset : options.taskQueue.isEmpty = false :=
    Bool.eq_false_iff.mpr fun hempty => hqueue (String.isEmpty_iff.mp hempty)
  have hnext : s.nextRun options = e := by rw [nextRun, hid, Option.getD_none]; rfl
  constructor
  · intro hfree
    have hnone : s.executions.get? e.workflowId = none :=
      Option.eq_none_iff_forall_ne_some.mpr fun r hr =>
        hfree ((recorded_iff_chosen h₀ h).mp ⟨r, hr⟩)
    have hunused : ∀ e' ∈ startedIn log, e'.workflowId ≠ e.workflowId := fun e' he' heq =>
      hfree ((exists_started_iff_chosen h₀ h).mp ⟨e', he', heq⟩)
    have hidle : ∀ r, s.executions.get? (s.nextRun options).workflowId = some r →
        r.status ≠ .running := by
      intro r hr
      rw [hnext, hnone] at hr
      cases hr
    rw [startWorkflow_of_idle hset hidle, hnext] at hserved
    rw [hserved]
    refine ⟨hunused, rfl, ?_, fun asked r haddressed =>
      addressed_accept_of_unused hnone target ns workflowType options args haddressed⟩
    rw [accept, executions_dispatch]
    exact Table.put_of_none hnone _
  · intro hchosen
    obtain ⟨r, hr⟩ := (recorded_iff_chosen h₀ h).mpr hchosen
    refine ⟨r, hr, fun hrunning => ?_, fun hended => ?_⟩
    · rw [startWorkflow_of_running hset (hnext ▸ hr) hrunning, hnext] at hserved
      rw [hserved]
      exact ⟨rfl, rfl⟩
    · have hidle : ∀ r', s.executions.get? (s.nextRun options).workflowId = some r' →
          r'.status ≠ .running := by
        intro r' hr'
        rw [hnext] at hr'
        exact Option.some.inj (hr.symm.trans hr') ▸ hended
      rw [startWorkflow_of_idle hset hidle, hnext] at hserved
      rw [hserved]
      exact ⟨rfl, executions_accept s target ns workflowType options args e,
        addressed_accept_of_used h₀ h hr target ns workflowType options args⟩

end

/-- A start with an id of its own, and then one without. -/
theorem start_after_given_id :
    let given : Request := .startWorkflow "server:1" none "Flow"
      { workflowId := some "order-7", taskQueue := "queue" } []
    let s := (({} : Server).serve given).2
    let served := s.serve (.startWorkflow "server:1" none "Flow" { taskQueue := "queue" } [])
    Fresh {} ∧ Run {} [⟨given, (({} : Server).serve given).1⟩] s ∧
      ¬ Chosen [⟨given, (({} : Server).serve given).1⟩] (workflowIdOf (s.starts + 1)) ∧
      served.1 = .ok ⟨"loopback-workflow-2", "loopback-run-2"⟩ ∧
      ∀ r, s.addressed ⟨"order-7", ""⟩ = .ok r → served.2.addressed ⟨"order-7", ""⟩ = .ok r := by
  intro given s served
  have h₀ : Fresh {} := ⟨.enabled, [], [], rfl⟩
  have h : Run {} [⟨given, _⟩] s := Run.start.serve given
  have hstarts : s.starts = 1 := rfl
  have hfree : ¬ Chosen [⟨given, (({} : Server).serve given).1⟩] (workflowIdOf (s.starts + 1)) := by
    rintro ⟨x, hx, hunder, -⟩
    rw [List.mem_singleton.mp hx, hstarts] at hunder
    have hsame : some "order-7" = some "loopback-workflow-2" := hunder
    exact absurd hsame (by decide)
  have hqueue : ({ taskQueue := "queue" } : WorkflowOptions).taskQueue ≠ "" := by decide
  obtain ⟨-, hstarted, -, hkept⟩ :=
    (start_under_made_id h₀ h "server:1" none "Flow" [] hqueue rfl).1 hfree
  rw [hstarts] at hstarted
  exact ⟨h₀, h, hfree, hstarted, hkept _⟩

/-- A start has chosen the id that the server makes next, and its run is under way. A start without an
id is refused. -/
theorem start_refused_under_made_id :
    let given : Request := .startWorkflow "server:1" none "Flow"
      { workflowId := some "loopback-workflow-2", taskQueue := "queue" } []
    let s := (({} : Server).serve given).2
    let served := s.serve (.startWorkflow "server:1" none "Flow" { taskQueue := "queue" } [])
    Fresh {} ∧ Run {} [⟨given, (({} : Server).serve given).1⟩] s ∧
      served.1 = .error (.rpc ⟨.invalidArgument, "workflow loopback-workflow-2 is already running"⟩) ∧
      served.2.executions = s.executions := by
  intro given s served
  have hid : (s.nextRun { taskQueue := "queue" }).workflowId = "loopback-workflow-2" := by
    have hstarts : s.starts = 1 := rfl
    rw [nextRun, hstarts]
    rfl
  have hserved : served = s.startWorkflow "server:1" none "Flow" { taskQueue := "queue" } [] := rfl
  have hrunning : (s.executions.get? "loopback-workflow-2").map (·.status) = some .running := rfl
  rw [startWorkflow_eq_nextRun, if_neg (by decide), hid, if_pos hrunning] at hserved
  rw [hserved]
  exact ⟨⟨.enabled, [], [], rfl⟩, Run.start.serve given, rfl, rfl⟩

end Conformance.Server
