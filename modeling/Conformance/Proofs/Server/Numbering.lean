import Conformance.Proofs.Server.Accounting

/-!
# The numbers of runs

Every run that is started gets a number of its own, which its run id is made from. The record of a
workflow id is therefore never mistaken for that of another run.

## Main definitions

- `Server.Numbered` — records are those of their ids, and starts are numbered in order

## Main statements

- `Server.runIdOf_inj` — different numbers make different run ids
- `Server.numbered_of_run` — the numbering holds after every run of a server
- `Server.nodup_runIds`, `Server.nodup_startedIn` — no run id is given out twice, and no run is started twice
-/

namespace Conformance.Server

/-! ## Run ids -/

/-- A number can be read back from its numeral. -/
theorem numeral_inj {n m : Nat} (h : toString n = toString m) : n = m := by
  have htext : Nat.repr n = Nat.repr m := h
  have hdigits : Nat.toDigits 10 n = Nat.toDigits 10 m := by
    have hlist := congrArg String.toList htext
    simpa [Nat.repr] using hlist
  rw [← @Nat.ofDigitChars_ten_toDigits n, hdigits, Nat.ofDigitChars_ten_toDigits]

/-- A number can be read back from the run id that is made from it. -/
theorem runIdOf_inj {n m : Nat} (h : runIdOf n = runIdOf m) : n = m :=
  numeral_inj ((String.append_right_inj _).mp h)

theorem runIdOf_ne_empty (n : Nat) : runIdOf n ≠ "" := by
  intro h
  have hlength := congrArg String.length h
  rw [runIdOf, String.length_append] at hlength
  have hpositive : 0 < "loopback-run-".length := by decide
  have hempty : "".length = 0 := rfl
  omega

/-! ## The numbering -/

/-- Records belong to their workflow ids, and every run has a number, in the order of starts. -/
structure Numbered (log : List Exchange) (s : Server) : Prop where
  named : ∀ id r, s.executions.get? id = some r → r.execution.workflowId = id
  /-- the number of every recorded run has been given out -/
  numbered : ∀ id r, s.executions.get? id = some r →
    ∃ n, n ≤ s.starts ∧ r.execution.runId = runIdOf n
  /-- later starts have larger numbers -/
  in_order : ∃ numbers : List Nat, numbers.Pairwise (· < ·) ∧ (∀ n ∈ numbers, n ≤ s.starts) ∧
    (startedIn log).map (·.runId) = numbers.map runIdOf

/-- The numbering looks at records and counts only. -/
theorem Numbered.of_same {log log' : List Exchange} {s s' : Server} (h : Numbered log s)
    (hexecutions : s'.executions = s.executions) (hstarts : s.starts ≤ s'.starts)
    (hlog : startedIn log' = startedIn log) : Numbered log' s' := by
  refine ⟨?_, ?_, ?_⟩
  · rw [hexecutions]
    exact h.named
  · intro id r hr
    rw [hexecutions] at hr
    obtain ⟨n, hn, hid⟩ := h.numbered id r hr
    exact ⟨n, Nat.le_trans hn hstarts, hid⟩
  · obtain ⟨numbers, hsorted, hbound, hids⟩ := h.in_order
    rw [hlog]
    exact ⟨numbers, hsorted, fun n hn => Nat.le_trans (hbound n hn) hstarts, hids⟩

theorem startedIn_concat_none {log : List Exchange} {x : Exchange} (h : x.started? = none) :
    startedIn (log ++ [x]) = startedIn log := by
  rw [startedIn_append, startedIn, startedIn, List.filterMap_cons_none h, List.filterMap_nil,
    List.append_nil]

theorem startedIn_concat_some {log : List Exchange} {x : Exchange} {e : Execution}
    (h : x.started? = some e) : startedIn (log ++ [x]) = startedIn log ++ [e] := by
  rw [startedIn_append, startedIn, startedIn, List.filterMap_cons_some h, List.filterMap_nil]

theorem starts_accept (s : Server) (target : String) (ns : Option String) (workflowType : String)
    (options : WorkflowOptions) (args : List Json) (e : Execution) :
    (s.accept target ns workflowType options args e).starts = s.starts + 1 := by
  unfold accept dispatch
  split <;> rfl

/-- The next number comes after all that have been given out. -/
theorem next_in_order {numbers : List Nat} {last : Nat} (hsorted : numbers.Pairwise (· < ·))
    (hbound : ∀ n ∈ numbers, n ≤ last) :
    (numbers ++ [last + 1]).Pairwise (· < ·) ∧ ∀ n ∈ numbers ++ [last + 1], n ≤ last + 1 := by
  constructor
  · refine List.pairwise_append.mpr ⟨hsorted, List.pairwise_singleton .., ?_⟩
    intro n hn m hm
    have hle := hbound n hn
    rw [List.mem_singleton] at hm
    omega
  · intro n hn
    rcases List.mem_append.mp hn with hn | hn
    · exact Nat.le_succ_of_le (hbound n hn)
    · exact Nat.le_of_eq (List.mem_singleton.mp hn)

/-- A run that is accepted gets the next number. -/
theorem Numbered.accept {log : List Exchange} {s : Server} (h : Numbered log s) (target : String)
    (ns : Option String) (workflowType : String) (options : WorkflowOptions) (args : List Json) :
    Numbered
      (log ++ [⟨.startWorkflow target ns workflowType options args, .ok (s.nextRun options)⟩])
      (s.accept target ns workflowType options args (s.nextRun options)) := by
  have hrecords := executions_accept s target ns workflowType options args (s.nextRun options)
  have hstarts := starts_accept s target ns workflowType options args (s.nextRun options)
  generalize s.accept target ns workflowType options args (s.nextRun options) = s'
    at hrecords hstarts ⊢
  have hfresh : (s.nextRun options).runId = runIdOf (s.starts + 1) := rfl
  refine ⟨?_, ?_, ?_⟩
  · intro id r hr
    rw [hrecords] at hr
    by_cases heq : (s.nextRun options).workflowId = id
    · rw [if_pos heq] at hr
      cases hr
      exact heq
    · rw [if_neg heq] at hr
      exact h.named id r hr
  · intro id r hr
    rw [hrecords] at hr
    rw [hstarts]
    split at hr
    · cases hr
      exact ⟨s.starts + 1, Nat.le_refl _, hfresh⟩
    · obtain ⟨n, hn, hid⟩ := h.numbered id r hr
      exact ⟨n, Nat.le_succ_of_le hn, hid⟩
  · obtain ⟨numbers, hsorted, hbound, hids⟩ := h.in_order
    obtain ⟨hsorted', hbound'⟩ := next_in_order hsorted hbound
    rw [hstarts]
    refine ⟨numbers ++ [s.starts + 1], hsorted', hbound', ?_⟩
    rw [startedIn_concat_some rfl, List.map_append, hids, List.map_append]
    rfl

theorem executions_attach (s : Server) (target : String) (id : WorkerId) :
    (s.attach target id).executions = s.executions ∧ (s.attach target id).starts = s.starts := by
  cases hw : s.worker? id with
  | none =>
    rw [Server.attach, hw]
    exact ⟨rfl, rfl⟩
  | some w =>
    rw [attach_eq hw]
    exact ⟨rfl, rfl⟩

theorem Numbered.serve {log : List Exchange} {s s' : Server} (h : Numbered log s) {x : Exchange}
    (hx : Served s x s') : Numbered (log ++ [x]) s' := by
  cases hx with
  | quiet hnone hquiet =>
    exact h.of_same hquiet.executions hquiet.starts (startedIn_concat_none hnone)
  | accept target ns workflowType options args _ => exact h.accept ..
  | attach target id =>
    obtain ⟨hexecutions, hstarts⟩ := executions_attach s target id
    exact h.of_same hexecutions (Nat.le_of_eq hstarts.symm) (startedIn_concat_none rfl)
  | detach id =>
    rw [detach_eq]
    exact h.of_same rfl (Nat.le_refl _) (startedIn_concat_none rfl)

/-- A move leaves the identity of its run. -/
theorem Numbered.taskMove {log : List Exchange} {s s' : Server} (h : Numbered log s)
    {t : WorkflowTask} {t' : Option WorkflowTask} {r r' : ExecutionRecord}
    {rest : List WorkflowTask} (hstep : TaskMove s s' t t' r r' rest) : Numbered log s' := by
  -- every record is that of an earlier one of the same run
  have hback : ∀ id r'', s'.executions.get? id = some r'' →
      ∃ r, s.executions.get? id = some r ∧ r''.execution = r.execution := by
    intro id r'' hr''
    rw [hstep.rewrites] at hr''
    by_cases heq : t.workflowId = id
    · rw [if_pos heq] at hr''
      cases hr''
      exact ⟨r, heq ▸ hstep.found, hstep.move.sameRun.execution⟩
    · rw [if_neg heq] at hr''
      exact ⟨r'', hr'', rfl⟩
  have hstarts : s'.starts = s.starts := hstep.setting.starts
  refine ⟨?_, ?_, ?_⟩
  · intro id r'' hr''
    obtain ⟨r, hr, hsame⟩ := hback id r'' hr''
    rw [hsame]
    exact h.named id r hr
  · intro id r'' hr''
    obtain ⟨r, hr, hsame⟩ := hback id r'' hr''
    rw [hsame, hstarts]
    exact h.numbered id r hr
  · rw [hstarts]
    exact h.in_order

theorem Fresh.numbered {s : Server} (h : Fresh s) : Numbered [] s := by
  obtain ⟨updateSupport, refused, failingShutdown, rfl⟩ := h
  refine ⟨?_, ?_, ?_⟩
  · intro id r hr
    cases hr
  · intro id r hr
    cases hr
  · refine ⟨[], List.Pairwise.nil, ?_, rfl⟩
    intro n hn
    cases hn

/-- The numbering holds after every run of a server. -/
theorem numbered_of_run {s₀ s : Server} {log : List Exchange} (h₀ : Fresh s₀)
    (h : Run s₀ log s) : Numbered log s := by
  induction h with
  | start => exact h₀.numbered
  | serve _ q ih => exact ih.serve (serve_cases _ q)
  | task hrun hstep ih =>
    obtain ⟨t, t', r, r', rest, hmove⟩ := (accounted_of_run h₀ hrun).taskMove hstep
    exact ih.taskMove hmove
  | letThrough _ latch ih => exact ih.of_same rfl (Nat.le_refl _) rfl

/-- No run id is given out twice. -/
theorem nodup_runIds {s₀ s : Server} {log : List Exchange} (h₀ : Fresh s₀) (h : Run s₀ log s) :
    ((startedIn log).map (·.runId)).Nodup := by
  obtain ⟨numbers, hsorted, -, hids⟩ := (numbered_of_run h₀ h).in_order
  have hnumbers : numbers.Nodup := hsorted.imp Nat.ne_of_lt
  rw [hids]
  exact hnumbers.map fun n m => runIdOf_inj

/-- No run is started twice. -/
theorem nodup_startedIn {s₀ s : Server} {log : List Exchange} (h₀ : Fresh s₀)
    (h : Run s₀ log s) : (startedIn log).Nodup :=
  (nodup_runIds h₀ h).of_map

end Conformance.Server
