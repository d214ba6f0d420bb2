import Conformance.Proofs.Delivery.Timeline
import Conformance.Runner.Basic

/-!
# Results are delivered

Whoever waits for the result of a run is answered with what the events of the run tell of its end, or
after its timeout, and then only if it has not ended by that time. This holds for any number of calls
at any moments, however steps of tasks, other requests and later runs of the same workflow id come
between.

## Main definitions

- `Timeline.Delivered` — how a call that has found a run is answered

## Main statements

- `Timeline.delivered_of_found` — a call is answered by the end of the run or by its timeout
- `Timeline.payload_of_ended` — the result that is looked up is the one that a run has ended with
- `Timeline.results_are_delivered` — all calls agree
-/

namespace Conformance.Timeline

open Server

variable {τ : Timeline}

/-- How a call for `e` that was made at one moment, has found the run of `r`, and is answered by
another moment can be answered: with the result or the failure that an event of the run holds, or
with the notice that the timeout has elapsed and the run has not ended by then. -/
inductive Delivered (τ : Timeline) (e : Execution) (r : ExecutionRecord) (called answered : Nat) :
    Except Error Json → Prop
  | completed {result : Json} (h : τ.Recorded r.execution answered (.ok result)) :
      Delivered τ e r called answered (.ok result)
  | failed {failure : String} (h : τ.Recorded r.execution answered (.error failure)) :
      Delivered τ e r called answered (.error (.workflow failure))
  | timedOut {j : Nat} (hj : j ≤ answered)
      (hclock : (τ.world called).clock + r.timeout.ticks ≤ (τ.world j).clock)
      (hgoes_on : ∀ i r', i ≤ j →
        (τ.server i).executions.get? r.execution.workflowId = some r' →
        r'.execution = r.execution → ∀ x ∈ r'.events, ¬ x.IsEnd) :
      Delivered τ e r called answered
        (.error (.workflow ("workflow " ++ e.text ++ " timed out after " ++ r.timeout.text)))

/-! ## Waiting for a result -/

theorem current_of_addressed {e : Execution} {r : ExecutionRecord} {n : Nat}
    (h : (τ.server n).addressed e = .ok r) :
    τ.Current r.execution n ∧ (τ.server n).executions.get? r.execution.workflowId = some r := by
  unfold addressed at h
  split at h
  · rename_i r' hr'
    split at h
    · cases h
      have hid := τ.named n hr'
      rw [← hid] at hr'
      exact ⟨⟨r, hr', rfl⟩, hr'⟩
    · cases h
  · cases h

/-- A run without a completion has no event that tells of an end. -/
theorem not_ended_of_none {x : Execution} {j : Nat}
    (hnone : (τ.server j).completions.get? x.runId = none) {i : Nat} (hi : i ≤ j)
    {r : ExecutionRecord} (hr : (τ.server i).executions.get? x.workflowId = some r)
    (hx : r.execution = x) : ∀ y ∈ r.events, ¬ y.IsEnd := by
  have hrunning : r.status = .running := by
    by_contra hended
    obtain ⟨_, c, -, hc⟩ := (τ.published i).ended _ r hr hended
    rw [hx] at hc
    exact nomatch hnone.symm.trans (τ.persists hi hc)
  obtain ⟨log, hrun⟩ := τ.run i
  obtain ⟨_, _, _, hwellFormed⟩ := wellFormed_of_run τ.fresh hrun hr
  exact (running_iff hwellFormed).mp hrunning

theorem not_replaced {x : Execution} {n m : Nat} (h : τ.Current x n) (hle : n ≤ m)
    (hnone : (τ.server m).completions.get? x.runId = none) : (τ.server m).isReplaced x = false := by
  rcases tracked h hle with ⟨r, hr, rfl⟩ | ⟨c, hc⟩
  · unfold isReplaced
    rw [hr]
    simp
  · exact nomatch hnone.symm.trans hc

theorem eq_notFound_of_addressed {s : Server} {e : Execution} {error : Error}
    (h : s.addressed e = .error error) : error = notFound e := by
  unfold addressed at h
  split at h
  · split at h <;> cases h
    rfl
  · cases h
    rfl

/-- As long as a run has no completion, nobody who waits for it goes on before the deadline. -/
theorem unsettled_of_none {e x : Execution} {timeout : Duration} {j i a : Nat}
    (hcurrent : τ.Current x j) (hji : j ≤ i) (hia : i ≤ a)
    (hnone : (τ.server a).completions.get? x.runId = none) :
    (τ.server i).isSettled ⟨e, x, timeout⟩ = false := by
  have hbefore : (τ.server i).completions.get? x.runId = none := by
    refine Option.eq_none_iff_forall_ne_some.mpr fun c hc => ?_
    exact nomatch hnone.symm.trans (τ.persists hia hc)
  unfold isSettled Table.contains
  rw [hbefore, not_replaced hcurrent hji hbefore]
  rfl

theorem delivered_of_waited {e : Execution} {r : ExecutionRecord} {n j k i a m : Nat}
    (hcurrent : τ.Current r.execution j) (hnj : n ≤ j) (hjk : j ≤ k) (hki : k ≤ i) (hia : i ≤ a)
    (ham : a ≤ m)
    (hwaited : (τ.server i).isSettled ⟨e, r.execution, r.timeout⟩ = true ∨
      (τ.world k).clock + r.timeout.ticks ≤ (τ.world i).clock) :
    τ.Delivered e r n m ((τ.server a).answer ⟨e, r.execution, r.timeout⟩) := by
  have hja : j ≤ a := by omega
  unfold answer
  dsimp only
  cases hcompletion : (τ.server a).completions.get? r.execution.runId with
  | some c =>
    have hrecorded := (recorded_of_completion hcurrent hja hcompletion).mono ham
    cases c with
    | ok result => exact .completed hrecorded
    | error failure => exact .failed hrecorded
  | none =>
    -- without a completion, waiting has ended at the deadline
    have hreplaced := not_replaced hcurrent hja hcompletion
    have hunsettled : (τ.server i).isSettled ⟨e, r.execution, r.timeout⟩ = false :=
      unsettled_of_none hcurrent (by omega) hia hcompletion
    have hclock : (τ.world k).clock + r.timeout.ticks ≤ (τ.world i).clock := by
      rcases hwaited with hready | hover
      · exact absurd (hunsettled.symm.trans hready) Bool.false_ne_true
      · exact hover
    have hcalled := τ.clock_mono (Nat.le_trans hnj hjk)
    have hanswered := τ.clock_mono hia
    dsimp only
    rw [hreplaced, if_neg Bool.false_ne_true]
    exact .timedOut ham (by omega) fun i' r' hi' hr' hx => not_ended_of_none hcompletion hi' hr' hx

/-- A call that has found a run is answered by its end or by its timeout. -/
theorem delivered_of_found {e : Execution} {n m : Nat} {answer : Except Error Json}
    (h : τ.Plays (Program.result e) n answer m) :
    ∃ j, n ≤ j ∧ j ≤ m ∧
      ((τ.server j).addressed e = .error (notFound e) ∧ answer = .error (notFound e) ∨
        ∃ r, (τ.server j).addressed e = .ok r ∧ τ.Delivered e r n m answer) := by
  obtain ⟨subscribed, k, hlook, hrest⟩ := h.of_bind
  obtain ⟨j, hnj, hjk, rfl⟩ := hlook.of_look
  refine ⟨j, hnj, Nat.le_trans hjk hrest.le, ?_⟩
  have hsubscribe : (τ.world j).server.subscribe e =
      ((τ.server j).addressed e).map fun r => ⟨e, r.execution, r.timeout⟩ := rfl
  rw [hsubscribe] at hrest
  cases haddressed : (τ.server j).addressed e with
  | error error =>
    rw [haddressed] at hrest
    obtain rfl := eq_notFound_of_addressed haddressed
    exact .inl ⟨rfl, hrest.of_pure⟩
  | ok r =>
    rw [haddressed] at hrest
    obtain ⟨met, k', hwait, hlook⟩ := hrest.of_bind
    obtain ⟨i, hki, hik, hwaited⟩ := hwait.of_waitFor
    obtain ⟨a, ha, ham, rfl⟩ := hlook.of_look
    exact .inr ⟨r, rfl, delivered_of_waited (current_of_addressed haddressed).1 hnj hjk hki
      (Nat.le_trans hik ha) ham hwaited⟩

/-! ## Looking up a result -/

/-- The result that is looked up in the history of a run, which fails unless the history has one. -/
def payloadOf (h : History) : Except Error Json :=
  match h.find? .workflowExecutionCompleted with
  | some e => .ok ((e.attributes.get? "result").getD .null)
  | none => .error (.assertion "workflow has no completed event")

/-- Looking up a result looks at the history of some moment. -/
theorem payload_of_plays {ρ : Runner} {run : Run} {n m : Nat} {result : Except Error Json × Runner}
    (h : τ.Plays (ρ.exec (Script.resultPayload run)) n result m) :
    ∃ j, n ≤ j ∧ j ≤ m ∧ ∀ r, (τ.server j).isOpen ρ.initiatorService = true →
      (τ.server j).addressed run.execution = .ok r → result.1 = payloadOf r.history := by
  obtain ⟨reply, k, hperform, hrest⟩ := Plays.of_bind h
  obtain ⟨answer, k', hlift, hreply⟩ := hperform.of_bind
  obtain ⟨j, hj, hjk, rfl⟩ := hlift.of_lift
  have hle : k' ≤ m := Nat.le_trans hreply.le hrest.le
  refine ⟨j, hj, Nat.le_trans hjk hle, fun r hopen haddressed => ?_⟩
  have hfetched : (World.fetchHistory ρ.initiatorService ρ.config.ns run.execution (τ.world j)).1 =
      .ok r.history := by
    have hasked : (τ.world j).server.isOpen ρ.initiatorService = true := hopen
    unfold World.fetchHistory World.asking
    dsimp only
    rw [if_pos hasked]
    show ((τ.server j).addressed run.execution).map (·.history) = _
    rw [haddressed]
    rfl
  have hvalue := hreply.of_pure
  rw [hfetched] at hvalue
  subst hvalue
  unfold payloadOf
  cases hfind : r.history.find? .workflowExecutionCompleted with
  | some e =>
    simp only [Script.bind, hfind] at hrest
    exact congrArg Prod.fst hrest.of_done
  | none =>
    simp only [Script.bind, hfind] at hrest
    exact congrArg Prod.fst hrest.of_done

/-- The result that is looked up is the one that the run has ended with. -/
theorem payload_of_ended {n : Nat} {id : String} {r : ExecutionRecord}
    (hr : (τ.server n).executions.get? id = some r) :
    (∀ result, payloadOf r.history = .ok result ↔ r.Ended (.ok result)) ∧
      ((∀ result, ¬ r.Ended (.ok result)) →
        payloadOf r.history = .error (.assertion "workflow has no completed event")) := by
  obtain ⟨log, hrun⟩ := τ.run n
  unfold payloadOf
  cases hfind : r.history.find? .workflowExecutionCompleted with
  | some e =>
    have he : e ∈ r.events := List.mem_of_find?_eq_some hfind
    have hholds := List.find?_some
      (show r.events.find? (fun e => e.eventType = .workflowExecutionCompleted) = some e from hfind)
    have htype : e.eventType = .workflowExecutionCompleted := of_decide_eq_true hholds
    obtain ⟨result, hresult⟩ := result_of_completed τ.fresh hrun hr he htype
    have hended : r.Ended (.ok result) := .completed he htype hresult
    dsimp only
    rw [hresult]
    refine ⟨fun result' => ⟨fun h => ?_, fun h => ?_⟩, fun hnone => absurd hended (hnone result)⟩
    · rw [← Except.ok.inj h]
      exact hended
    · have hsame := Option.some.inj (((ended_iff hr).mp hended).symm.trans ((ended_iff hr).mp h))
      rw [← Except.ok.inj hsame]
      rfl
  | none =>
    refine ⟨fun result => iff_of_false nofun fun h => ?_, fun _ => rfl⟩
    cases h with
    | completed he htype _ =>
      have hnot := List.find?_eq_none.mp hfind _ he
      exact hnot (decide_eq_true htype)

/-- What has been recorded of the latest run is what its events tell. -/
theorem recorded_iff_ended {n : Nat} {x : Execution} {r : ExecutionRecord}
    (hr : (τ.server n).executions.get? x.workflowId = some r) (hx : r.execution = x)
    {c : Completion} : τ.Recorded x n c ↔ r.Ended c := by
  subst hx
  exact ⟨fun h => (ended_iff hr).mpr h.completion, fun h => ⟨n, Nat.le_refl n, r, hr, rfl, h⟩⟩

/-! ## All calls -/

/-- Every call for the result of a run is answered with the result or the failure that the events of
the run hold, or after the timeout of the run, and then only if it has not ended by that time. A run
has one end, so that all calls that are answered with an end agree. So does looking up the result in
the history, while the run is the latest one of its workflow id. -/
theorem results_are_delivered (τ : Timeline) :
    (∀ e n answer m, τ.Plays (Program.result e) n answer m →
      ∃ j, n ≤ j ∧ j ≤ m ∧
        ((τ.server j).addressed e = .error (notFound e) ∧ answer = .error (notFound e) ∨
          ∃ r, (τ.server j).addressed e = .ok r ∧ τ.Delivered e r n m answer)) ∧
    (∀ x n m c c', τ.Recorded x n c → τ.Recorded x m c' → c = c') ∧
    ∀ (ρ : Runner) run n result m, τ.Plays (ρ.exec (Script.resultPayload run)) n result m →
      ∃ j, n ≤ j ∧ j ≤ m ∧ ∀ r, (τ.server j).isOpen ρ.initiatorService = true →
        (τ.server j).addressed run.execution = .ok r →
        (∀ v, result.1 = .ok v ↔ τ.Recorded r.execution j (.ok v)) ∧
        ((∀ v, ¬ τ.Recorded r.execution j (.ok v)) →
          result.1 = .error (.assertion "workflow has no completed event")) := by
  refine ⟨fun e n answer m h => delivered_of_found h, fun x n m c c' h h' => h.unique h',
    fun ρ run n result m h => ?_⟩
  obtain ⟨j, hj, hjm, hpayload⟩ := payload_of_plays h
  refine ⟨j, hj, hjm, fun r hopen haddressed => ?_⟩
  obtain ⟨-, hr⟩ := current_of_addressed haddressed
  obtain ⟨hfound, hmissing⟩ := payload_of_ended hr
  rw [hpayload r hopen haddressed]
  simp only [recorded_iff_ended hr rfl]
  exact ⟨hfound, hmissing⟩

/-- The failure of a run whose workflow is not registered is delivered to a call that was made before
the run had begun. -/
theorem failure_is_delivered :
    let failure := "workflow type " ++ "Flow" ++ " is not registered on task queue " ++ "queue"
    ∃ (τ : Timeline) (m : Nat),
      τ.Plays (Program.result ⟨"lost", ""⟩) 3 (.error (.workflow failure)) m ∧
      ∃ j r, 3 ≤ j ∧ j ≤ m ∧ (τ.server j).addressed ⟨"lost", ""⟩ = .ok r ∧
        τ.Delivered ⟨"lost", ""⟩ r 3 m (.error (.workflow failure)) := by
  intro failure
  let polled : World := { server := (({} : Server).serve (.addWorker "queue")).2 }
  let attached : World := { server := (polled.server.serve (.attach "direct" 0)).2 }
  let started : World := { server := (attached.server.serve (.startWorkflow "direct" none "Flow"
    { workflowId := some "lost", taskQueue := "queue" } [])).2 }
  let ended : World := { server := ((started.server.step? 0 {} 0).map (·.1)).getD {} }
  have hstep : started.server.step? 0 {} 0 = some (ended.server, {}) := rfl
  have hpath : World.Path {} [polled, attached, started, started, started, ended, ended] ended :=
    .cons (.request (.addWorker "queue")) <| .cons (.request (.attach "direct" 0)) <|
      .cons (.request (.startWorkflow "direct" none "Flow"
        { workflowId := some "lost", taskQueue := "queue" } [])) <|
      .cons (.elsewhere rfl rfl) <| .cons (.elsewhere rfl rfl) <| .cons (.task hstep) <|
      .cons (.elsewhere rfl rfl) <| .nil _
  let τ : Timeline := .ofPath ⟨.enabled, [], [], rfl⟩ hpath
  let sub : Subscription := ⟨⟨"lost", ""⟩, ⟨"lost", runIdOf 1⟩, defaultTimeout⟩
  have hcompletions : ended.server.completions = ⟨[(runIdOf 1, .error failure)]⟩ := rfl
  have hsettled : ended.server.isSettled sub = true := by decide
  have hanswer : ended.server.answer sub = .error (.workflow failure) := by
    have hcompletion : ended.server.completions.get? sub.found.runId = some (.error failure) := by
      rw [hcompletions]
      unfold Table.get? Table.find?
      exact if_pos rfl
    unfold answer
    rw [hcompletion]
  have hdone : τ.Plays (.done (ended.server.answer sub)) 7 (.error (.workflow failure)) 7 := by
    rw [hanswer]
    exact .done _ _
  have hplays : τ.Plays (Program.result ⟨"lost", ""⟩) 3 (.error (.workflow failure)) 7 :=
    .act rfl <| .act rfl <| .idle <| .ready hsettled <| .act rfl hdone
  obtain ⟨j, hj, hjm, ⟨-, hanswer⟩ | ⟨r, haddressed, hdelivered⟩⟩ :=
    (results_are_delivered τ).1 _ _ _ _ hplays
  · cases hanswer
  · exact ⟨τ, 7, hplays, j, r, hj, hjm, haddressed, hdelivered⟩

end Conformance.Timeline
