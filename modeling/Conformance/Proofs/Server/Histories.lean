import Conformance.Proofs.History.Orderly
import Conformance.Proofs.Server.Story

/-!
# The histories of a server

The story of a run is recorded event by event, each of which is allowed where it is recorded. The
history of every run is therefore well formed at all times, and it is what the server reports.

## Main definitions

- `ExecutionRecord.Tidy` — a record with an orderly history that ends with a given event
- `ExecutionRecord.Tells` — the last event tells the status
- `Server.Reports` — what is answered to those who ask for a run

## Main statements

- `Story.tidy` — every story is recorded in order
- `Server.history_of_every_run` — every history is well formed and is reported as it is
-/

namespace Conformance

open HistoryEvent

namespace ExecutionRecord

/-! ## Recording events -/

/-- The history of the record is orderly and ends with an event. -/
structure Tidy (r : ExecutionRecord) (last : HistoryEvent) : Prop where
  orderly : Orderly r.events
  last : r.events.getLast? = some last

/-- The last event tells whether the run has completed or failed. -/
def Tells (status : ExecutionStatus) (last : HistoryEvent) : Prop :=
  (status = .completed ↔ last.eventType = .workflowExecutionCompleted) ∧
    (status = .failed ↔ last.eventType = .workflowExecutionFailed)

section

variable {r : ExecutionRecord} {b : HistoryEvent} (h : r.Tidy b)
include h

/-- An event that is allowed after the last one keeps the record tidy. -/
theorem Tidy.record {t : EventType} {attributes : List (String × Json)}
    (hafter : After b ⟨r.nextId, t, Json.ofFields attributes⟩) :
    (r.record t attributes).Tidy ⟨r.nextId, t, Json.ofFields attributes⟩ where
  orderly := h.orderly.snoc h.last hafter rfl
  last := List.getLast?_concat

theorem Tidy.schedule (hb : b.IsSettled) (a : String) (args : List Json) :
    ∃ e, (r.schedule a args).Tidy e ∧ e.eventType = .activityTaskScheduled ∧
      e.eventId = r.nextId :=
  ⟨_, h.record (.scheduled hb rfl), rfl, rfl⟩

/-- The outcome of an activity is recorded under the id of the event before it. -/
theorem Tidy.close (hb : b.eventType = .activityTaskScheduled) (e : Ending) :
    ∃ e', (r.close b.eventId e).Tidy e' ∧ e'.IsClosing := by
  cases e with
  | ok result =>
    have hcloses : Closes ⟨r.nextId, .activityTaskCompleted, Json.ofFields
        [("scheduledEventId", .int b.eventId), ("result", result)]⟩ b := by
      refine ⟨Or.inl rfl, ?_⟩
      rw [Json.get?_ofFields]
      rfl
    exact ⟨_, h.record (.closed hb hcloses), hcloses.1⟩
  | error failure =>
    have hcloses : Closes ⟨r.nextId, .activityTaskFailed, Json.ofFields
        [("scheduledEventId", .int b.eventId), ("failure", .str failure.text)]⟩ b := by
      refine ⟨Or.inr rfl, ?_⟩
      rw [Json.get?_ofFields]
      rfl
    exact ⟨_, h.record (.closed hb hcloses), hcloses.1⟩

/-- The end of a run is recorded together with its status. -/
theorem Tidy.finish (hb : b.IsSettled) (completion : Completion) :
    ∃ e, (r.finish completion).Tidy e ∧ Tells (r.finish completion).status e := by
  cases completion with
  | ok result =>
    have htidy : (r.record .workflowExecutionCompleted [("result", result)]).Tidy _ :=
      h.record (.ended hb (Or.inl rfl))
    obtain ⟨horderly, hlast⟩ := htidy
    exact ⟨_, ⟨horderly, hlast⟩, by simp [Tells, ExecutionRecord.finish]⟩
  | error failure =>
    have htidy : (r.record .workflowExecutionFailed [("failure", .str failure)]).Tidy _ :=
      h.record (.ended hb (Or.inr rfl))
    obtain ⟨horderly, hlast⟩ := htidy
    exact ⟨_, ⟨horderly, hlast⟩, by simp [Tells, ExecutionRecord.finish]⟩

theorem Tidy.afterCall (hb : b.IsSettled) (c : ActivityCall) :
    ∃ e, (r.afterCall c).Tidy e ∧ e.IsSettled := by
  obtain ⟨scheduled, hscheduled, htype, hid⟩ := h.schedule hb c.activityType c.args
  obtain ⟨e, htidy, hclosing⟩ := hscheduled.close htype c.ending
  rw [hid] at htidy
  exact ⟨e, htidy, Or.inr hclosing⟩

end

theorem Tidy.afterCalls {r : ExecutionRecord} {b : HistoryEvent} (h : r.Tidy b) (hb : b.IsSettled)
    (calls : List ActivityCall) : ∃ e, (r.afterCalls calls).Tidy e ∧ e.IsSettled := by
  induction calls generalizing r b with
  | nil => exact ⟨b, h, hb⟩
  | cons c calls ih =>
    obtain ⟨e, htidy, hsettled⟩ := h.afterCall hb c
    exact ih htidy hsettled

/-- While a run goes on, its last event is not an end. -/
theorem tells_running {last : HistoryEvent} (h : ¬ last.IsEnd) : Tells .running last := by
  refine ⟨?_, ?_⟩
  · exact Iff.intro nofun fun hlast => absurd (Or.inl hlast) h
  · exact Iff.intro nofun fun hlast => absurd (Or.inr hlast) h

/-! ## What has been recorded stays -/

theorem prefix_afterCall (r : ExecutionRecord) (c : ActivityCall) :
    r.events <+: (r.afterCall c).events := by
  have hscheduled : r.events <+: (r.schedule c.activityType c.args).events :=
    List.prefix_append ..
  refine hscheduled.trans ?_
  unfold afterCall
  cases c.ending <;> exact List.prefix_append ..

theorem prefix_afterCalls (r : ExecutionRecord) (calls : List ActivityCall) :
    r.events <+: (r.afterCalls calls).events := by
  induction calls generalizing r with
  | nil => exact List.prefix_refl _
  | cons c calls ih => exact (prefix_afterCall r c).trans (ih (r.afterCall c))

theorem prefix_finish (r : ExecutionRecord) (completion : Completion) :
    r.events <+: (r.finish completion).events := by
  cases completion <;> exact List.prefix_append ..

end ExecutionRecord

open ExecutionRecord

/-- Every story is recorded in order, on top of what it begins with. -/
theorem Story.tidy {r₀ r : ExecutionRecord} {p : Option TaskPhase} (h : Story r₀ p r)
    {first : HistoryEvent} (hfirst : r₀.Tidy first) (hsettled : first.IsSettled)
    (hrunning : r₀.status = .running) :
    r₀.events <+: r.events ∧ ∃ last, r.Tidy last ∧ Tells r.status last := by
  have hnot_end : ∀ {b : HistoryEvent}, b.IsSettled → ¬ b.IsEnd := fun hb hend =>
    hend.not_settled hb
  cases h with
  | waiting | fresh =>
    refine ⟨List.prefix_refl _, first, hfirst, ?_⟩
    rw [hrunning]
    exact tells_running (hnot_end hsettled)
  | unregistered failure => exact ⟨prefix_finish .., hfirst.finish hsettled _⟩
  | follows c h =>
    cases h with
    | running calls _ _ =>
      obtain ⟨e, htidy, he⟩ := hfirst.afterCalls hsettled calls
      refine ⟨prefix_afterCalls .., e, htidy, ?_⟩
      rw [status_afterCalls, hrunning]
      exact tells_running (hnot_end he)
    | inActivity calls a args _ _ _ _ _ =>
      obtain ⟨e, htidy, he⟩ := hfirst.afterCalls hsettled calls
      obtain ⟨e', htidy', htype, -⟩ := htidy.schedule he a args
      refine ⟨(prefix_afterCalls r₀ calls).trans (List.prefix_append ..), e', htidy', ?_⟩
      have hstatus : ((r₀.afterCalls calls).schedule a args).status = .running :=
        (status_afterCalls r₀ calls).trans hrunning
      rw [hstatus]
      refine tells_running ?_
      rintro (hend | hend) <;> rw [htype] at hend <;> cases hend
    | finished calls e _ =>
      obtain ⟨e', htidy, he⟩ := hfirst.afterCalls hsettled calls
      exact ⟨(prefix_afterCalls r₀ calls).trans (prefix_finish ..), htidy.finish he _⟩

namespace Server

/-! ## What is recorded and reported -/

/-- A run begins with the event that says what was started. -/
theorem tidy_newRecord (e : Execution) (workflowType : String) (options : WorkflowOptions)
    (args : List Json) :
    ∃ first, (newRecord e workflowType options args).events = [first] ∧
      (newRecord e workflowType options args).Tidy first ∧ first.IsSettled ∧
      first.attributes.get? "workflowType" = some (.str workflowType) ∧
      first.attributes.get? "taskQueue" = some (.str options.taskQueue) ∧
      first.attributes.get? "input" = some (.arr args) := by
  refine ⟨_, rfl, ⟨.single rfl rfl, rfl⟩, Or.inl rfl, ?_, ?_, ?_⟩ <;>
    rw [Json.get?_ofFields] <;> rfl

/-- What is recorded of a run is well formed. -/
theorem wellFormed_of_story {e : Execution} {workflowType : String} {options : WorkflowOptions}
    {args : List Json} {p : Option TaskPhase} {r : ExecutionRecord}
    (h : Story (newRecord e workflowType options args) p r) :
    WellFormed workflowType options.taskQueue args r.status r.events := by
  obtain ⟨first, hevents, htidy, hsettled, hworkflowType, htaskQueue, hinput⟩ :=
    tidy_newRecord e workflowType options args
  obtain ⟨⟨rest, hprefix⟩, last, hlast, hcompleted, hfailed⟩ := h.tidy htidy hsettled rfl
  have hfirst : r.events[0]? = some first := by
    rw [← hprefix, hevents]
    rfl
  exact hlast.orderly.wellFormed hfirst hlast.last hworkflowType htaskQueue hinput
    hcompleted hfailed

/-- Whoever asks for a run gets its history and a report with its status and the number of its
events. -/
structure Reports (s : Server) (e : Execution) (r : ExecutionRecord) : Prop where
  history : ∀ target ns, (s.fetchHistory target ns e).1 = .ok ⟨r.events⟩
  report : ∀ target ns, ∃ info, (s.describe target ns e).1 = .ok info ∧
    info.execution = r.execution ∧ info.status = r.status ∧
    info.historyLength = r.events.length

theorem reports_of_addressed {s : Server} {e : Execution} {r : ExecutionRecord}
    (h : s.addressed e = .ok r) : s.Reports e r where
  history target ns := by
    show (s.addressed e).map (·.history) = _
    rw [h]
    rfl
  report target ns := by
    refine ⟨r.info, ?_, rfl, rfl, rfl⟩
    show (s.addressed e).map (·.info) = _
    rw [h]
    rfl

/-- A run is addressed by its run id, or by none. -/
theorem addressed_eq_ok {s : Server} {id runId : String} {r : ExecutionRecord}
    (hr : s.executions.get? id = some r) (hid : runId = r.execution.runId ∨ runId = "") :
    s.addressed ⟨id, runId⟩ = .ok r := by
  have hanswers : r.answersTo ⟨id, runId⟩ = true := by
    rcases hid with rfl | rfl <;> simp [answersTo]
  unfold addressed
  rw [hr]
  exact if_pos hanswers

/-- After everything that can happen at a server, in any order, the history of every run is well
formed: it begins with what the run was started with, its activities are opened and closed one
after another, and it ends when the run does. The server reports this history, its length and
the status. -/
theorem history_of_every_run {s₀ s : Server} {log : List Exchange} (h₀ : Fresh s₀)
    (h : Run s₀ log s) {id : String} {r : ExecutionRecord}
    (hr : s.executions.get? id = some r) :
    ∃ target ns workflowType options args,
      ⟨.startWorkflow target ns workflowType options args, .ok r.execution⟩ ∈ log ∧
      WellFormed workflowType options.taskQueue args r.status r.events ∧
      ∀ runId, runId = r.execution.runId ∨ runId = "" → s.Reports ⟨id, runId⟩ r := by
  obtain ⟨p, hseen⟩ := seen_exists hr
  obtain ⟨r₀, hopening, hstory⟩ := story_of_run h₀ h id p r hseen
  cases hopening with
  | mk target ns workflowType options args e hmem =>
    refine ⟨target, ns, workflowType, options, args, ?_, wellFormed_of_story hstory, ?_⟩
    · rw [hstory.sameRun.execution]
      exact hmem
    · intro runId hid
      exact reports_of_addressed (addressed_eq_ok hr hid)

/-- A run whose workflow is not registered fails at once, and its history says so. -/
theorem history_of_unregistered_run :
    let start : Request :=
      .startWorkflow "direct" none "Flow" { workflowId := some "lost", taskQueue := "queue" } []
    let s := ((({} : Server).serve (.addWorker "queue")).2.serve (.attach "direct" 0)).2
    ∃ s' r, (s.serve start).2.step? 0 {} 0 = some (s', {}) ∧
      s'.executions.get? "lost" = some r ∧ r.status = .failed ∧ r.events.length = 2 ∧
      (∃ workflowType taskQueue input,
        WellFormed workflowType taskQueue input r.status r.events) ∧
      s'.Reports ⟨"lost", ""⟩ r := by
  intro start s
  have hrun : Run {} _ (s.serve start).2 :=
    ((Run.start.serve (.addWorker "queue")).serve (.attach "direct" 0)).serve start
  have hreported : ∀ s' r, (s.serve start).2.step? 0 {} 0 = some (s', {}) →
      s'.executions.get? "lost" = some r →
      (∃ workflowType taskQueue input,
        WellFormed workflowType taskQueue input r.status r.events) ∧
      s'.Reports ⟨"lost", ""⟩ r := by
    intro s' r hstep hr
    obtain ⟨_, _, workflowType, options, args, -, hwellFormed, hreports⟩ :=
      history_of_every_run ⟨.enabled, [], [], rfl⟩ (hrun.task hstep) hr
    exact ⟨⟨workflowType, _, args, hwellFormed⟩, hreports "" (Or.inr rfl)⟩
  exact ⟨_, _, rfl, rfl, rfl, rfl, hreported _ _ rfl rfl⟩

end Server

end Conformance
