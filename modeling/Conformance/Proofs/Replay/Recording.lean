import Conformance.Proofs.Replay.Simulation
import Conformance.Proofs.Server.Histories

/-!
# What a replay reads

A replay finds in the history of a run what was recorded there: the workflow type and the
arguments, the activities with their outcomes, and how the run ended.

## Main definitions

- `ExecutionRecord.gathered` — what a replay has found in the events of a record

## Main statements

- `ExecutionRecord.activities_afterCalls` — the activities of a history are the calls of its run
- `WellFormed.workflowType?_eq`, `WellFormed.input_eq` — what was started
- `WellFormed.check_eq_ok` — a replay that made all calls and ended as the run did is accepted
-/

namespace Conformance

/-! ## Activities -/

theorem modify_concat {α : Type} (l : List α) (x : α) (f : α → α) :
    (l ++ [x]).modify l.length f = l ++ [f x] := by
  induction l with
  | nil => rfl
  | cons y l ih =>
    rw [List.cons_append, List.length_cons, List.modify_succ_cons, ih]
    rfl

namespace ExecutionRecord

/-- What a replay has found in the events of a record. -/
def gathered (r : ExecutionRecord) : History.Recorded := r.events.foldl History.Recorded.add {}

theorem gathered_record (r : ExecutionRecord) (t : EventType)
    (attributes : List (String × Json)) :
    (r.record t attributes).gathered =
      r.gathered.add ⟨r.nextId, t, Json.ofFields attributes⟩ := by
  unfold gathered
  rw [record, List.foldl_append]
  rfl

/-- An activity that is scheduled is a new one, and it is found under the id of its event. -/
theorem gathered_schedule (r : ExecutionRecord) (a : String) (args : List Json) :
    (r.schedule a args).gathered.activities = r.gathered.activities ++ [⟨a, none⟩] ∧
      (r.schedule a args).gathered.byId.get? r.nextId = some r.gathered.activities.length := by
  have htype : HistoryEvent.text? ⟨r.nextId, .activityTaskScheduled, Json.ofFields
      [("activityType", .str a), ("input", .arr args)]⟩ "activityType" = some a := by
    rw [HistoryEvent.text?, Json.get?_ofFields]
    rfl
  rw [schedule, gathered_record, History.Recorded.add]
  dsimp only
  rw [htype]
  exact ⟨rfl, Table.get?_insert_self ..⟩

/-- An outcome is given to the activity that is found under the id it refers to. -/
theorem add_closing (g : History.Recorded) {e : HistoryEvent} (he : e.IsClosing) {place i : Nat}
    (hid : e.attributes.get? "scheduledEventId" = some (.int (eventIdAt place)))
    (hi : g.byId.get? (eventIdAt place) = some i) :
    (g.add e).activities =
      g.activities.modify i fun a => { a with outcome := some (History.outcomeOf e) } := by
  have href : History.eventRef? (.int (eventIdAt place)) = some (eventIdAt place) :=
    signed64?_eventIdAt place
  rcases he with he | he <;> rw [History.Recorded.add, he] <;> dsimp only <;>
    rw [hid, Option.bind_some, href, Option.bind_some, hi]

theorem gathered_close (r : ExecutionRecord) (place : Nat) (e : Ending) {i : Nat}
    (hi : r.gathered.byId.get? (eventIdAt place) = some i) :
    (r.close (eventIdAt place) e).gathered.activities =
      r.gathered.activities.modify i
        fun a => { a with outcome := some (Completion.ofEnding e) } := by
  cases e with
  | ok result =>
    have hid : (Json.ofFields [("scheduledEventId", .int (eventIdAt place)),
        ("result", result)]).get? "scheduledEventId" = some (.int (eventIdAt place)) := by
      rw [Json.get?_ofFields]
      rfl
    have houtcome : History.outcomeOf ⟨r.nextId, .activityTaskCompleted, Json.ofFields
        [("scheduledEventId", .int (eventIdAt place)), ("result", result)]⟩ = .ok result := by
      rw [History.outcomeOf, if_pos rfl, Json.get?_ofFields]
      rfl
    rw [close, gathered_record, add_closing _ (Or.inl rfl) hid hi, houtcome]
    rfl
  | error failure =>
    have hid : (Json.ofFields [("scheduledEventId", .int (eventIdAt place)),
        ("failure", .str failure.text)]).get? "scheduledEventId" =
          some (.int (eventIdAt place)) := by
      rw [Json.get?_ofFields]
      rfl
    have houtcome : History.outcomeOf ⟨r.nextId, .activityTaskFailed, Json.ofFields
        [("scheduledEventId", .int (eventIdAt place)), ("failure", .str failure.text)]⟩ =
          .error failure.text := by
      rw [History.outcomeOf, if_neg nofun, HistoryEvent.text?, Json.get?_ofFields]
      rfl
    rw [close, gathered_record, add_closing _ (Or.inr rfl) hid hi, houtcome]
    rfl

theorem activities_afterCall (r : ExecutionRecord) (c : ActivityCall) :
    (r.afterCall c).gathered.activities = r.gathered.activities ++ [c.recorded] := by
  obtain ⟨hactivities, hid⟩ := gathered_schedule r c.activityType c.args
  rw [afterCall, nextId, gathered_close _ _ _ hid, hactivities, modify_concat]
  rfl

/-- The activities of a history are the calls of its run. -/
theorem activities_afterCalls (r : ExecutionRecord) (calls : List ActivityCall) :
    (r.afterCalls calls).gathered.activities =
      r.gathered.activities ++ calls.map ActivityCall.recorded := by
  induction calls generalizing r with
  | nil => rw [List.map_nil, List.append_nil]; rfl
  | cons c calls ih =>
    have hrest := ih (r.afterCall c)
    rw [activities_afterCall, List.append_assoc] at hrest
    exact hrest

theorem activities_finish (r : ExecutionRecord) (completion : Completion) :
    (r.finish completion).gathered.activities = r.gathered.activities := by
  cases completion with
  | ok result =>
    have hsame : (r.finish (.ok result)).gathered =
        (r.record .workflowExecutionCompleted [("result", result)]).gathered := rfl
    rw [hsame, gathered_record]
    rfl
  | error failure =>
    have hsame : (r.finish (.error failure)).gathered =
        (r.record .workflowExecutionFailed [("failure", .str failure)]).gathered := rfl
    rw [hsame, gathered_record]
    rfl

end ExecutionRecord

/-! ## What was started, and how it ended -/

section

variable {workflowType taskQueue : String} {input : List Json} {status : ExecutionStatus}
  {events : List HistoryEvent} (h : WellFormed workflowType taskQueue input status events)
include h

/-- The first event is the one that a replay looks for. -/
theorem WellFormed.find?_started : ∃ first,
    History.find? ⟨events⟩ .workflowExecutionStarted = some first ∧
      first.attributes.get? "workflowType" = some (.str workflowType) ∧
      first.attributes.get? "input" = some (.arr input) := by
  obtain ⟨first, hfirst, htype, hworkflowType, -, hinput⟩ := h.started
  refine ⟨first, ?_, hworkflowType, hinput⟩
  cases events with
  | nil => cases hfirst
  | cons e rest =>
    cases hfirst
    exact List.find?_cons_of_pos (decide_eq_true htype)

theorem WellFormed.workflowType?_eq : History.workflowType? ⟨events⟩ = some workflowType := by
  obtain ⟨first, hfirst, hworkflowType, -⟩ := h.find?_started
  rw [History.workflowType?, hfirst, Option.bind_some, HistoryEvent.text?, hworkflowType]
  rfl

theorem WellFormed.input_eq : History.input ⟨events⟩ = input := by
  obtain ⟨first, hfirst, -, hinput⟩ := h.find?_started
  rw [History.input, hfirst, Option.bind_some, hinput]
  rfl

omit h in
theorem has_iff (type : EventType) :
    History.has ⟨events⟩ type = true ↔ ∃ e ∈ events, e.eventType = type := by
  rw [History.has, History.find?, List.find?_isSome]
  simp only [decide_eq_true_eq]

/-- A replay that made all calls of the history and ended as the run did is accepted. -/
theorem WellFormed.check_eq_ok {succeeded : Bool} {calls : Nat}
    (hcalls : (History.activities ⟨events⟩).length = calls)
    (hcompleted : status = .completed → succeeded = true)
    (hfailed : status = .failed → succeeded = false) :
    History.check ⟨events⟩ succeeded { consumed := calls } = .ok () := by
  have hsucceeded : (History.has ⟨events⟩ .workflowExecutionCompleted && !succeeded) = false := by
    rw [Bool.and_eq_false_imp]
    intro hhas
    rw [hcompleted (h.completed.mpr ((has_iff _).mp hhas))]
    rfl
  have hended : (History.has ⟨events⟩ .workflowExecutionFailed && succeeded) = false := by
    rw [Bool.and_eq_false_imp]
    intro hhas
    exact hfailed (h.failed.mpr ((has_iff _).mp hhas))
  unfold History.check
  dsimp only
  rw [hcalls, if_neg (Nat.lt_irrefl _), hsucceeded, hended]
  rfl

end

end Conformance
