import Conformance.History.Event
import Conformance.Text.Numeral
import Conformance.Workflow.Code
import Conformance.Table

/-!
# Replaying histories

Workflow code is run again with the outcomes of a history. The calls that the code makes are
matched, in order, against the activities that the history scheduled; any difference is a
failure.

## Main definitions

- `RecordedActivity` — an activity with the outcome that the history gives it
- `History.activities` — the activities of a history
- `Code.replay` — the code run against recorded activities
- `History.check` — whether a run consumed a history exactly
-/

namespace Conformance

/-- An activity of a history, with its outcome if there is one. Of a failure only its text is
recorded. -/
structure RecordedActivity where
  activityType : String
  outcome : Option (Except String Json) := none

namespace History

/-- The event that a reference names: a number, or a text that holds one. -/
def eventRef? (v : Json) : Option Int :=
  match v with
  | .str s => Text.signed? Text.minSigned64 Text.maxSigned64 s
  | _ => v.signed64?

/-- The activities found so far, and the latest one that was scheduled under each event id. -/
structure Recorded where
  activities : List RecordedActivity := []
  byId : Table Int Nat := Table.empty

/-- The outcome that an event gives to an activity. -/
def outcomeOf (e : HistoryEvent) : Except String Json :=
  if e.eventType = .activityTaskCompleted then .ok ((e.attributes.get? "result").getD .null)
  else .error ((e.text? "failure").getD "activity failed")

/-- Takes in one event. -/
def Recorded.add (r : Recorded) (e : HistoryEvent) : Recorded :=
  match e.eventType with
  | .activityTaskScheduled =>
    { activities := r.activities ++ [{ activityType := (e.text? "activityType").getD "" }]
      byId := r.byId.insert e.eventId r.activities.length }
  | .activityTaskCompleted | .activityTaskFailed =>
    match ((e.attributes.get? "scheduledEventId").bind eventRef?).bind r.byId.get? with
    | some i =>
      { r with activities := r.activities.modify i fun a => { a with outcome := some (outcomeOf e) } }
    | none => r
  | _ => r

/-- The activities that a history scheduled, in order, with their outcomes. -/
def activities (h : History) : List RecordedActivity := (h.events.foldl Recorded.add {}).activities

end History

/-- How far a replay has come: the calls made so far and the first difference. -/
structure ReplayState where
  consumed : Nat := 0
  mismatch : Option WorkflowFailure := none
  deriving DecidableEq, Repr, Inhabited

/-- How a call differs from the recorded activity at its place. -/
def differenceOf (activityType : String) : Option RecordedActivity → Except String Ending
  | none => .error ("workflow scheduled activity " ++ activityType ++ " that is not in history")
  | some recorded =>
    if recorded.activityType ≠ activityType then
      .error ("workflow scheduled activity " ++ activityType ++ " but history has "
        ++ recorded.activityType)
    else
      match recorded.outcome with
      | some (.ok result) => .ok (.ok result)
      | some (.error message) => .ok (.error (.activity recorded.activityType message))
      | none => .error ("activity " ++ recorded.activityType ++ " has no recorded outcome")

/-- Answers a call from the recorded activities. -/
def ReplayState.answer (recorded : List RecordedActivity) (s : ReplayState)
    (activityType : String) : Ending × ReplayState :=
  match differenceOf activityType recorded[s.consumed]? with
  | .ok ending => (ending, { s with consumed := s.consumed + 1 })
  | .error text =>
    let failure := WorkflowFailure.nondeterminism text
    (.error failure,
      { consumed := s.consumed + 1, mismatch := some (s.mismatch.getD failure) })

/-- Runs code against recorded activities. Waiting takes no time. -/
def Code.replay (recorded : List RecordedActivity) : Code → ReplayState → Ending × ReplayState
  | .done ending, s => (ending, s)
  | .callActivity activityType _ next, s =>
    let (answer, s) := s.answer recorded activityType
    Code.replay recorded (next answer) s
  | .awaitLatch _ next, s => Code.replay recorded next s
  | .sleep _ next, s => Code.replay recorded next s

/-- Whether a run consumed a history exactly and ended as the history did. -/
def History.check (h : History) (succeeded : Bool) (s : ReplayState) :
    Except WorkflowFailure Unit :=
  let total := h.activities.length
  match s.mismatch with
  | some failure => .error failure
  | none =>
    if s.consumed < total then
      .error (.nondeterminism ("history has " ++ toString (total - s.consumed)
        ++ " activity tasks the workflow did not schedule"))
    else if h.has .workflowExecutionCompleted && !succeeded then
      .error (.nondeterminism "history completed but the workflow failed on replay")
    else if h.has .workflowExecutionFailed && succeeded then
      .error (.nondeterminism "history failed but the workflow completed on replay")
    else .ok ()

/-- Runs a workflow against a history. -/
def Workflow.replay (w : Workflow) (h : History) : Except WorkflowFailure Unit :=
  let (ending, s) := (w.code true h.input).replay h.activities {}
  h.check (match ending with | .ok _ => true | .error _ => false) s

end Conformance
