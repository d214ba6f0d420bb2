import Conformance.Json.Print

/-!
# Histories

What a server records about an execution, and what it reports.

## Main definitions

- `HistoryEvent` — one recorded event
- `History` — the events of one execution
- `Execution` — the identity of a run
- `ExecutionInfo` — what a server reports about a run
-/

namespace Conformance

/-- The types of events that matter here; every other type is `unspecified`. -/
inductive EventType where
  | workflowExecutionStarted
  | activityTaskScheduled
  | activityTaskCompleted
  | activityTaskFailed
  | workflowExecutionUpdateAccepted
  | workflowExecutionUpdateRejected
  | workflowExecutionUpdateCompleted
  | workflowExecutionCompleted
  | workflowExecutionFailed
  | unspecified
  deriving DecidableEq, Repr, Inhabited

namespace EventType

/-- The name of an event type. -/
def text : EventType → String
  | workflowExecutionStarted => "WorkflowExecutionStarted"
  | activityTaskScheduled => "ActivityTaskScheduled"
  | activityTaskCompleted => "ActivityTaskCompleted"
  | activityTaskFailed => "ActivityTaskFailed"
  | workflowExecutionUpdateAccepted => "WorkflowExecutionUpdateAccepted"
  | workflowExecutionUpdateRejected => "WorkflowExecutionUpdateRejected"
  | workflowExecutionUpdateCompleted => "WorkflowExecutionUpdateCompleted"
  | workflowExecutionCompleted => "WorkflowExecutionCompleted"
  | workflowExecutionFailed => "WorkflowExecutionFailed"
  | unspecified => "Unspecified"

/-- Every event type. -/
def all : List EventType :=
  [workflowExecutionStarted, activityTaskScheduled, activityTaskCompleted, activityTaskFailed,
    workflowExecutionUpdateAccepted, workflowExecutionUpdateRejected,
    workflowExecutionUpdateCompleted, workflowExecutionCompleted, workflowExecutionFailed,
    unspecified]

/-- The event type with a given name, `unspecified` for unknown names. -/
def ofText (name : String) : EventType := (all.find? fun t => t.text = name).getD unspecified

theorem ofText_text (t : EventType) : ofText t.text = t := by
  cases t <;> decide

end EventType

/-- The id of the event at a place of a history, counted from 1. Event ids are signed numbers of
64 bits, and go round at the end of their range. -/
@[irreducible] def eventIdAt (place : Nat) : Int := Int.bmod place 18446744073709551616

theorem eventIdAt_of_lt {place : Nat} (h : place < 9223372036854775808) :
    eventIdAt place = place := by
  unfold eventIdAt
  rw [Int.bmod_eq_of_le] <;> omega

/-- Every event id is read back from an attribute. -/
theorem signed64?_eventIdAt (place : Nat) :
    (Json.int (eventIdAt place)).signed64? = some (eventIdAt place) := by
  have hlow := Int.le_bmod (x := place) (m := 18446744073709551616) (by decide)
  have hhigh := Int.bmod_lt (x := place) (m := 18446744073709551616) (by decide)
  have hrange : -9223372036854775808 ≤ eventIdAt place ∧
      eventIdAt place ≤ 9223372036854775807 := by
    unfold eventIdAt
    omega
  rw [Json.signed64?, if_pos hrange]

/-- One recorded event. -/
structure HistoryEvent where
  eventId : Int
  eventType : EventType
  attributes : Json
  deriving Inhabited, Repr

/-- The text of an attribute. -/
def HistoryEvent.text? (e : HistoryEvent) (key : String) : Option String :=
  (e.attributes.get? key).bind Json.str?

/-- The events of one execution, in the order in which they were recorded. -/
structure History where
  events : List HistoryEvent
  deriving Inhabited, Repr

namespace History

/-- The first event of a type. -/
def find? (h : History) (t : EventType) : Option HistoryEvent :=
  h.events.find? fun e => e.eventType = t

/-- Whether there is an event of a type. -/
def has (h : History) (t : EventType) : Bool := (h.find? t).isSome

/-- The workflow type that was started. -/
def workflowType? (h : History) : Option String :=
  (h.find? .workflowExecutionStarted).bind fun e => e.text? "workflowType"

/-- The arguments that the workflow was started with. -/
def input (h : History) : List Json :=
  (((h.find? .workflowExecutionStarted).bind fun e => e.attributes.get? "input").bind
    Json.arr?).getD []

end History

/-- The identity of a run. An empty run id stands for the latest run of the workflow id. -/
structure Execution where
  workflowId : String := ""
  runId : String := ""
  deriving DecidableEq, Repr, Inhabited

/-- Both ids of a run. -/
def Execution.text (e : Execution) : String := e.workflowId ++ "/" ++ e.runId

/-- How far an execution has come. -/
inductive ExecutionStatus where
  | running
  | completed
  | failed
  deriving DecidableEq, Repr, Inhabited

namespace ExecutionStatus

/-- The name of a status. -/
def text : ExecutionStatus → String
  | running => "RUNNING"
  | completed => "COMPLETED"
  | failed => "FAILED"

/-- The status with a given name. -/
def ofText? (name : String) : Option ExecutionStatus :=
  [running, completed, failed].find? fun s => s.text = name

theorem ofText?_text (s : ExecutionStatus) : ofText? s.text = some s := by
  cases s <;> decide

end ExecutionStatus

/-- What a server reports about a run. -/
structure ExecutionInfo where
  execution : Execution
  workflowType : String
  taskQueue : String
  status : ExecutionStatus
  historyLength : Nat
  deriving DecidableEq, Repr, Inhabited

end Conformance
