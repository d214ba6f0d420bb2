import Conformance.History.Event
import Conformance.Json.Read

/-!
# The JSON form of recorded data

Encoders and decoders for events, histories and reports. Decoders accept more than the encoders
write: event ids as decimal texts, unknown event types, absent attributes, unknown fields,
records given as arrays of their fields, and variants given as objects.

## Main definitions

- `encode` functions — the JSON form, fields in a fixed order
- `decode?` functions — the value of a draft
-/

namespace Conformance

/-- Reads a required field. -/
def required {α : Type} (decode : Draft → Option α) (field : Option Draft) : Option α :=
  field.bind decode

/-- Reads a field that has a value when it is absent. -/
def optional {α : Type} (absent : α) (decode : Draft → Option α) : Option Draft → Option α
  | none => some absent
  | some d => decode d

namespace EventType

/-- The JSON form of an event type. -/
def encode (t : EventType) : Json := .str t.text

/-- Reads an event type. -/
def decode? (d : Draft) : Option EventType := d.variant?.map ofText

end EventType

namespace ExecutionStatus

/-- The JSON form of a status. -/
def encode (s : ExecutionStatus) : Json := .str s.text

/-- Reads a status. -/
def decode? (d : Draft) : Option ExecutionStatus := d.variant?.bind ofText?

end ExecutionStatus

namespace HistoryEvent

/-- Reads an event id: a number, or a text that holds one. -/
def decodeId? : Draft → Option Int
  | .str s => Text.signed? Text.minSigned64 Text.maxSigned64 s
  | d => d.int? Text.minSigned64 Text.maxSigned64

/-- The JSON form of an event. -/
def encode (e : HistoryEvent) : Json :=
  .obj [("eventId", .int e.eventId), ("eventType", e.eventType.encode),
    ("attributes", e.attributes)]

/-- Reads an event. -/
def decode? (d : Draft) : Option HistoryEvent := do
  match ← d.fields? ["eventId", "eventType", "attributes"] with
  | [eventId, eventType, attributes] =>
    return { eventId := ← required decodeId? eventId
             eventType := ← required EventType.decode? eventType
             attributes := ← optional .null Draft.value? attributes }
  | _ => none

end HistoryEvent

namespace History

/-- The JSON form of a history. -/
def encode (h : History) : Json := .obj [("events", .arr (h.events.map HistoryEvent.encode))]

/-- Reads a history. -/
def decode? (d : Draft) : Option History := do
  match ← d.fields? ["events"] with
  | [events] =>
    return ⟨← required (fun e => e.arr?.bind (·.mapM HistoryEvent.decode?)) events⟩
  | _ => none

/-- Reads a history from a value. -/
def ofJson? (v : Json) : Option History := decode? v.draft

end History

namespace Execution

/-- The JSON form of the identity of a run. -/
def encode (e : Execution) : Json :=
  .obj [("workflowId", .str e.workflowId), ("runId", .str e.runId)]

/-- Reads the identity of a run. -/
def decode? (d : Draft) : Option Execution := do
  match ← d.fields? ["workflowId", "runId"] with
  | [workflowId, runId] =>
    return { workflowId := ← required Draft.str? workflowId
             runId := ← required Draft.str? runId }
  | _ => none

end Execution

namespace ExecutionInfo

/-- The JSON form of a report. -/
def encode (i : ExecutionInfo) : Json :=
  .obj [("execution", i.execution.encode), ("workflowType", .str i.workflowType),
    ("taskQueue", .str i.taskQueue), ("status", i.status.encode),
    ("historyLength", .int i.historyLength)]

/-- Reads a report. -/
def decode? (d : Draft) : Option ExecutionInfo := do
  match ← d.fields? ["execution", "workflowType", "taskQueue", "status", "historyLength"] with
  | [execution, workflowType, taskQueue, status, historyLength] =>
    let length ← required (Draft.int? 0 Text.maxUnsigned64) historyLength
    return { execution := ← required Execution.decode? execution
             workflowType := ← required Draft.str? workflowType
             taskQueue := ← required Draft.str? taskQueue
             status := ← required ExecutionStatus.decode? status
             historyLength := length.toNat }
  | _ => none

end ExecutionInfo

end Conformance
