import Conformance.Duration
import Conformance.History.Event
import Conformance.Worker

/-!
# The in-process server

The server keeps one record per workflow id, the workers that poll task queues, the workflows
that wait for a worker, and the workflow tasks that are under way. It also remembers every
connection and every call.

## Main definitions

- `Server` — the state of the server
- `ExecutionRecord` — the latest run of a workflow id
- `WorkflowTask` — a run of workflow code that has not ended
- `WorkflowOptions` — how a workflow is started
-/

namespace Conformance

/-- The number of a connection, in the order in which they were opened. -/
abbrev ConnectionId := Nat

/-- The number of a worker, in the order in which they were made. -/
abbrev WorkerId := Nat

/-- How a workflow is started. -/
structure WorkflowOptions where
  workflowId : Option String := none
  taskQueue : String := ""
  executionTimeout : Option Duration := none
  runTimeout : Option Duration := none
  taskTimeout : Option Duration := none
  deriving DecidableEq, Repr, Inhabited

/-- How a server answers updates. -/
inductive UpdateSupport where
  | enabled
  | disabled
  | unimplemented
  deriving DecidableEq, Repr, Inhabited

/-- The operations that the server records. -/
inductive Operation where
  | startWorkflow
  | update
  | fetchHistory
  | describeExecution
  | pollTaskQueue
  | shutdownWorkerFactory
  | shutdownService
  deriving DecidableEq, Repr, Inhabited

/-- The name of an operation. -/
def Operation.text : Operation → String
  | startWorkflow => "start_workflow"
  | update => "update"
  | fetchHistory => "fetch_history"
  | describeExecution => "describe_execution"
  | pollTaskQueue => "poll_task_queue"
  | shutdownWorkerFactory => "shutdown_worker_factory"
  | shutdownService => "shutdown_service"

/-- A call that reached the server, the address it was sent to, and the namespace that it
names, if it names one. -/
structure Call where
  target : String
  operation : Operation
  ns : Option String := none
  deriving DecidableEq, Repr, Inhabited

/-- A connection to the server. -/
structure Connection where
  target : String
  isOpen : Bool := true
  deriving DecidableEq, Repr, Inhabited

/-- What is reported of an end: the result, or the text of the failure. -/
abbrev Completion := Except String Json

/-- What is reported of an end. -/
def Completion.ofEnding : Ending → Completion
  | .ok result => .ok result
  | .error failure => .error failure.text

/-- The latest run of a workflow id. -/
structure ExecutionRecord where
  execution : Execution
  workflowType : String
  taskQueue : String
  input : List Json
  events : List HistoryEvent := []
  status : ExecutionStatus := .running
  timeout : Duration
  deriving Inhabited

namespace ExecutionRecord

/-- The id that the next event gets. -/
def nextId (r : ExecutionRecord) : Int := eventIdAt (r.events.length + 1)

/-- Appends an event. -/
def record (r : ExecutionRecord) (eventType : EventType) (attributes : List (String × Json)) :
    ExecutionRecord :=
  { r with events := r.events ++ [⟨r.nextId, eventType, Json.ofFields attributes⟩] }

/-- Records that an activity is scheduled. -/
def schedule (r : ExecutionRecord) (activityType : String) (args : List Json) : ExecutionRecord :=
  r.record .activityTaskScheduled [("activityType", .str activityType), ("input", .arr args)]

/-- Records the outcome of an activity under the id of the event that scheduled it. -/
def close (r : ExecutionRecord) (scheduled : Int) : Ending → ExecutionRecord
  | .ok result =>
    r.record .activityTaskCompleted [("scheduledEventId", .int scheduled), ("result", result)]
  | .error failure =>
    r.record .activityTaskFailed
      [("scheduledEventId", .int scheduled), ("failure", .str failure.text)]

/-- Records the end of a run. -/
def finish (r : ExecutionRecord) : Completion → ExecutionRecord
  | .ok result =>
    { r.record .workflowExecutionCompleted [("result", result)] with status := .completed }
  | .error failure =>
    { r.record .workflowExecutionFailed [("failure", .str failure)] with status := .failed }

/-- Whether a run is addressed; an empty run id addresses the latest run. -/
def answersTo (r : ExecutionRecord) (e : Execution) : Bool :=
  e.runId.isEmpty || e.runId == r.execution.runId

/-- The history of a run. -/
def history (r : ExecutionRecord) : History := ⟨r.events⟩

/-- The report on a run. -/
def info (r : ExecutionRecord) : ExecutionInfo :=
  { execution := r.execution
    workflowType := r.workflowType
    taskQueue := r.taskQueue
    status := r.status
    historyLength := r.events.length }

end ExecutionRecord

/-- What a workflow task does next: it has not started, it runs workflow code, or it runs the
activity that was scheduled by an event. -/
inductive TaskPhase where
  | fresh
  | running (code : Code)
  | inActivity (scheduled : Int) (activity : ActivityCode) (next : Ending → Code)

/-- A run of workflow code that has not ended. A task that sleeps knows when it wakes up. -/
structure WorkflowTask where
  workflowId : String
  worker : WorkerId
  phase : TaskPhase := .fresh
  wake : Option Nat := none

/-- The state of the server. -/
structure Server where
  executions : Table String ExecutionRecord := Table.empty
  completions : Table String Completion := Table.empty
  pollers : Table String WorkerId := Table.empty
  pending : Table String (List String) := Table.empty
  workers : List Worker := []
  tasks : List WorkflowTask := []
  connections : List Connection := []
  calls : List Call := []
  starts : Nat := 0
  updateSupport : UpdateSupport := .enabled
  refused : List String := []
  failingShutdown : List String := []

instance : Inhabited Server := ⟨{}⟩

namespace Server

/-- Remembers a call. -/
def record (s : Server) (target : String) (operation : Operation)
    (ns : Option String := none) : Server :=
  { s with calls := s.calls ++ [⟨target, operation, ns⟩] }

/-- The worker with a number. -/
def worker? (s : Server) (id : WorkerId) : Option Worker := s.workers[id]?

/-- Changes a worker. -/
def modifyWorker (s : Server) (id : WorkerId) (f : Worker → Worker) : Server :=
  { s with workers := s.workers.modify id f }

/-- Changes the record of a workflow id. -/
def modifyExecution (s : Server) (workflowId : String)
    (f : ExecutionRecord → ExecutionRecord) : Server :=
  { s with executions := s.executions.modify workflowId f }

/-- The address of a connection. -/
def targetOf (s : Server) (id : ConnectionId) : String :=
  match s.connections[id]? with
  | some c => c.target
  | none => ""

/-- Whether a connection has not been shut down. -/
def isOpen (s : Server) (id : ConnectionId) : Bool :=
  match s.connections[id]? with
  | some c => c.isOpen
  | none => false

/-- The number of connections that have not been shut down. -/
def openConnections (s : Server) : Nat := (s.connections.filter (·.isOpen)).length

/-- The task queues that are polled, in ascending order. -/
def pollingQueues (s : Server) : List String := s.pollers.keys.mergeSort (fun a b => a ≤ b)

/-- The addresses to which an operation was sent, by the name of the operation. -/
def targetsOf (s : Server) (operation : String) : List String :=
  (s.calls.filter fun c => c.operation.text = operation).map (·.target)

end Server

end Conformance
