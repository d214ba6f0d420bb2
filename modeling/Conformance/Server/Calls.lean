import Conformance.Server.Basic

/-!
# Calls to the server

What clients, services and workers ask of the server. Every call is one atomic step.

## Main definitions

- `Server.startWorkflow` — starts a run and hands it to a worker, or keeps it until one polls
- `Server.addressed` — the run that an identity addresses
- `Server.fetchHistory`, `Server.describe` — what is recorded about a run
- `Server.rejectUpdate` — there are no update handlers, so every update ends in an error
- `Server.attach`, `Server.detach` — a worker starts and stops polling
- `Server.connect`, `Server.release` — connections and their end
-/

namespace Conformance.Server

/-- How long a result is waited for when the workflow has no execution timeout. -/
def defaultTimeout : Duration := Duration.ofSeconds 60

/-- The error for a run that is not known. -/
def notFound (e : Execution) : Error :=
  .rpc ⟨.notFound, "workflow execution " ++ e.text ++ " not found"⟩

/-- The error of a call on a connection that was shut down. -/
def closedError (target : String) : Error :=
  .rpc ⟨.unavailable, "connection to " ++ target ++ " is closed"⟩

/-- Starts a task for a run of a workflow. -/
def spawn (s : Server) (worker : WorkerId) (workflowId : String) : Server :=
  { s with tasks := s.tasks ++ [{ workflowId, worker }] }

/-- The workflows that wait for a worker on a queue, in the order in which they came. -/
def waiting (s : Server) (queue : String) : List String := (s.pending.get? queue).getD []

/-- Hands a workflow to the worker that polls a queue, or keeps it until one does. -/
def dispatch (s : Server) (queue workflowId : String) : Server :=
  match s.pollers.get? queue with
  | some worker => s.spawn worker workflowId
  | none => { s with pending := s.pending.insert queue (s.waiting queue ++ [workflowId]) }

/-- The run id that is made from a number. -/
def runIdOf (n : Nat) : String := "loopback-run-" ++ toString n

/-- The record of a run that has just been started. -/
def newRecord (execution : Execution) (workflowType : String) (options : WorkflowOptions)
    (args : List Json) : ExecutionRecord :=
  let empty : ExecutionRecord :=
    { execution, workflowType
      taskQueue := options.taskQueue
      input := args
      timeout := options.executionTimeout.getD defaultTimeout }
  empty.record .workflowExecutionStarted
    [("workflowType", .str workflowType), ("taskQueue", .str options.taskQueue),
      ("input", .arr args)]

/-- Starts a workflow. Every attempt with a task queue takes a number, from which the run id
and, where none is given, the workflow id are made. A workflow id has one running run at most. -/
def startWorkflow (s : Server) (target : String) (ns : Option String)
    (workflowType : String) (options : WorkflowOptions) (args : List Json) :
    Except Error Execution × Server :=
  if options.taskQueue.isEmpty then
    (.error (.rpc ⟨.invalidArgument, "task queue is not set"⟩), s)
  else
    let n := s.starts + 1
    let workflowId := options.workflowId.getD ("loopback-workflow-" ++ toString n)
    let execution : Execution := ⟨workflowId, runIdOf n⟩
    let s := { s with starts := n }.record target .startWorkflow ns
    if ((s.executions.get? workflowId).map (·.status)) = some .running then
      (.error (.rpc ⟨.invalidArgument, "workflow " ++ workflowId ++ " is already running"⟩), s)
    else
      let s := { s with
        executions := s.executions.insert workflowId (newRecord execution workflowType options args) }
      (.ok execution, s.dispatch options.taskQueue workflowId)

/-- The record of the run that an identity addresses. -/
def addressed (s : Server) (e : Execution) : Except Error ExecutionRecord :=
  match s.executions.get? e.workflowId with
  | some r => if r.answersTo e then .ok r else .error (notFound e)
  | none => .error (notFound e)

/-- The history of a run. -/
def fetchHistory (s : Server) (target ns : String) (e : Execution) :
    Except Error History × Server :=
  let s := s.record target .fetchHistory (some ns)
  ((s.addressed e).map (·.history), s)

/-- The report on a run. -/
def describe (s : Server) (target ns : String) (e : Execution) :
    Except Error ExecutionInfo × Server :=
  let s := s.record target .describeExecution (some ns)
  ((s.addressed e).map (·.info), s)

/-- The error with which an update ends. Rejections are not recorded in the history. -/
def updateError (s : Server) (workflowId update : String) : RpcError :=
  match s.updateSupport with
  | .disabled =>
    ⟨.permissionDenied, "UpdateWorkflowExecution operation is disabled on this namespace"⟩
  | .unimplemented => ⟨.unimplemented, "unknown method UpdateWorkflowExecution"⟩
  | .enabled =>
    match s.executions.get? workflowId with
    | some r =>
      if r.status = .running then
        ⟨.invalidArgument, "update " ++ update ++ " rejected: no handler registered"⟩
      else ⟨.notFound, "workflow execution already completed"⟩
    | none => ⟨.notFound, "workflow not found for ID: " ++ workflowId⟩

/-- Refuses an update. -/
def rejectUpdate (s : Server) (target workflowId update : String) : RpcError × Server :=
  let s := s.record target .update
  (s.updateError workflowId update, s)

/-! ## Results -/

/-- A result that is waited for: the run, as it was addressed and as it was found, and for how
long. -/
structure Subscription where
  asked : Execution
  found : Execution
  timeout : Duration
  deriving DecidableEq, Repr, Inhabited

/-- Asks for the result of a run. -/
def subscribe (s : Server) (e : Execution) : Except Error Subscription :=
  (s.addressed e).map fun r => ⟨e, r.execution, r.timeout⟩

/-- Whether the record of a run has been replaced by that of a later run. -/
def isReplaced (s : Server) (e : Execution) : Bool :=
  (s.executions.get? e.workflowId).map (·.execution.runId) != some e.runId

/-- Whether a subscription can be answered. -/
def isSettled (s : Server) (sub : Subscription) : Bool :=
  s.completions.contains sub.found.runId || s.isReplaced sub.found

/-- The answer to a subscription. Without one, the run has taken too long. -/
def answer (s : Server) (sub : Subscription) : Except Error Json :=
  match s.completions.get? sub.found.runId with
  | some (.ok result) => .ok result
  | some (.error failure) => .error (.workflow failure)
  | none =>
    if s.isReplaced sub.found then
      .error (.workflow ("workflow " ++ sub.asked.text ++ " was replaced before it completed"))
    else
      .error (.workflow ("workflow " ++ sub.asked.text ++ " timed out after " ++ sub.timeout.text))

/-! ## Workers -/

/-- Makes a worker for a task queue. -/
def addWorker (s : Server) (queue : String) : WorkerId × Server :=
  (s.workers.length, { s with workers := s.workers ++ [{ taskQueue := queue }] })

/-- Changes a worker, unless that is refused. -/
def updateWorker (s : Server) (id : WorkerId) (change : Worker → Except Error Worker) :
    Except Error Unit × Server :=
  match s.worker? id with
  | none => (.error (.internal "worker has not been started"), s)
  | some w =>
    match change w with
    | .error e => (.error e, s)
    | .ok w' => (.ok (), s.modifyWorker id fun _ => w')

/-- Starts tasks for workflows, in order. -/
def spawnAll (s : Server) (worker : WorkerId) (workflowIds : List String) : Server :=
  workflowIds.foldl (fun s id => s.spawn worker id) s

/-- Makes a worker the poller of its task queue and hands it the workflows that wait there. -/
def attach (s : Server) (target : String) (id : WorkerId) : Server :=
  match s.worker? id with
  | none => s
  | some w =>
    { s.record target .pollTaskQueue with
      pollers := s.pollers.insert w.taskQueue id
      pending := s.pending.erase w.taskQueue }.spawnAll id (s.waiting w.taskQueue)

/-- Stops a worker from polling; another worker on the same queue is left alone. -/
def detach (s : Server) (id : WorkerId) : Server :=
  match s.worker? id with
  | none => s
  | some w =>
    if s.pollers.get? w.taskQueue = some id then
      { s with pollers := s.pollers.erase w.taskQueue }
    else s

/-! ## Connections -/

/-- Opens a connection. -/
def connect (s : Server) (target : String) : Except Error ConnectionId × Server :=
  if s.refused.contains target then (.error (.connection target "connection refused"), s)
  else (.ok s.connections.length, { s with connections := s.connections ++ [{ target }] })

/-- Takes notice of a release. It takes effect even where it reports an error. -/
def release (s : Server) (target : String) (operation : Operation) :
    Except Error Unit × Server :=
  let s := s.record target operation
  if s.failingShutdown.contains target then
    (.error (.rpc ⟨.internal, operation.text ++ " on " ++ target ++ " failed"⟩), s)
  else (.ok (), s)

/-- Shuts a connection down. -/
def closeConnection (s : Server) (id : ConnectionId) : Except Error Unit × Server :=
  let s := { s with connections := s.connections.modify id fun c => { c with isOpen := false } }
  s.release (s.targetOf id) .shutdownService

end Conformance.Server
