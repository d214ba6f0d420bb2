import Conformance.Server.Calls
import Conformance.Server.Tasks

/-!
# Runs of a server

Everything that can happen at a server: requests are served, tasks make steps, and latches that
are opened change the order in which tasks go on. A run is any sequence of these, and its log
holds the requests with their answers.

## Main definitions

- `Server.Request`, `Server.serve` — what a server is asked for, and how it answers
- `Server.Fresh` — a server that has not been asked for anything
- `Server.Run` — a run with its log
- `Server.startedIn` — the runs of workflows that were started according to a log

## Design notes

A task may make its step at any time and with any state of the latches, and any task may be the
next one. A run is therefore not tied to a clock or to a scheduler; what holds after every run
holds in every order of steps. The latches matter only where a task waits for one.
-/

namespace Conformance.Server

/-- What a server is asked for. -/
inductive Request where
  | startWorkflow (target : String) (ns : Option String) (workflowType : String)
      (options : WorkflowOptions) (args : List Json)
  | subscribe (execution : Execution)
  | takeAnswer (subscription : Subscription)
  | fetchHistory (target ns : String) (execution : Execution)
  | describe (target ns : String) (execution : Execution)
  | update (target workflowId name : String)
  | addWorker (queue : String)
  | updateWorker (worker : WorkerId) (change : Worker → Except Error Worker)
  | attach (target : String) (worker : WorkerId)
  | detach (worker : WorkerId)
  | connect (target : String)
  | release (target : String) (operation : Operation)
  | closeConnection (connection : ConnectionId)

/-- The type of the answer to a request. -/
@[reducible] def Request.Answer : Request → Type
  | startWorkflow .. => Except Error Execution
  | subscribe .. => Except Error Subscription
  | takeAnswer .. => Except Error Json
  | fetchHistory .. => Except Error History
  | describe .. => Except Error ExecutionInfo
  | update .. => RpcError
  | addWorker .. => WorkerId
  | updateWorker .. => Except Error Unit
  | attach .. => Unit
  | detach .. => Unit
  | connect .. => Except Error ConnectionId
  | release .. => Except Error Unit
  | closeConnection .. => Except Error Unit

/-- Serves a request. -/
def serve (s : Server) : (q : Request) → q.Answer × Server
  | .startWorkflow target ns workflowType options args =>
    s.startWorkflow target ns workflowType options args
  | .subscribe e => (s.subscribe e, s)
  | .takeAnswer sub => (s.answer sub, s)
  | .fetchHistory target ns e => s.fetchHistory target ns e
  | .describe target ns e => s.describe target ns e
  | .update target workflowId name => s.rejectUpdate target workflowId name
  | .addWorker queue => s.addWorker queue
  | .updateWorker id change => s.updateWorker id change
  | .attach target id => ((), s.attach target id)
  | .detach id => ((), s.detach id)
  | .connect target => s.connect target
  | .release target operation => s.release target operation
  | .closeConnection id => s.closeConnection id

/-- A request with its answer. -/
structure Exchange where
  request : Request
  answer : request.Answer

/-- A server that has not been asked for anything. Only how it will answer has been set. -/
def Fresh (s : Server) : Prop :=
  ∃ updateSupport refused failingShutdown,
    s = { updateSupport, refused, failingShutdown : Server }

/-- `Run s₀ log s` says that something led from `s₀` to `s`, with the requests and answers of
`log`. -/
inductive Run (s₀ : Server) : List Exchange → Server → Prop
  | start : Run s₀ [] s₀
  | serve {log : List Exchange} {s : Server} (h : Run s₀ log s) (q : Request) :
      Run s₀ (log ++ [⟨q, (s.serve q).1⟩]) (s.serve q).2
  | task {log : List Exchange} {s s' : Server} {now i : Nat} {signals signals' : Signals}
      (h : Run s₀ log s) (hstep : s.step? now signals i = some (s', signals')) : Run s₀ log s'
  | letThrough {log : List Exchange} {s : Server} (h : Run s₀ log s) (latch : SignalId) :
      Run s₀ log (s.letThrough latch)

/-- Runs can be put one after another. -/
theorem Run.trans {s₀ s s' : Server} {log log' : List Exchange} (h : Run s₀ log s)
    (h' : Run s log' s') : Run s₀ (log ++ log') s' := by
  induction h' with
  | start => rwa [List.append_nil]
  | serve _ q ih =>
    rw [← List.append_assoc]
    exact ih.serve q
  | task _ hstep ih => exact ih.task hstep
  | letThrough _ latch ih => exact ih.letThrough latch

/-- The run of a workflow that an exchange has started. -/
def Exchange.started? : Exchange → Option Execution
  | ⟨.startWorkflow .., .ok e⟩ => some e
  | _ => none

/-- The runs of workflows that were started according to a log, in order. -/
def startedIn (log : List Exchange) : List Execution := log.filterMap Exchange.started?

theorem startedIn_append (log log' : List Exchange) :
    startedIn (log ++ log') = startedIn log ++ startedIn log' := by
  rw [startedIn, List.filterMap_append]
  rfl

end Conformance.Server
