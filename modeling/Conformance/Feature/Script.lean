import Conformance.Capability
import Conformance.Config
import Conformance.History.Fixtures
import Conformance.Proxy.Bracket
import Conformance.Server.Basic
import Conformance.Network

/-!
# Scripts of features

A feature drives its run through a fixed set of operations of the runner. A script is a tree of
such operations; it ends with a value or with an error.

## Main definitions

- `RunnerOp` — the operations, each with the type of its reply
- `Script` — what a feature does
- `Script.executeSingleWorkflow` and others — what features do again and again
-/

namespace Conformance

/-- A run that a feature has started. -/
structure Run where
  method : WorkflowMethod
  execution : Execution
  deriving DecidableEq, Repr, Inhabited

/-- A client as it is seen from outside: its namespace and its address. -/
structure ClientView where
  ns : String
  target : String
  deriving DecidableEq, Repr, Inhabited

/-- What a feature can see of its runner. -/
structure RunnerView where
  config : Config
  methods : List WorkflowMethod
  options : WorkflowOptions
  sdkName : String
  sdkVersion : Version
  fixtures : FixtureStore
  workerClient : ClientView
  initiatorClient : ClientView
  initiatorService : String
  workerQueue : Option String
  starts : Nat
  hasProxy : Bool

/-- The operations of a runner. Calls go through the endpoint that the feature has chosen for
initiating calls. -/
inductive RunnerOp where
  | view
  | startWorkflow (workflowType : String) (options : WorkflowOptions) (args : List Json)
  | result (execution : Execution)
  | history (execution : Execution)
  | describe (execution : Execution)
  | update (workflowId name : String)
  | startUpdate (workflowId name : String)
  | restartWorker
  | shutdownWorker
  | consultWorker (check : Worker → Except Error Unit)
  | registerWorkflow (workflow : Workflow)
  | loadPast
  | storeHistories (histories : List History)
  | send (command : ProxyCommand)
  | sendLater (delay : Duration) (command : ProxyCommand)
  | join (ticket : Nat)
  | openLatch (latch : SignalId)
  | awaitLatch (latch : SignalId) (limit : Duration)
  | increment (counter : SignalId)
  | sleep (duration : Duration)
  | settle
  | closeService
  | setStatus (status : Nat)
  | requests

/-- The type of the reply to an operation that succeeds. -/
@[reducible] def RunnerOp.Reply : RunnerOp → Type
  | view => RunnerView
  | startWorkflow .. => Execution
  | result .. => Json
  | history .. => History
  | describe .. => ExecutionInfo
  | update .. => Except RpcError Json
  | startUpdate .. => Except RpcError String
  | loadPast => PastHistories
  | storeHistories .. => String
  | sendLater .. => Nat
  | awaitLatch .. => Bool
  | requests => List ControlRequest
  | _ => Unit

/-- What a feature does: it ends, or performs an operation and goes on with its reply. -/
inductive Script (α : Type) where
  | done (result : Except Error α)
  | call (op : RunnerOp) (next : Except Error op.Reply → Script α)

namespace Script

variable {α β : Type}

instance : Inhabited (Script α) := ⟨done (.error (.internal "no script"))⟩

/-- A script followed by another one that depends on its value. An error ends both. -/
def bind : Script α → (α → Script β) → Script β
  | done (.ok a), f => f a
  | done (.error e), _ => done (.error e)
  | call op next, f => call op fun reply => bind (next reply) f

instance : Monad Script where
  pure a := done (.ok a)
  bind := bind

/-- Ends with an error. -/
def fail (e : Error) : Script α := done (.error e)

/-- Ends with a result. -/
def ofExcept (result : Except Error α) : Script α := done result

/-- Performs one operation. -/
def perform (op : RunnerOp) : Script op.Reply := call op done

/-- Turns the end of a script, whatever it is, into its value. -/
def attempt : Script α → Script (Except Error α)
  | done result => done (.ok result)
  | call op next => call op fun reply => attempt (next reply)

/-! ## Starting workflows -/

/-- The only workflow of the feature. -/
def singleMethod : Script WorkflowMethod := do
  match (← perform .view).methods with
  | [method] => return method
  | methods =>
    fail (.assertion ("expected only one workflow method, got " ++ toString methods.length))

/-- Starts a workflow with the options of the feature. -/
def executeWorkflow (workflowType : String) (args : List Json) : Script Execution := do
  let options := (← perform .view).options
  perform (.startWorkflow workflowType options args)

/-- Starts the only workflow of the feature, with the options of the feature unless others are
given. -/
def executeSingleWorkflow (options : Option WorkflowOptions) (args : List Json) : Script Run := do
  let method ← singleMethod
  let options := options.getD (← perform .view).options
  let execution ← perform (.startWorkflow method.name options args)
  return ⟨method, execution⟩

/-- Starts the only workflow of the feature, which must have no parameters. -/
def executeSingleParameterlessWorkflow : Script Run := do
  let method ← singleMethod
  if method.arity ≠ 0 then
    fail (.assertion ("expected no parameters, got " ++ toString method.arity))
  else
    let execution ← executeWorkflow method.name []
    return ⟨method, execution⟩

/-! ## Results and histories -/

/-- Waits for the result of a run, which must be of the declared kind. -/
def waitForRunResult (run : Run) : Script Json := do
  let result ← perform (.result run.execution)
  if run.method.returns.holds result then return result
  else
    fail (.assertion ("workflow " ++ run.method.name ++ " declared a " ++ run.method.returns.text
      ++ " result, got " ++ result.compact))

/-- Waits for the result of a run and reads a value from it. -/
def waitForRunResultAs (read? : Json → Option α) (run : Run) : Script α := do
  match read? (← perform (.result run.execution)) with
  | some a => return a
  | none => fail (.json "unexpected form")

/-- The recorded result of a run. -/
def resultPayload (run : Run) : Script Json := do
  match (← perform (.history run.execution)).find? .workflowExecutionCompleted with
  | some e => return (e.attributes.get? "result").getD .null
  | none => fail (.assertion "workflow has no completed event")

/-- The first recorded argument of a run. -/
def argumentPayload (run : Run) : Script Json := do
  let h ← perform (.history run.execution)
  let input := (h.find? .workflowExecutionStarted).bind fun e => e.attributes.get? "input"
  match input.bind fun v => v.item? 0 with
  | some v => return v
  | none => fail (.assertion "workflow was started without arguments")

/-- Replays the live history and all stored ones. The live history is stored if the settings ask
for it, once it has been replayed. -/
def checkHistories (run : Run) : Script Unit := do
  let current ← perform (.history run.execution)
  perform (.consultWorker fun w => verifyCurrent w current)
  if (← perform .view).config.generateHistory then
    let _ ← perform (.storeHistories [current])
  let past ← perform .loadPast
  perform (.consultWorker fun w => verifyPast w past)

/-- Refuses a history in which an update was rejected. -/
def requireNoUpdateRejected (run : Run) : Script Unit := do
  match (← perform (.history run.execution)).find? .workflowExecutionUpdateRejected with
  | some e => fail (.assertion ("unexpected update rejected event " ++ toString e.eventId))
  | none => return ()

/-! ## Capabilities -/

/-- Skips the feature if the server does not support updates. -/
def skipIfUpdateNotSupported : Script Unit := do
  let answer ← perform (.update OptionalRpc.probeWorkflow OptionalRpc.probeUpdate)
  ofExcept (Capability.classify .update answer).require

/-- Skips the feature if the server does not support updates that return once accepted. -/
def skipIfAsyncUpdateNotSupported : Script Unit := do
  let answer ← perform (.startUpdate OptionalRpc.probeWorkflow OptionalRpc.probeUpdate)
  ofExcept (Capability.classify .asyncAcceptedUpdate answer).require

/-! ## Retrying and proxy commands -/

/-- Makes the rest of the checks of a retry: one after another until one holds, with a pause after
each one that does not. Checks are numbered from zero. -/
def retryFrom (check : Nat → Script Bool) (pause : Duration) (made : Nat) :
    (retries : Nat) → Script (Nat × Except Error Unit)
  | 0 => return (made, .error (.assertion "retry limit exceeded"))
  | retries + 1 => do
    match ← attempt (check made) with
    | .error e => return (made + 1, .error e)
    | .ok true => return (made + 1, .ok ())
    | .ok false =>
      perform (.sleep pause)
      retryFrom check pause (made + 1) retries

/-- Makes a check again and again until it holds, and tells how many checks were made. -/
def retry (check : Nat → Script Bool) (retries : Nat) (pause : Duration) :
    Script (Nat × Except Error Unit) :=
  retryFrom check pause 0 retries

/-- How a script sends proxy commands. -/
def proxy : ProxyChannel Script where
  send command := attempt (perform (.send command))
  later delay command := perform (.sendLater delay command)
  join ticket := perform (.join ticket)

/-- Work between two proxy commands. -/
def bracket (sleep : Duration) (first second : ProxyCommand) (work : Script α) : Script α :=
  bind (proxy.bracket sleep first second (attempt work)) ofExcept

/-- Work while the server is out of reach. -/
def proxyRejectAndAccept (sleep : Duration) (work : Script α) : Script α :=
  bracket sleep .reject .accept work

/-- Work while connections hang. -/
def proxyFreezeAndThaw (sleep : Duration) (work : Script α) : Script α :=
  bracket sleep .freeze .thaw work

end Script

end Conformance
