import Conformance.Program
import Conformance.Proxy.Bracket

/-!
# Calls through the SDK

The calls that a harness makes through the SDK: connections, clients, worker factories and
workers, and what is asked of them. A fault of the SDK replaces a call before it is made.

## Main definitions

- `World.connect`, `World.newClient`, `World.newFactory`, `World.newWorker` — make things
- `World.startFactory`, `World.shutdownFactory`, `World.closeService` — start and stop them
- `World.startWorkflow`, `World.fetchHistory`, `World.describe`, `World.update` — ask the server
- `Program.result` — waits for the result of a run
- `Program.proxy` — how programs send proxy commands
-/

namespace Conformance

/-- The number of a worker factory, in the order in which they were made. -/
abbrev FactoryId := Nat

namespace World

/-- Counts a call and tells the fault that replaces it. -/
def enter (w : World) (point : SdkPoint) : Option Fault × World :=
  let (fault, sdk) := w.sdk.enter point
  (fault, { w with sdk })

/-- Makes a call unless a fault with an error replaces it. -/
def guarded {α : Type} (point : SdkPoint) (call : World → Except Error α × World) (w : World) :
    Except Error α × World :=
  match w.enter point with
  | (some ⟨_, _, some e⟩, w) => (.error e, w)
  | (_, w) => call w

/-- The factory with a number. -/
def factory? (w : World) (id : FactoryId) : Option WorkerFactory := w.factories[id]?

/-- Changes a factory. -/
def modifyFactory (w : World) (id : FactoryId) (f : WorkerFactory → WorkerFactory) : World :=
  { w with factories := w.factories.modify id f }

/-! ## Connections and clients -/

/-- Opens a connection and counts it. -/
def connect (target : String) : World → Except Error ConnectionId × World :=
  guarded .connect fun w =>
    match w.server.connect target with
    | (.error e, server) => (.error e, { w with server })
    | (.ok id, server) =>
      (.ok id, { w with server, metrics := w.metrics ++ [("loopback_connections_opened", 1)] })

/-- Makes a client of a connection. -/
def newClient (connection : ConnectionId) (ns : String) : World → Except Error Client × World :=
  guarded .newClient fun w => (.ok ⟨connection, ns⟩, w)

/-- Shuts a connection down. -/
def closeService (connection : ConnectionId) (w : World) : Except Error Unit × World :=
  let (result, server) := w.server.closeConnection connection
  (result, { w with server })

/-! ## Workers -/

/-- Makes a factory whose workers poll through the connection of a client. -/
def newFactory (client : Client) : World → Except Error FactoryId × World :=
  guarded .newWorkerFactory fun w =>
    (.ok w.factories.length, { w with
      factories := w.factories ++ [{ target := w.server.targetOf client.connection }] })

/-- Makes a worker for a task queue. A started factory takes no more workers. -/
def newWorker (factory : FactoryId) (queue : String) : World → Except Error WorkerId × World :=
  guarded .newWorker fun w =>
    if ((w.factory? factory).map (·.running)) = some true then
      (.error (.internal "cannot add a worker to a started factory"), w)
    else
      let (id, server) := w.server.addWorker queue
      let w := { w with server }
      (.ok id, w.modifyFactory factory fun f => { f with workers := f.workers ++ [id] })

/-- Makes the workers of a factory poll. -/
def attachAll (w : World) (target : String) (ids : List WorkerId) : World :=
  ids.foldl (fun w id => { w with server := w.server.attach target id }) w

/-- Stops the workers of a factory from polling. -/
def detachAll (w : World) (ids : List WorkerId) : World :=
  ids.foldl (fun w id => { w with server := w.server.detach id }) w

/-- Starts a factory, unless a fault replaces the call. -/
def startFactory (id : FactoryId) (w : World) : Except Error Unit × World :=
  match w.enter .start with
  | (some fault, w) =>
    match fault.error with
    | some e => (.error e, w)
    | none => (.ok (), w)
  | (none, w) =>
    match w.factory? id with
    | none => (.ok (), w)
    | some f =>
      let w := w.modifyFactory id fun f => { f with running := true }
      (.ok (), w.attachAll f.target f.workers)

/-- Stops the workers of a factory from polling. Workflow tasks go on. -/
def shutdownFactory (id : FactoryId) (w : World) : Except Error Unit × World :=
  match w.factory? id with
  | none => (.ok (), w)
  | some f =>
    let w := w.modifyFactory id fun f => { f with running := false }
    let w := w.detachAll f.workers
    let (result, server) := w.server.release f.target .shutdownWorkerFactory
    (result, { w with server })

/-- Changes a worker, unless that is refused. -/
def updateWorker (id : WorkerId) (change : Worker → Except Error Worker) (w : World) :
    Except Error Unit × World :=
  let (result, server) := w.server.updateWorker id change
  (result, { w with server })

/-- Consults a worker. -/
def withWorker (id : WorkerId) (f : Worker → Except Error Unit) (w : World) : Except Error Unit :=
  match w.server.worker? id with
  | none => .error (.internal "worker has not been started")
  | some worker => f worker

/-! ## Workflows -/

/-- Starts a workflow through a client. -/
def startWorkflow (client : Client) (workflowType : String) (options : WorkflowOptions)
    (args : List Json) (w : World) : Except Error Execution × World :=
  let (result, server) := w.server.startWorkflow (w.server.targetOf client.connection)
    (some client.ns) workflowType options args
  (result, { w with server })

/-- Asks the service behind a connection, which has to be open. -/
def asking {α : Type} (connection : ConnectionId)
    (call : Server → String → Except Error α × Server) (w : World) : Except Error α × World :=
  let target := w.server.targetOf connection
  if w.server.isOpen connection then
    let (result, server) := call w.server target
    (result, { w with server })
  else (.error (Server.closedError target), w)

/-- The history of a run. -/
def fetchHistory (connection : ConnectionId) (ns : String) (e : Execution) :
    World → Except Error History × World :=
  asking connection fun s target => s.fetchHistory target ns e

/-- The report on a run. -/
def describe (connection : ConnectionId) (ns : String) (e : Execution) :
    World → Except Error ExecutionInfo × World :=
  asking connection fun s target => s.describe target ns e

/-- Sends an update and waits for its result. -/
def update (client : Client) (workflowId name : String) (w : World) :
    Except RpcError Json × World :=
  match w.sdk.nextUpdate with
  | (some answer, sdk) => (answer, { w with sdk })
  | (none, sdk) =>
    let (e, server) := w.server.rejectUpdate (w.server.targetOf client.connection) workflowId name
    (.error e, { w with sdk, server })

/-- Sends an update and returns once it is accepted, with its handle. -/
def startUpdate (client : Client) (workflowId name : String) (w : World) :
    Except RpcError String × World :=
  let (answer, w) := w.update client workflowId name
  (answer.map Json.compact, w)

end World

/-- Waits for the result of a run, as long as its timeout allows. -/
def Program.result (e : Execution) : Program (Except Error Json) := do
  match ← Program.look fun w => w.server.subscribe e with
  | .error e => return .error e
  | .ok sub =>
    let _ ← Program.waitFor (fun w => w.server.isSettled sub) sub.timeout
    Program.look fun w => w.server.answer sub

/-- How a program sends proxy commands. -/
def Program.proxy (p : ProxyController) : ProxyChannel Program where
  send command := Program.lift fun w => w.sendCommand p command
  later delay command := Program.lift fun w => w.sendLater p delay command
  join ticket := Program.waitUntil fun w => w.isSent ticket

end Conformance
