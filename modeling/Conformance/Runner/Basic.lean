import Conformance.Runner.WorkerManager

/-!
# Runners

A runner owns the connections, the clients and the worker of one run. There are two connections,
one through the proxy and one past it; the feature chooses which of them its worker and its
initiating calls use.

## Main definitions

- `Runner` — what a run owns
- `Runner.launch` — connects and starts the worker
- `Runner.perform` — performs one operation of a script
- `Runner.close` — releases everything
-/

namespace Conformance

/-- What a run owns. -/
structure Runner where
  config : Config
  dir : String
  methods : List WorkflowMethod
  feature : Feature
  service : ConnectionId
  directService : ConnectionId
  client : Client
  directClient : Client
  manager : WorkerManager := {}
  proxy : ProxyController

namespace Runner

/-- How long workflows may take unless the feature says otherwise. -/
def defaultExecutionTimeout : Duration := Duration.ofSeconds 60

/-! ## Endpoints -/

/-- The client of the worker. -/
def workerClient (r : Runner) : Client :=
  if r.feature.workerUsesProxy then r.client else r.directClient

/-- The client of initiating calls. -/
def initiatorClient (r : Runner) : Client :=
  if r.feature.initiatorUsesProxy then r.client else r.directClient

/-- The connection of initiating calls. -/
def initiatorService (r : Runner) : ConnectionId :=
  if r.feature.initiatorUsesProxy then r.service else r.directService

/-- How workflows are started unless other options are given. -/
def workflowOptions (r : Runner) : WorkflowOptions :=
  r.feature.workflowOptions
    { taskQueue := r.config.taskQueue, executionTimeout := some defaultExecutionTimeout }

/-- Where the histories of the feature are kept. -/
def fixtures (r : Runner) (w : World) : FixtureStore :=
  FixtureStore.forFeature r.config.fixturesDir r.dir w.sdk.name

/-- A client as it is seen from outside. -/
def clientView (w : World) (c : Client) : ClientView := ⟨c.ns, w.server.targetOf c.connection⟩

/-- What a feature can see. -/
def view (r : Runner) (w : World) : RunnerView where
  config := r.config
  methods := r.methods
  options := r.workflowOptions
  sdkName := w.sdk.name
  sdkVersion := w.sdk.version
  fixtures := r.fixtures w
  workerClient := clientView w r.workerClient
  initiatorClient := clientView w r.initiatorClient
  initiatorService := w.server.targetOf r.initiatorService
  workerQueue := r.manager.worker?.map w.server.queueOf
  starts := r.manager.starts
  hasProxy := r.proxy.isAvailable

/-! ## Operations -/

/-- Puts a new worker in the place of the current one. -/
def restartWorker (r : Runner) : Program (Except Error Unit × Runner) := do
  let (result, manager) ← r.manager.restart r.workerClient r.feature r.config.taskQueue
  return (result, { r with manager })

/-- Consults or changes the current worker. -/
def onWorker (r : Runner) (action : WorkerId → World → Except Error Unit × World) :
    Program (Except Error Unit) :=
  match r.manager.worker with
  | .error e => return .error e
  | .ok id => Program.lift (action id)

/-- Stores histories under the current version. -/
def storeHistories (r : Runner) (histories : List History) (w : World) :
    Except Error String × World :=
  let (result, files) := (r.fixtures w).store w.files w.sdk.version.text histories
  (result, { w with files })

/-- Performs one operation. Only restarting the worker changes the runner. -/
def perform (r : Runner) : (op : RunnerOp) → Program (Except Error op.Reply × Runner)
  | .view => return (.ok (← Program.look r.view), r)
  | .startWorkflow t options args =>
    return (← Program.lift (World.startWorkflow r.initiatorClient t options args), r)
  | .result e => return (← Program.result e, r)
  | .history e => return (← Program.lift (World.fetchHistory r.initiatorService r.config.ns e), r)
  | .describe e => return (← Program.lift (World.describe r.initiatorService r.config.ns e), r)
  | .update id name => return (.ok (← Program.lift (World.update r.initiatorClient id name)), r)
  | .startUpdate id name =>
    return (.ok (← Program.lift (World.startUpdate r.initiatorClient id name)), r)
  | .restartWorker => r.restartWorker
  | .shutdownWorker => return (← r.manager.shutdown, r)
  | .consultWorker check =>
    return (← r.onWorker fun id w => (w.withWorker id check, w), r)
  | .registerWorkflow f =>
    return (← r.onWorker fun id => World.updateWorker id fun worker => worker.register f, r)
  | .loadPast =>
    return (← Program.look fun w => (r.fixtures w).loadUpTo w.files w.sdk.version, r)
  | .storeHistories histories => return (← Program.lift (r.storeHistories histories), r)
  | .send command => return (← (Program.proxy r.proxy).send command, r)
  | .sendLater delay command => return (.ok (← (Program.proxy r.proxy).later delay command), r)
  | .join ticket => return (.ok (← (Program.proxy r.proxy).join ticket), r)
  | .openLatch latch => do
    Program.change fun w => w.openLatch latch
    return (.ok (), r)
  | .awaitLatch latch limit =>
    return (.ok (← Program.waitFor (fun w => w.signals.isOpen latch) limit), r)
  | .increment counter => do
    Program.change fun w => { w with signals := w.signals.increment counter }
    return (.ok (), r)
  | .sleep d => do
    Program.sleep d
    return (.ok (), r)
  | .settle => do
    Program.settle
    return (.ok (), r)
  | .closeService => return (← Program.lift (World.closeService r.initiatorService), r)
  | .setStatus status => do
    Program.change fun w => { w with network := { w.network with status } }
    return (.ok (), r)
  | .requests => return (.ok (← Program.look fun w => w.network.requests), r)

/-- Performs the operations of a script. -/
def exec {α : Type} : Script α → Runner → Program (Except Error α × Runner)
  | .done result, r => .done (result, r)
  | .call op next, r => Program.bind (r.perform op) fun (reply, r) => exec (next reply) r

/-! ## Opening and closing -/

/-- An error while connecting, which always names the target. -/
def connectionError (target : String) : Error → Error
  | .connection t reason => .connection t reason
  | e => .connection target e.message

/-- Opens a connection. -/
def connectTo (target : String) : Program (Except Error ConnectionId) := do
  match ← Program.lift (World.connect target) with
  | .ok id => return .ok id
  | .error e => return .error (connectionError target e)

/-- Shuts connections down one after another, whatever the result. -/
def releaseAll : List ConnectionId → Program Unit
  | [] => return ()
  | id :: rest => do
    let _ ← Program.lift (World.closeService id)
    releaseAll rest

/-- Makes the clients and starts the worker on two open connections. -/
def assemble (config : Config) (prepared : PreparedFeature) (feature : Feature)
    (service directService : ConnectionId) : Program (Except Error Runner) := do
  let ns := feature.clientNamespace config.ns
  match ← Program.lift (World.newClient service ns) with
  | .error e => return .error e
  | .ok client =>
    match ← Program.lift (World.newClient directService ns) with
    | .error e => return .error e
    | .ok directClient =>
      let runner : Runner :=
        { config, feature, service, directService, client, directClient
          dir := prepared.dir
          methods := prepared.methods
          proxy := ⟨config.proxyControl⟩ }
      match ← runner.restartWorker with
      | (.error e, _) => return .error e
      | (.ok (), runner) => return .ok runner

/-- Opens both connections and all that is built on them. If a step fails, everything opened
before it is released, and the error is that of the step. -/
def openConnections (config : Config) (prepared : PreparedFeature) (feature : Feature) :
    Program (Except Error Runner) := do
  match ← connectTo (feature.serviceTarget config.server) with
  | .error e => return .error e
  | .ok service =>
    match ← connectTo config.direct with
    | .error e =>
      releaseAll [service]
      return .error e
    | .ok directService =>
      match ← assemble config prepared feature service directService with
      | .error e =>
        releaseAll [directService, service]
        return .error e
      | .ok runner => return .ok runner

/-- Makes a new instance of a feature. -/
def newInstance (prepared : PreparedFeature) : Program Feature :=
  Program.lift fun w => (prepared.instanceAt (w.instances + 1), { w with instances := w.instances + 1 })

/-- Checks the settings, makes an instance of the feature and opens a runner for it, unless the
feature wants to be skipped. -/
def launch (config : Config) (prepared : PreparedFeature) : Program (Except Error Runner) := do
  match config.validate with
  | .error e => return .error e
  | .ok () =>
    let feature ← newInstance prepared
    match feature.skipReason with
    | some reason => return .error (.skipped reason)
    | none => openConnections config prepared feature

/-- The first error of several results. -/
def firstError : List (Except Error Unit) → Except Error Unit
  | [] => .ok ()
  | .ok () :: rest => firstError rest
  | .error e :: _ => .error e

/-- Releases the worker, the direct connection and the proxied one. All are attempted; the first
error is reported. -/
def close (r : Runner) : Program (Except Error Unit) := do
  let worker ← r.manager.shutdown
  let direct ← Program.lift (World.closeService r.directService)
  let proxied ← Program.lift (World.closeService r.service)
  return firstError [worker, direct, proxied]

end Runner

end Conformance
