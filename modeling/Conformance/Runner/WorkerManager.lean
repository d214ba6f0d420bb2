import Conformance.Calls
import Conformance.Feature.Basic

/-!
# The current worker of a run

A run has one worker at a time, built from the hooks of its feature. It can be stopped, and a new
one can take its place.

## Main definitions

- `WorkerManager` — the current factory, its worker, and the number of successful starts
- `WorkerManager.restart` — builds and starts a new worker
- `WorkerManager.shutdown` — stops the current worker
-/

namespace Conformance

/-- The current factory, the current worker, and how often a worker has been started. -/
structure WorkerManager where
  factory? : Option FactoryId := none
  worker? : Option WorkerId := none
  starts : Nat := 0
  deriving DecidableEq, Repr, Inhabited

namespace WorkerManager

/-- Makes a factory and a worker, registers on it what the feature needs, and starts it. -/
def build (client : Client) (feature : Feature) (queue : String) :
    ExceptT Error Program (FactoryId × WorkerId) := do
  let factory ← Program.lift (World.newFactory client)
  let worker ← Program.lift (World.newWorker factory queue)
  Program.lift (World.updateWorker worker feature.prepare)
  Program.lift (World.startFactory factory)
  return (factory, worker)

/-- A factory and a worker that have been started take the place of the current ones. -/
def replaceWith (m : WorkerManager) (factory : FactoryId) (worker : WorkerId) : WorkerManager where
  factory? := some factory
  worker? := some worker
  starts := m.starts + 1

/-- Puts a new worker in the place of the current one, or changes nothing if that fails. The old
worker is not stopped. -/
def restart (m : WorkerManager) (client : Client) (feature : Feature) (queue : String) :
    Program (Except Error Unit × WorkerManager) := do
  match ← (build client feature queue).run with
  | .ok (factory, worker) => return (.ok (), m.replaceWith factory worker)
  | .error e => return (.error e, m)

/-- Stops the current worker, if there is one. -/
def shutdown (m : WorkerManager) : Program (Except Error Unit) :=
  match m.factory? with
  | some factory => Program.lift (World.shutdownFactory factory)
  | none => return .ok ()

/-- The current worker. -/
def worker (m : WorkerManager) : Except Error WorkerId :=
  match m.worker? with
  | some worker => .ok worker
  | none => .error (.internal "worker has not been started")

end WorkerManager

end Conformance
