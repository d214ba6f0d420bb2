import Conformance.Error
import Conformance.Json.Basic
import Conformance.Table

/-!
# The SDK under test

What is known about the SDK, and how its calls may go wrong.

## Main definitions

- `Sdk` — name, version, faults, and scripted answers to updates
- `Sdk.enter` — counts a call and tells the fault that replaces it
-/

namespace Conformance

/-- The calls that a fault can replace. -/
inductive SdkPoint where
  | connect
  | newClient
  | newWorkerFactory
  | newWorker
  | start
  deriving DecidableEq, Repr, Inhabited

/-- The name of a call. -/
def SdkPoint.text : SdkPoint → String
  | connect => "connect"
  | newClient => "new_client"
  | newWorkerFactory => "new_worker_factory"
  | newWorker => "new_worker"
  | start => "start"

/-- The call with a given name. -/
def SdkPoint.ofText? (name : String) : Option SdkPoint :=
  [connect, newClient, newWorkerFactory, newWorker, start].find? fun p => p.text = name

/-- A fault: the call of this number returns the error instead of being made. Without an error
it does nothing and succeeds. -/
structure Fault where
  point : SdkPoint
  nth : Nat := 1
  error : Option Error
  deriving DecidableEq, Repr, Inhabited

/-- The SDK under test. Scripted answers are given to updates one after another; where there is
none, the update goes to the server. -/
structure Sdk where
  name : String := "rust"
  version : Version := ⟨0, 1, 0, false⟩
  faults : List Fault := []
  counts : Table SdkPoint Nat := Table.empty
  updates : List (Option (Except RpcError Json)) := []
  deriving Inhabited

namespace Sdk

/-- Counts a call and tells the fault that replaces it. -/
def enter (s : Sdk) (point : SdkPoint) : Option Fault × Sdk :=
  let n := (s.counts.get? point).getD 0 + 1
  (s.faults.find? fun f => f.point = point ∧ f.nth = n,
    { s with counts := s.counts.insert point n })

/-- The next scripted answer to an update. -/
def nextUpdate (s : Sdk) : Option (Except RpcError Json) × Sdk :=
  match s.updates with
  | [] => (none, s)
  | u :: rest => (u, { s with updates := rest })

end Sdk

end Conformance
