import Conformance.Workflow.Failure
import Conformance.Workflow.Method

/-!
# Workflow and activity code

The code of a workflow is a tree of its steps: it calls one activity after another and goes on
with what it gets back. Activities run outside of the history; they may wait for latches, open
them, sleep and read counters.

## Main definitions

- `Code` — what a workflow does next
- `ActivityCode` — what a running activity does next
- `Workflow`, `Activities` — what a worker can run
-/

namespace Conformance

/-- The identity of a latch or a counter. Scope 0 is shared by everything; each feature instance
has a scope of its own. -/
structure SignalId where
  scope : Nat
  name : String
  deriving DecidableEq, Repr, Inhabited

/-- What workflow code and activities end with. -/
abbrev Ending := Except WorkflowFailure Json

/-- What a workflow does next. -/
inductive Code where
  | done (ending : Ending)
  | callActivity (activityType : String) (args : List Json) (next : Ending → Code)
  | awaitLatch (latch : SignalId) (next : Code)
  | sleep (ms : Nat) (next : Code)

instance : Inhabited Code := ⟨.done (.ok .null)⟩

/-- What a running activity does next. -/
inductive ActivityCode where
  | done (ending : Ending)
  | openLatch (latch : SignalId) (next : ActivityCode)
  | awaitLatch (latch : SignalId) (next : ActivityCode)
  | sleep (ms : Nat) (next : ActivityCode)
  | readCounter (counter : SignalId) (next : Nat → ActivityCode)

instance : Inhabited ActivityCode := ⟨.done (.ok .null)⟩

/-- A workflow: how it is called, and its code for given arguments. The flag says whether a
recorded history is replayed. -/
structure Workflow where
  method : WorkflowMethod
  code : (replaying : Bool) → List Json → Code

instance : Inhabited Workflow := ⟨⟨default, fun _ _ => default⟩⟩

/-- The activities that a feature implements: the types it declares, and the code of one
invocation for given arguments. Invocations are numbered from 1. -/
structure Activities where
  types : List String
  invoke : (activityType : String) → (args : List Json) → (ordinal : Nat) → ActivityCode

end Conformance
