import Conformance.Error
import Conformance.History.Replay

/-!
# Workers

A worker runs the workflows and activities that are registered on it, for one task queue, and
replays histories.

## Main definitions

- `Worker` — a task queue with what is registered for it
- `Worker.register`, `Worker.setActivities` — registration
- `Worker.replay` — checks a history against the registered code
-/

namespace Conformance

/-- A worker of one task queue. Invocations of its activities are counted. -/
structure Worker where
  taskQueue : String
  workflows : List Workflow := []
  activities : Option Activities := none
  invocations : Nat := 0
  deriving Inhabited

namespace Worker

/-- The workflow that is registered under a name. -/
def workflow? (w : Worker) (name : String) : Option Workflow :=
  w.workflows.find? fun f => f.method.name = name

/-- Registers a workflow. A name can be used once. -/
def register (w : Worker) (f : Workflow) : Except Error Worker :=
  match w.workflow? f.method.name with
  | some _ => .error (.config ("workflow type " ++ f.method.name
      ++ " is already registered on task queue " ++ w.taskQueue))
  | none => .ok { w with workflows := w.workflows ++ [f] }

/-- Registers workflows one after another, up to the first that is refused. -/
def registerAll (w : Worker) : List Workflow → Except Error Worker
  | [] => .ok w
  | f :: rest =>
    match w.register f with
    | .ok w => registerAll w rest
    | .error e => .error e

/-- Registers activities in place of earlier ones. -/
def setActivities (w : Worker) (a : Activities) : Worker :=
  { w with activities := some a, invocations := 0 }

/-- Checks a history against the registered code. -/
def replay (w : Worker) (h : History) : Except Error Unit :=
  match h.workflowType? with
  | none => .error (.workflow "history has no started event")
  | some name =>
    match w.workflow? name with
    | none => .error (.workflow ("workflow type " ++ name ++ " is not registered"))
    | some f =>
      match f.replay h with
      | .ok () => .ok ()
      | .error failure => .error (.workflow failure.text)

/-- A registered workflow is found under its name, and all others stay where they were. -/
theorem workflow?_of_register {w w' : Worker} {f : Workflow} (h : w.register f = .ok w')
    (name : String) :
    w'.workflow? name = if f.method.name = name then some f else w.workflow? name := by
  unfold register at h
  split at h
  · cases h
  · rename_i hnone
    cases h
    unfold workflow? at hnone ⊢
    rw [List.find?_append]
    by_cases hn : f.method.name = name
    · subst hn
      simp [hnone]
    · simp [hn]

end Worker

end Conformance
