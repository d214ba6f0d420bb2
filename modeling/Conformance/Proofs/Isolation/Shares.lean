import Conformance.Proofs.Isolation.Renaming
import Conformance.Proofs.Server.Holdings

/-!
# The share of a side

At any time a part of a server belongs to each side: the records of its workflow ids, what polls and waits
on its task queues, its workers and its tasks. One side leaves the shares of the others as they are, and
what it finds in its own does not depend on them.

## Main definitions

- `Server.Share` — what belongs to a side
- `Server.Share.Holds` — the share is closed: what it refers to belongs to it
- `Server.Share.Moves` — nothing has changed outside the share
- `Server.Share.Mirrors` — two servers have the same share up to numbers

## Main statements

- `Server.Share.Mirrors.other`, `Server.Share.Holds.other` — what another side does cannot be seen
-/

namespace Conformance.Server

/-- What belongs to a side: its task queues, its workflow ids, and the numbers of its runs. -/
structure Share extends Domain where
  runs : Nat → Prop

namespace Share

variable {E F : Share} {ν : Renaming} {s s' s₁ s₂ s₁' : Server}

/-- The worker polls for the side. -/
def Employs (E : Share) (s : Server) (w : WorkerId) : Prop :=
  ∃ x, s.worker? w = some x ∧ E.queues x.taskQueue

/-- The subscription is to a run of the side. -/
def Awaits (E : Share) (sub : Subscription) : Prop :=
  E.ids sub.found.workflowId ∧ ∃ n, E.runs n ∧ sub.found.runId = runIdOf n

/-- What the share refers to belongs to it as well. -/
structure Holds (E : Share) (s : Server) : Prop where
  records : ∀ id r, E.ids id → s.executions.get? id = some r →
    ∃ n, E.runs n ∧ r.execution = ⟨id, runIdOf n⟩
  pollers : ∀ queue w, E.queues queue → s.pollers.get? queue = some w → E.Employs s w
  waiting : ∀ queue, E.queues queue → ∀ id ∈ s.waiting queue, E.ids id
  tasks : ∀ t ∈ s.tasks, E.ids t.workflowId → E.Employs s t.worker

/-- Nothing has changed outside the share, which still holds. -/
structure Moves (E : Share) (s s' : Server) : Prop where
  support : s'.updateSupport = s.updateSupport
  failing : s'.failingShutdown = s.failingShutdown
  executions : ∀ id, ¬ E.ids id → s'.executions.get? id = s.executions.get? id
  completions : ∀ n, ¬ E.runs n → s'.completions.get? (runIdOf n) = s.completions.get? (runIdOf n)
  pollers : ∀ queue, ¬ E.queues queue → s'.pollers.get? queue = s.pollers.get? queue
  pending : ∀ queue, ¬ E.queues queue → s'.pending.get? queue = s.pending.get? queue
  workers : ∀ w x, ¬ E.queues x.taskQueue → (s'.worker? w = some x ↔ s.worker? w = some x)
  tasks : ∀ t, ¬ E.ids t.workflowId → (t ∈ s'.tasks ↔ t ∈ s.tasks)
  /-- workers stay on their task queues -/
  queues : ∀ w x, s.worker? w = some x → ∃ x', s'.worker? w = some x' ∧ x'.taskQueue = x.taskQueue
  holds : E.Holds s'

/-- Both servers have the same share, up to the numbers in `ν`. -/
structure Mirrors (E : Share) (ν : Renaming) (s s' : Server) : Prop where
  support : s'.updateSupport = s.updateSupport
  failing : s'.failingShutdown = s.failingShutdown
  executions : ∀ id, E.ids id → s'.executions.get? id = (s.executions.get? id).map ν.record
  completions : ∀ n, E.runs n →
    s'.completions.get? (runIdOf (ν.runs n)) = s.completions.get? (runIdOf n)
  pollers : ∀ queue, E.queues queue →
    s'.pollers.get? queue = (s.pollers.get? queue).map ν.workers
  pending : ∀ queue, E.queues queue → s'.pending.get? queue = s.pending.get? queue
  workers : ∀ w x, s.worker? w = some x → E.queues x.taskQueue →
    s'.worker? (ν.workers w) = some x
  tasks : ∀ t, E.ids t.workflowId → (t ∈ s.tasks ↔ ν.task t ∈ s'.tasks)

/-- The shares of two sides have nothing in common. -/
structure Apart (E F : Share) : Prop extends E.toDomain.Apart F.toDomain where
  runs : ∀ n, E.runs n → ¬ F.runs n

/-! ## What another side does -/

theorem Apart.symm (h : E.Apart F) : F.Apart E where
  queues queue hF hE := h.queues queue hE hF
  ids id hF hE := h.ids id hE hF
  runs n hF hE := h.runs n hE hF

theorem Moves.employs (h : E.Moves s s') {w : WorkerId} (hw : F.Employs s w) : F.Employs s' w := by
  obtain ⟨x, hx, hqueue⟩ := hw
  obtain ⟨x', hx', hsame⟩ := h.queues w x hx
  exact ⟨x', hx', hsame ▸ hqueue⟩

theorem Moves.waiting (h : E.Moves s s') {queue : String} (hqueue : ¬ E.queues queue) :
    s'.waiting queue = s.waiting queue := by
  rw [Server.waiting, h.pending queue hqueue]
  rfl

/-- A share holds whatever another side does. -/
theorem Holds.other (h : F.Holds s) (hmoves : E.Moves s s') (hapart : F.Apart E) : F.Holds s' where
  records id r hid hr := h.records id r hid (hmoves.executions id (hapart.ids id hid) ▸ hr)
  pollers queue w hqueue hw := by
    rw [hmoves.pollers queue (hapart.queues queue hqueue)] at hw
    exact hmoves.employs (h.pollers queue w hqueue hw)
  waiting queue hqueue := by
    rw [hmoves.waiting (hapart.queues queue hqueue)]
    exact h.waiting queue hqueue
  tasks t ht hid :=
    hmoves.employs (h.tasks t ((hmoves.tasks t (hapart.ids _ hid)).mp ht) hid)

/-- What another side does cannot be seen. -/
theorem Mirrors.other (h : F.Mirrors ν s s') (hmoves : E.Moves s s₁) (hapart : F.Apart E) :
    F.Mirrors ν s₁ s' where
  support := h.support.trans hmoves.support.symm
  failing := h.failing.trans hmoves.failing.symm
  executions id hid := by rw [hmoves.executions id (hapart.ids id hid), h.executions id hid]
  completions n hn := by rw [hmoves.completions n (hapart.runs n hn), h.completions n hn]
  pollers queue hqueue := by
    rw [hmoves.pollers queue (hapart.queues queue hqueue), h.pollers queue hqueue]
  pending queue hqueue := by
    rw [hmoves.pending queue (hapart.queues queue hqueue), h.pending queue hqueue]
  workers w x hx hqueue :=
    h.workers w x ((hmoves.workers w x (hapart.queues _ hqueue)).mp hx) hqueue
  tasks t hid := (hmoves.tasks t (hapart.ids _ hid)).trans (h.tasks t hid)

theorem Moves.refl (h : E.Holds s) : E.Moves s s where
  support := rfl
  failing := rfl
  executions _ _ := rfl
  completions _ _ := rfl
  pollers _ _ := rfl
  pending _ _ := rfl
  workers _ _ _ := .rfl
  tasks _ _ := .rfl
  queues _ x hx := ⟨x, hx, rfl⟩
  holds := h

theorem Moves.trans (h : E.Moves s s₁) (h' : E.Moves s₁ s₂) : E.Moves s s₂ where
  support := h'.support.trans h.support
  failing := h'.failing.trans h.failing
  executions id hid := (h'.executions id hid).trans (h.executions id hid)
  completions n hn := (h'.completions n hn).trans (h.completions n hn)
  pollers queue hqueue := (h'.pollers queue hqueue).trans (h.pollers queue hqueue)
  pending queue hqueue := (h'.pending queue hqueue).trans (h.pending queue hqueue)
  workers w x hx := (h'.workers w x hx).trans (h.workers w x hx)
  tasks t ht := (h'.tasks t ht).trans (h.tasks t ht)
  queues w x hx := by
    obtain ⟨x₁, hx₁, hsame⟩ := h.queues w x hx
    obtain ⟨x₂, hx₂, hsame'⟩ := h'.queues w x₁ hx₁
    exact ⟨x₂, hx₂, hsame'.trans hsame⟩
  holds := h'.holds

end Share

end Conformance.Server
