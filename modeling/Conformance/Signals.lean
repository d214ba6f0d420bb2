import Conformance.Table
import Conformance.Workflow.Code

/-!
# Latches and counters

The signals by which the script of a feature and its activities wait for each other. A latch is
closed until it is opened, and then stays open.

## Main definitions

- `Latch` — one latch with those who wait for it
- `Signals` — the open latches and the values of the counters
- `ActivityCode.alone` — an activity that runs while nothing else does
-/

namespace Conformance

/-- A latch: whether it is open, and how many have come to wait and have been let through. -/
structure Latch where
  isOpen : Bool := false
  arrived : Nat := 0
  passed : Nat := 0
  deriving DecidableEq, Repr, Inhabited

namespace Latch

/-- Opens a latch and lets everybody through. -/
def release (l : Latch) : Latch := { l with isOpen := true, passed := l.arrived }

/-- Somebody comes to wait. An open latch lets them through at once. -/
def arrive (l : Latch) : Latch :=
  { l with arrived := l.arrived + 1, passed := if l.isOpen then l.passed + 1 else l.passed }

end Latch

/-- The open latches and the values of the counters. -/
structure Signals where
  opened : List SignalId := []
  counters : Table SignalId Nat := Table.empty
  deriving Inhabited

namespace Signals

/-- Whether a latch is open. -/
def isOpen (s : Signals) (latch : SignalId) : Bool := s.opened.contains latch

/-- Opens a latch. -/
def openLatch (s : Signals) (latch : SignalId) : Signals :=
  if s.isOpen latch then s else { s with opened := latch :: s.opened }

/-- The value of a counter, which starts at zero. -/
def count (s : Signals) (counter : SignalId) : Nat := (s.counters.get? counter).getD 0

/-- Adds one to a counter. -/
def increment (s : Signals) (counter : SignalId) : Signals :=
  { s with counters := s.counters.insert counter (s.count counter + 1) }

/-- Opening a latch opens no other, and closes none. -/
theorem isOpen_openLatch (s : Signals) (latch l : SignalId) :
    (s.openLatch latch).isOpen l = (s.isOpen l || l == latch) := by
  unfold openLatch
  split
  · rename_i h
    by_cases hl : l = latch
    · subst hl
      simp [h]
    · simp [hl]
  · simp [isOpen, Bool.or_comm, BEq.beq]

end Signals

/-- What an activity ends with if nobody else opens latches, unless it waits for ever. -/
def ActivityCode.alone : ActivityCode → Signals → Option Ending
  | .done ending, _ => some ending
  | .openLatch latch next, s => alone next (s.openLatch latch)
  | .awaitLatch latch next, s => if s.isOpen latch then alone next s else none
  | .sleep _ next, s => alone next s
  | .readCounter counter next, s => alone (next (s.count counter)) s

end Conformance
