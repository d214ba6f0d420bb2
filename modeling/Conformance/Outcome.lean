import Conformance.Error

/-!
# Outcomes

What is reported for a feature after its run.
-/

namespace Conformance

/-- The outcome of one feature. -/
inductive Outcome where
  | passed
  | failed (message : String)
  | skipped (reason : String)
  deriving DecidableEq, Repr, Inhabited

namespace Outcome

/-- The outcome of a run: skips are told apart from failures here. -/
def ofResult : Except Error Unit → Outcome
  | .ok () => passed
  | .error e => if e.isSkip then skipped e.message else failed e.message

/-- Whether the feature failed. -/
def isFailed : Outcome → Bool
  | failed _ => true
  | _ => false

/-- The text that goes with an outcome, empty for a pass. -/
def message : Outcome → String
  | passed => ""
  | failed m => m
  | skipped m => m

/-- The name of an outcome. -/
def text : Outcome → String
  | passed => "PASSED"
  | failed _ => "FAILED"
  | skipped _ => "SKIPPED"

end Outcome

end Conformance
