/-!
# Failures of workflow code
-/

namespace Conformance

/-- Why a workflow or an activity failed. -/
inductive WorkflowFailure where
  | activity (activityType message : String)
  | application (message : String)
  | nondeterminism (message : String)
  deriving DecidableEq, Repr, Inhabited

/-- The text under which a failure is recorded and reported. -/
def WorkflowFailure.text : WorkflowFailure → String
  | .activity t m => "activity " ++ t ++ " failed: " ++ m
  | .application m => "application error: " ++ m
  | .nondeterminism m => "nondeterminism: " ++ m

end Conformance
