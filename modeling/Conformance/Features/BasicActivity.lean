import Conformance.Feature.Basic

/-!
# An activity without a workflow timeout

The workflow calls one activity and ignores what it returns. The feature clears the execution
timeout.
-/

namespace Conformance.Features.BasicActivity

/-- The directory of the feature. -/
def dir : String := "activity/basic_no_workflow_timeout"

/-- Calls the activity and returns nothing. -/
def workflow : Workflow where
  method := { name := "ActivityBasicNoWorkflowTimeout", returns := .null }
  code _ _ := .callActivity "echo" [] fun
    | .ok _ => .done (.ok .null)
    | .error failure => .done (.error failure)

/-- The one activity returns a greeting. -/
def activities : Activities where
  types := ["echo"]
  invoke activityType _ _ :=
    if activityType = "echo" then .done (.ok (.str "hi"))
    else .done (.error (.application ("unknown activity " ++ activityType)))

/-- The feature. -/
def feature (_scope : Nat) : Feature where
  workflows := [workflow]
  activities := some activities
  workflowOptions options := { options with executionTimeout := none }
  expectedResult := some .null

end Conformance.Features.BasicActivity
