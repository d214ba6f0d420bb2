import Conformance.Outcome
import Conformance.Runner.Basic

/-!
# Running a feature

The phases of a run: open, execute, check the result, check the history, close. Each phase runs
only if those before it succeeded; closing always follows opening.

## Main definitions

- `Feature.script` — the phases between opening and closing
- `runFeature` — a whole run and its outcome
-/

namespace Conformance

/-- The phases between opening and closing. A script that returns no run has checked itself. -/
def Feature.script (f : Feature) : Script Unit := do
  match ← f.execute with
  | none => return ()
  | some run =>
    f.checkResult run
    f.checkHistory run

namespace Runner

/-- Executes the feature and checks it. -/
def run (r : Runner) : Program (Except Error Unit × Runner) := exec r.feature.script r

end Runner

/-- The result of a run with a release after it: an error of the run comes first. -/
def closing (ran closed : Except Error Unit) : Except Error Unit :=
  match ran with
  | .ok () => closed
  | .error e => .error e

/-- Runs a feature to its end, releases what it has opened, and tells the result. -/
def runResult (config : Config) (prepared : PreparedFeature) : Program (Except Error Unit) := do
  match ← Runner.launch config prepared with
  | .error e => return .error e
  | .ok runner =>
    let (ran, runner) ← runner.run
    let closed ← runner.close
    return closing ran closed

/-- Runs a feature and tells its outcome. -/
def runFeature (config : Config) (prepared : PreparedFeature) : Program Outcome := do
  return Outcome.ofResult (← runResult config prepared)

end Conformance
