import Conformance.Features.BasicActivity
import Conformance.Features.NonDurableReject
import Conformance.Features.ServerUnavailable
import Conformance.Features.WorkerRestart

/-!
# The registry of features

Every feature is known by its directory.

## Main definitions

- `Features.all` — the features, in order
- `Features.find?` — the feature of a directory
-/

namespace Conformance.Features

/-- Every feature. -/
def all : List PreparedFeature :=
  [⟨BasicActivity.dir, BasicActivity.feature⟩,
    ⟨WorkerRestart.dir, WorkerRestart.feature⟩,
    ⟨ServerUnavailable.dir, ServerUnavailable.feature⟩,
    ⟨NonDurableReject.dir, NonDurableReject.feature⟩]

/-- The feature of a directory. -/
def find? (dir : String) : Option PreparedFeature := all.find? fun f => f.dir = dir

end Conformance.Features
