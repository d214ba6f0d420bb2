import Conformance.History.Fixtures
import Conformance.World

/-!
# Reports

What scenarios answer, as JSON: results with their errors, and the state of a server.

## Main definitions

- `Error.kind` — the name of a cause
- `Report.ofResult`, `Report.ofRpc`, `Report.ofEnding` — results
- `Report.ofServer` — what a server has seen
-/

namespace Conformance

/-- The name of the cause of an error. -/
def Error.kind : Error → String
  | .skipped _ => "Skipped"
  | .proxyUnavailable => "ProxyUnavailable"
  | .connection .. => "Connection"
  | .config _ => "Config"
  | .featureNotFound _ => "FeatureNotFound"
  | .featuresFailed _ => "FeaturesFailed"
  | .assertion _ => "Assertion"
  | .workflow _ => "Workflow"
  | .rpc _ => "Rpc"
  | .replay .. => "Replay"
  | .proxyCommandFailed .. => "ProxyCommandFailed"
  | .http _ => "Http"
  | .invalidVersion _ => "InvalidVersion"
  | .invalidFixture .. => "InvalidFixture"
  | .io _ => "Io"
  | .json _ => "Json"
  | .internal _ => "Internal"

/-- The fields of a report. -/
abbrev Report := List (String × Json)

namespace Report

/-! ## Results -/

/-- The report of a value. -/
def ofValue (v : Json) : Report := [("ok", v)]

/-- The report of something that went wrong. -/
def ofFailure (kind message : String) : Report :=
  [("error", .str kind), ("message", .str message)]

/-- The report of a result. -/
def ofResult : Except Error Json → Report
  | .ok v => ofValue v
  | .error e => ofFailure e.kind e.message

/-- The report of a result without a value. -/
def ofUnit (r : Except Error Unit) : Report := ofResult (r.map fun _ => .null)

/-- The report of the answer to an update. -/
def ofRpc : Except RpcError Json → Report
  | .ok v => ofValue v
  | .error e => ofFailure "RpcError" e.text

/-- The report of the end of an activity. -/
def ofEnding : Ending → Report
  | .ok v => ofValue v
  | .error f => ofFailure "WorkflowFailure" f.text

/-- A report as a value. -/
def json (r : Report) : Json := .obj r

/-! ## Values -/

/-- A text that may be missing. -/
def ofText? : Option String → Json
  | some s => .str s
  | none => .null

/-- A list of texts. -/
def ofTexts (xs : List String) : Json := .arr (xs.map .str)

/-- A pair. -/
def ofPair (a b : Json) : Json := .arr [a, b]

/-- The milliseconds of a span of time that may be missing. -/
def ofDuration? : Option Duration → Json
  | some d => .int d.millis
  | none => .null

/-- Several histories. -/
def ofHistories (hs : List History) : Json := .arr (hs.map History.encode)

/-- Stored histories, with the names of their versions. Those of one version are put in the order
of their texts with sorted keys. -/
def ofPast (name : Version → Json) (past : PastHistories) : Json :=
  let ordered (hs : List History) : List History :=
    hs.mergeSort fun a b => a.encode.canonical.compact ≤ b.encode.canonical.compact
  .arr (past.map fun p => ofPair (name p.1) (ofHistories (ordered p.2)))

/-! ## State -/

/-- What a server has seen; its calls may be given in another form. -/
def ofServerWith (s : Server) (calls : Json) : Json :=
  .obj [("open_connections", .int s.openConnections),
    ("connections", .arr (s.connections.map fun c => ofPair (.str c.target) (.bool c.isOpen))),
    ("calls", calls),
    ("polling", ofTexts s.pollingQueues),
    ("executions", .int s.executions.size)]

/-- What a server has seen. -/
def ofServer (s : Server) : Json :=
  ofServerWith s (.arr (s.calls.map fun c => ofPair (.str c.target) (.str c.operation.text)))

/-- The counters, in the order in which they were raised. -/
def ofMetrics (w : World) : Json := .arr (w.metrics.map fun m => ofPair (.str m.1) (.int m.2))

/-- The paths of the requests that a control endpoint received. -/
def ofPaths (requests : List ControlRequest) : Json := ofTexts (requests.map (·.path))

end Report

end Conformance
