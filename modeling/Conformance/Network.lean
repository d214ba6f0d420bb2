import Conformance.Files.Tree
import Conformance.Url.Basic

/-!
# The network

How the world outside answers: the control endpoint of the proxy, and listeners for summaries.
Both may be out of reach, and both may fail at any time.

## Main definitions

- `Network` — the behaviour of both, and what they have received
- `Network.post` — a request to a control endpoint
- `Network.connect`, `Network.send`, `Network.close` — a stream to a listener
-/

namespace Conformance

/-- A request that a control endpoint received. -/
structure ControlRequest where
  path : String
  query : String
  deriving DecidableEq, Repr, Inhabited

/-- The world outside. The control endpoint answers an attempt depending on its number and on
the status that is set; without an answer the request fails. -/
structure Network where
  respond : (attempt status : Nat) → Option Nat := fun _ _ => none
  status : Nat := 200
  attempts : Nat := 0
  requests : List ControlRequest := []
  refusal : String → Option FileError := fun _ => some .unreachable
  writeFault : Nat → Option FileError := fun _ => none
  closeFault : Option FileError := none
  writes : Nat := 0
  received : List UInt8 := []

instance : Inhabited Network := ⟨{}⟩

namespace Network

/-- The statuses that a response can have; a stand-in endpoint falls back to 500. -/
def standInStatus (status : Nat) : Nat :=
  if 100 ≤ status ∧ status ≤ 999 then status else 500

/-- A network in which the control endpoint answers with the status that is set. -/
def withStandIn : Network := { respond := fun _ status => some (standInStatus status) }

/-- Sends a request to a control endpoint, which notes it if it answers. -/
def post (n : Network) (url : Url) : Option Nat × Network :=
  let attempt := n.attempts + 1
  match n.respond attempt n.status with
  | none => (none, { n with attempts := attempt })
  | some status =>
    let request : ControlRequest := ⟨url.path.text, url.query.getD ""⟩
    (some status, { n with attempts := attempt, requests := n.requests ++ [request] })

/-- Opens a stream to a listener. -/
def connect (n : Network) (address : String) : Except FileError Unit :=
  match n.refusal address with
  | some e => .error e
  | none => .ok ()

/-- Sends bytes to a listener. -/
def send (n : Network) (bytes : List UInt8) : Except FileError Unit × Network :=
  let writes := n.writes + 1
  match n.writeFault writes with
  | some e => (.error e, { n with writes })
  | none => (.ok (), { n with writes, received := n.received ++ bytes })

/-- Ends a stream. -/
def close (n : Network) : Except FileError Unit :=
  match n.closeFault with
  | some e => .error e
  | none => .ok ()

end Network

end Conformance
