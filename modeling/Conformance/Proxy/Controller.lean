import Conformance.Error
import Conformance.Proxy.Command
import Conformance.Url.Read

/-!
# The control endpoint of the proxy

Commands are requests to URLs below the control endpoint, if there is one.

## Main definitions

- `ProxyController` — the control endpoint
- `ProxyController.commandUrl` — the URL of a command
-/

namespace Conformance

/-- The control endpoint of the proxy, if there is one. -/
structure ProxyController where
  control : Option Url := none
  deriving DecidableEq, Repr, Inhabited

namespace ProxyController

/-- Whether there is a proxy to control. -/
def isAvailable (p : ProxyController) : Bool := p.control.isSome

/-- The URL of a command: its name is one more segment of the path, and its arguments are added
to the query. -/
def commandUrl (p : ProxyController) (method : String) (args : List (String × String)) :
    Except Error Url :=
  match p.control with
  | none => .error .proxyUnavailable
  | some base =>
    match base.pushSegment? method with
    | none => .error (.config ("proxy control URI cannot be a base: " ++ base.text))
    | some u => .ok (u.appendPairs args)

end ProxyController

end Conformance
