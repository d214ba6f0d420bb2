import Conformance.Duration

/-!
# Proxy commands

What can be asked of the proxy between the harness and the server.
-/

namespace Conformance

/-- A command to the proxy. -/
inductive ProxyCommand where
  | reject
  | accept
  | freeze
  | thaw
  | restart (sleep : Duration) (forceful : Bool)
  deriving DecidableEq, Repr, Inhabited

namespace ProxyCommand

/-- The name of a command, the last segment of its URL. -/
def method : ProxyCommand → String
  | reject => "reject"
  | accept => "accept"
  | freeze => "freeze"
  | thaw => "thaw"
  | restart _ _ => "restart"

/-- The parameters of a command. Only restarts have any. -/
def params : ProxyCommand → List (String × String)
  | restart sleep forceful =>
    [("sleep", toString sleep.millis ++ "ms"), ("forceful", if forceful then "true" else "false")]
  | _ => []

end ProxyCommand

end Conformance
