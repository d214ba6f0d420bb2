import Conformance.Error
import Conformance.Proxy.Command

/-!
# Brackets of proxy commands

A bracket sends one command, lets some work run, and has a second command sent after a while,
whatever the work does. It can be used in every monad in which commands can be sent.

## Main definitions

- `ProxyChannel` — how commands are sent in a monad
- `ProxyChannel.bracket` — work between two commands
-/

namespace Conformance

/-- How proxy commands are sent in a monad: at once, or later with a ticket to wait for. -/
structure ProxyChannel (m : Type → Type) where
  send : ProxyCommand → m (Except Error Unit)
  later : Duration → ProxyCommand → m Nat
  join : Nat → m Unit

namespace ProxyChannel

variable {m : Type → Type} [Monad m] {α : Type}

/-- Sends the first command, has the second one sent after a while, and runs the work meanwhile.
If the first command fails, nothing else happens; a failure of the second one is of no
consequence. The bracket ends after the second command has been sent, with the result of the
work. -/
def bracket (c : ProxyChannel m) (sleep : Duration) (first second : ProxyCommand)
    (work : m (Except Error α)) : m (Except Error α) := do
  match ← c.send first with
  | .error e => return .error e
  | .ok () =>
    let ticket ← c.later sleep second
    let result ← work
    c.join ticket
    return result

end ProxyChannel

end Conformance
