import Conformance.Text.Blank
import Conformance.Proxy.Controller

/-!
# Configuration

What a run is told from outside. It is made once and only read afterwards.

## Main definitions

- `Config` — the settings
- `Config.validate` — refuses blank settings that are needed
-/

namespace Conformance

/-- The certificate and the key of a client. -/
structure TlsMaterial where
  certificate : List UInt8
  key : List UInt8
  deriving DecidableEq, Repr, Inhabited

/-- A description of the material that does not show the key. -/
def TlsMaterial.text (t : TlsMaterial) : String :=
  "TlsConfig \x7b client_cert: " ++ toString t.certificate.length
    ++ " bytes, client_key: \"<redacted>\" \x7d"

/-- The settings of a run. -/
structure Config where
  server : String
  directServer : Option String := none
  ns : String
  taskQueue : String
  tls : Option TlsMaterial := none
  proxyControl : Option Url := none
  fixturesDir : String := "features"
  generateHistory : Bool := false
  deriving DecidableEq, Repr, Inhabited

namespace Config

/-- The address that bypasses the proxy: the server itself unless another one is given. -/
def direct (c : Config) : String := c.directServer.getD c.server

/-- The settings for another task queue. -/
def forTaskQueue (c : Config) (taskQueue : String) : Config := { c with taskQueue }

/-- The settings that must not be blank, in the order in which they are looked at. -/
def needed (c : Config) : List (String × String) :=
  [("server", c.server), ("direct server", c.direct), ("namespace", c.ns),
    ("task queue", c.taskQueue)]

/-- Refuses settings of which a needed one is blank, naming the first. -/
def validate (c : Config) : Except Error Unit :=
  match c.needed.find? fun s => Text.isBlankText s.2 with
  | some (name, _) => .error (.config (name ++ " must not be empty"))
  | none => .ok ()

/-- Settings are valid exactly if none of the needed ones is blank. -/
theorem validate_eq_ok_iff (c : Config) :
    c.validate = .ok () ↔ ∀ s ∈ c.needed, Text.isBlankText s.2 = false := by
  unfold validate
  cases h : c.needed.find? fun s => Text.isBlankText s.2 with
  | none =>
    rw [List.find?_eq_none] at h
    simpa using h
  | some s =>
    have := List.find?_some h
    have hm := List.mem_of_find?_eq_some h
    simp only [reduceCtorEq, false_iff]
    intro hall
    rw [hall s hm] at this
    exact Bool.false_ne_true this

end Config

end Conformance
