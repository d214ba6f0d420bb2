import Conformance.Proxy.Bracket
import Conformance.Scenario.Causes
import Conformance.Scenario.Report

/-!
# Described brackets

The work of a bracket is described by a list of steps, which may look at the proxy, send commands
and let time pass. A bracket answers with its result, whether its work was called, and a log.

## Main definitions

- `BracketTools` — what the work of a bracket may use
- `bracketOf` — reads a bracket
-/

namespace Conformance.Scenario

/-- What the work of a bracket may use. -/
structure BracketTools (m : Type → Type) where
  channel : ProxyChannel m
  setStatus : Nat → m Unit
  requests : m (List ControlRequest)
  sleep : Duration → m Unit
  settle : m Unit

/-- What is known about the work of a bracket. -/
structure WorkLog where
  called : Bool := false
  entries : List Json := []
  deriving Inhabited

/-- Work that keeps a log. -/
abbrev Logged (m : Type → Type) := StateT WorkLog m

variable {m : Type → Type} [Monad m]

/-- Adds an entry to the log. -/
def note (entry : Json) : Logged m Unit :=
  modify fun log => { log with entries := log.entries ++ [entry] }

/-- Sends commands for work that keeps a log. -/
def logged (c : ProxyChannel m) : ProxyChannel (Logged m) where
  send command := liftM (c.send command)
  later delay command := liftM (c.later delay command)
  join ticket := liftM (c.join ticket)

/-- Reads a step of the work. It turns the result so far into the one after it. -/
def workStepOf (tools : BracketTools m) (v : Json) :
    Described (Except Error Json → Logged m (Except Error Json)) := do
  let first (action : Logged m Unit) : Except Error Json → Logged m (Except Error Json) :=
    fun result => do
      action
      return result
  match ← text v "do" with
  | "advance" =>
    let d ← millis v "ms"
    return first do
      liftM (tools.sleep d)
      liftM tools.settle
  | "commands" => return first do note (Report.ofPaths (← liftM tools.requests))
  | "status" =>
    let status ← nat v "status"
    return first (liftM (tools.setStatus status))
  | "send" =>
    let command ← commandOf (field v "command")
    return first do note (Report.ofUnit (← liftM (tools.channel.send command))).json
  | "return" => return fun _ => return .ok (field v "value")
  | "fail" =>
    let e ← errorOf (field v "error")
    return fun _ => return .error e
  | s => .error ("step " ++ s)

/-- Reads a bracket. -/
def bracketOf (tools : BracketTools m) (v : Json) : Described (m Json) := do
  let first ← commandOf (field v "first")
  let second ← commandOf (field v "second")
  let sleep ← millis v "sleep_ms"
  let steps ← (← itemsOr v "work").mapM (workStepOf tools)
  let work : Logged m (Except Error Json) := do
    modify fun log => { log with called := true }
    liftM tools.settle
    steps.foldlM (fun result step => step result) (.ok .null)
  return do
    let (result, log) ← ((logged tools.channel).bracket sleep first second work).run {}
    return .obj [("result", (Report.ofResult result).json), ("worked", .bool log.called),
      ("log", .arr log.entries)]

end Conformance.Scenario
