import Conformance.Network
import Conformance.Proxy.Controller
import Conformance.Sdk
import Conformance.Server.Calls
import Conformance.Server.Tasks

/-!
# The world of a run

Everything that a feature run can change, and what goes on in the background: workflow tasks,
and proxy commands that are sent after a while. Time is virtual: it only moves when nothing else
can, and then straight to the next moment at which something can.

## Main definitions

- `World` — the state of everything
- `World.step?` — one step in the background
- `World.settle` — the background until it rests
- `World.wait` — the background and the clock until a condition holds or a deadline has passed
-/

namespace Conformance

/-- A proxy command that will be sent at a given time. -/
structure DelayedCommand where
  ticket : Nat
  due : Nat
  controller : ProxyController
  command : ProxyCommand
  deriving DecidableEq, Repr, Inhabited

/-- A client: the connection it uses and the namespace it names. -/
structure Client where
  connection : ConnectionId
  ns : String
  deriving DecidableEq, Repr, Inhabited

/-- A worker factory: the address it polls, its workers, and whether it has been started. -/
structure WorkerFactory where
  target : String
  workers : List WorkerId := []
  running : Bool := false
  deriving DecidableEq, Repr, Inhabited

/-- The state of everything that a feature run can change. The clock counts milliseconds. -/
structure World where
  clock : Nat := 0
  server : Server := {}
  signals : Signals := {}
  sdk : Sdk := {}
  factories : List WorkerFactory := []
  network : Network := {}
  files : FileTree := {}
  metrics : List (String × Nat) := []
  delayed : List DelayedCommand := []
  tickets : Nat := 0
  instances : Nat := 0

instance : Inhabited World := ⟨{}⟩

namespace World

/-! ## Proxy commands -/

/-- Sends a request to the control endpoint and judges its answer. -/
def sendRequest (w : World) (p : ProxyController) (method : String)
    (args : List (String × String)) : Except Error Unit × World :=
  match p.commandUrl method args with
  | .error e => (.error e, w)
  | .ok url =>
    let (status, network) := w.network.post url
    let w := { w with network }
    match status with
    | none => (.error (.http ("error sending request for url (" ++ url.text ++ ")")), w)
    | some status =>
      if 400 ≤ status then (.error (.proxyCommandFailed method status), w) else (.ok (), w)

/-- Sends a command. -/
def sendCommand (w : World) (p : ProxyController) (c : ProxyCommand) : Except Error Unit × World :=
  w.sendRequest p c.method c.params

/-- Has a command sent after a while, and tells the number under which this is awaited. -/
def sendLater (w : World) (p : ProxyController) (delay : Duration) (c : ProxyCommand) :
    Nat × World :=
  (w.tickets, { w with
    delayed := w.delayed ++ [⟨w.tickets, w.clock + delay.ticks, p, c⟩]
    tickets := w.tickets + 1 })

/-- Whether a delayed command has been sent. -/
def isSent (w : World) (ticket : Nat) : Bool := w.delayed.all fun d => d.ticket != ticket

/-! ## Latches -/

/-- Opens a latch. The tasks that have waited for it go on. -/
def openLatch (w : World) (latch : SignalId) : World :=
  if w.signals.isOpen latch then w
  else { w with signals := w.signals.openLatch latch, server := w.server.letThrough latch }

/-! ## The background -/

/-- The position of the first delayed command that is due. -/
def dueIndex? (w : World) : Option Nat := w.delayed.findIdx? fun d => d.due ≤ w.clock

/-- Sends the delayed command at a position. Its error is of no consequence. -/
def sendDelayed (w : World) (i : Nat) : World :=
  match w.delayed[i]? with
  | none => w
  | some d =>
    let (_, w') := w.sendCommand d.controller d.command
    { w' with delayed := w.delayed.eraseIdx i }

/-- One step in the background: of a workflow task, or else of a delayed command. -/
def step? (w : World) : Option World :=
  match w.server.stepFirst? w.clock w.signals with
  | some (server, signals) => some { w with server, signals }
  | none => w.dueIndex?.map w.sendDelayed

/-- `Calmer w' w` says that less is left to do in the background of `w'`: its tasks have gone
down, or they are the same and fewer commands are delayed. -/
def Calmer (w' w : World) : Prop :=
  Prod.Lex (Descent WorkflowTask.After) (· < ·) (w'.server.tasks, w'.delayed.length)
    (w.server.tasks, w.delayed.length)

theorem wellFounded_calmer : WellFounded Calmer :=
  InvImage.wf (fun w : World => (w.server.tasks, w.delayed.length))
    (Prod.lex ⟨_, Descent.wellFounded WorkflowTask.wellFounded_after⟩ ⟨_, Nat.lt_wfRel.wf⟩).wf

instance : WellFoundedRelation World := ⟨Calmer, wellFounded_calmer⟩

@[simp] theorem server_sendRequest (w : World) (p : ProxyController) (method : String)
    (args : List (String × String)) : (w.sendRequest p method args).2.server = w.server := by
  unfold sendRequest
  split
  · rfl
  · dsimp only
    split
    · rfl
    · split <;> rfl

@[simp] theorem server_sendCommand (w : World) (p : ProxyController) (c : ProxyCommand) :
    (w.sendCommand p c).2.server = w.server :=
  server_sendRequest ..

theorem calmer_sendDelayed {w : World} {i : Nat} (h : w.dueIndex? = some i) :
    Calmer (w.sendDelayed i) w := by
  have hlt : i < w.delayed.length := by
    unfold dueIndex? at h
    exact (List.findIdx?_eq_some_iff_findIdx_eq.mp h).1
  have hget : w.delayed[i]? = some w.delayed[i] := List.getElem?_eq_getElem hlt
  unfold sendDelayed Calmer
  rw [hget]
  dsimp only
  rw [server_sendCommand]
  refine Prod.Lex.right _ ?_
  rw [List.length_eraseIdx, if_pos hlt]
  omega

/-- Every step in the background leaves less to do. -/
theorem calmer_of_step? {w w' : World} (h : w.step? = some w') : Calmer w' w := by
  unfold step? at h
  split at h
  · rename_i server signals hs
    cases h
    exact Prod.Lex.left _ _ (Server.stepFirst?_descent hs)
  · rw [Option.map_eq_some_iff] at h
    obtain ⟨i, hi, rfl⟩ := h
    exact calmer_sendDelayed hi

/-- Runs the background until it rests. The clock stands still. -/
def settle (w : World) : World :=
  match _h : w.step? with
  | none => w
  | some w' => settle w'
termination_by w
decreasing_by exact calmer_of_step? _h

/-- Nothing can be done in a settled background. -/
theorem step?_settle (w : World) : w.settle.step? = none := by
  fun_induction settle w with
  | case1 w h => exact h
  | case2 w w' h ih => exact ih

theorem settle_eq_or (w : World) :
    w.settle = w ∨ Relation.TransGen Calmer w.settle w := by
  fun_induction settle w with
  | case1 w h => exact Or.inl rfl
  | case2 w w' h ih =>
    refine Or.inr ?_
    rcases ih with ih | ih
    · rw [ih]
      exact .single (calmer_of_step? h)
    · exact .tail ih (calmer_of_step? h)

/-- The next time at which something happens in a settled background. -/
def nextTime? (w : World) : Option Nat := (w.server.wakes ++ w.delayed.map (·.due)).min?

/-- Moves the clock forward. -/
def advanceTo (w : World) (time : Nat) : World := { w with clock := max w.clock time }

theorem calmer_advanceTo {w w' : World} {time : Nat} (h : Calmer w' (w.advanceTo time)) :
    Calmer w' w := h

/-- Whether a deadline has passed. -/
def isOver (w : World) : Option Nat → Bool
  | none => false
  | some deadline => deadline ≤ w.clock

/-- Waits until a condition holds or a deadline has passed, and tells which. The background runs
until it rests before the condition is looked at again; then the clock moves. At the deadline
the one who waits comes before the background. -/
def wait (ready : World → Bool) (deadline : Option Nat) (w : World) : Bool × World :=
  if ready w then (true, w)
  else if w.isOver deadline then (false, w)
  else
    let rested := w.settle
    if ready rested then (true, rested)
    else
      match rested.nextTime?, deadline with
      | none, none => (false, rested)
      | none, some d => (false, rested.advanceTo d)
      | some t, deadline =>
        let moved := rested.advanceTo (match deadline with | some d => min d t | none => t)
        if moved.isOver deadline then (false, moved)
        else
          match _h : moved.step? with
          | none => (false, moved)
          | some next => wait ready deadline next
termination_by wellFounded_calmer.transGen.wrap w
decreasing_by
  have hnext : Calmer next w.settle := calmer_advanceTo (calmer_of_step? _h)
  rcases settle_eq_or w with hw | hw
  · rw [hw] at hnext
    exact .single hnext
  · exact (Relation.TransGen.single hnext).trans hw

end World

end Conformance
