import Conformance.Proofs.Background.Unnoticed
import Conformance.Proofs.Server.Holdings

/-!
# Connections that have been shut down

A connection that was shut down is never open again. Its service looks at that and refuses what it is
asked. A client of the connection does not look, and neither does the server that it calls.

## Main definitions

- `Server.mark`, `World.mark` — a connection marked as open or as shut down
- `Server.KeepsShut` — connections that were shut down are still there, and still shut
- `World.Regardless` — an action that goes the same way whether a connection is open or not

## Main statements

- `Server.connections_serve` — what a request does to the connections
- `Server.keepsShut_of_run` — no run opens a connection that was shut down
- `World.unnoticed_mark` — the background looks at no connection
- `calls_through_shut_connection` — which calls are refused once a connection has been shut down
-/

namespace Conformance

namespace Server

/-! ## Marking a connection as open or shut down -/

/-- The server with a connection marked as open or as shut down. -/
def mark (s : Server) (id : ConnectionId) (isOpen : Bool) : Server :=
  { s with connections := s.connections.modify id fun c => { c with isOpen } }

section

variable (s : Server) (id : ConnectionId) (isOpen : Bool)

@[simp] theorem executions_mark : (s.mark id isOpen).executions = s.executions := rfl

@[simp] theorem pollers_mark : (s.mark id isOpen).pollers = s.pollers := rfl

@[simp] theorem tasks_mark : (s.mark id isOpen).tasks = s.tasks := rfl

@[simp] theorem worker?_mark (worker : WorkerId) :
    (s.mark id isOpen).worker? worker = s.worker? worker := rfl

@[simp] theorem modifyExecution_mark (workflowId : String) (f : ExecutionRecord → ExecutionRecord) :
    (s.mark id isOpen).modifyExecution workflowId f =
      (s.modifyExecution workflowId f).mark id isOpen := rfl

@[simp] theorem targetOf_mark (other : ConnectionId) :
    (s.mark id isOpen).targetOf other = s.targetOf other := by
  rw [targetOf, mark, List.getElem?_modify, targetOf]
  by_cases h : id = other
  · subst h
    cases s.connections[id]? <;> simp
  · cases s.connections[other]? <;> simp [h]

/-- What a marked server is left with after a step of a task. -/
def TaskStep.mark (x : TaskStep) (id : ConnectionId) (isOpen : Bool) : TaskStep :=
  { x with server := x.server.mark id isOpen }

theorem finish_mark (workflowId : String) (completion : Completion) :
    (s.mark id isOpen).finish workflowId completion =
      (s.finish workflowId completion).mark id isOpen := by
  unfold finish
  rw [executions_mark]
  cases s.executions.get? workflowId <;> rfl

theorem begin_mark (signals : Signals) (t : WorkflowTask) :
    (s.mark id isOpen).begin signals t = (s.begin signals t).mark id isOpen := by
  unfold begin
  rw [executions_mark, worker?_mark]
  cases s.executions.get? t.workflowId with
  | none => rfl
  | some r =>
    dsimp only
    cases (s.worker? t.worker).bind (·.workflow? r.workflowType) with
    | some w => rfl
    | none => exact congrArg (fun s => TaskStep.mk none s signals) (finish_mark ..)

theorem callActivity_mark (signals : Signals) (t : WorkflowTask) (activityType : String)
    (args : List Json) (next : Ending → Code) :
    (s.mark id isOpen).callActivity signals t activityType args next =
      (s.callActivity signals t activityType args next).mark id isOpen := by
  unfold callActivity
  rw [executions_mark]
  cases s.executions.get? t.workflowId with
  | none => rfl
  | some r =>
    dsimp only
    rw [modifyExecution_mark, worker?_mark]
    cases ((s.modifyExecution t.workflowId fun r => r.schedule activityType args).worker? t.worker).bind
      fun w => (activitiesFor w activityType).map (w, ·) <;> rfl

theorem stepTask_mark (now : Nat) (signals : Signals) (t : WorkflowTask) :
    (s.mark id isOpen).stepTask now signals t =
      (s.stepTask now signals t).map (·.mark id isOpen) := by
  obtain ⟨workflowId, worker, phase, wake⟩ := t
  cases phase with
  | fresh => exact congrArg some (begin_mark ..)
  | running code =>
    cases code with
    | done ending =>
      exact congrArg (fun s => some (TaskStep.mk none s signals)) (finish_mark ..)
    | callActivity activityType args next => exact congrArg some (callActivity_mark ..)
    | awaitLatch latch next =>
      unfold stepTask
      dsimp only
      cases signals.isOpen latch <;> rfl
    | sleep ms next =>
      unfold stepTask
      cases wake with
      | none => rfl
      | some w =>
        dsimp only
        split <;> rfl
  | inActivity scheduled activity next =>
    cases activity with
    | done ending => rfl
    | openLatch latch act => rfl
    | awaitLatch latch act =>
      unfold stepTask
      dsimp only
      cases signals.isOpen latch <;> rfl
    | sleep ms act =>
      unfold stepTask
      cases wake with
      | none => rfl
      | some w =>
        dsimp only
        split <;> rfl
    | readCounter counter act => rfl

theorem step?_mark (now i : Nat) (signals : Signals) :
    (s.mark id isOpen).step? now signals i =
      (s.step? now signals i).map fun next => (next.1.mark id isOpen, next.2) := by
  unfold step?
  rw [tasks_mark]
  cases s.tasks[i]? with
  | none => rfl
  | some t =>
    dsimp only
    rw [stepTask_mark]
    cases s.stepTask now signals t <;> rfl

theorem stepFrom?_mark (now i count : Nat) (signals : Signals) :
    (s.mark id isOpen).stepFrom? now signals i count =
      (s.stepFrom? now signals i count).map fun next => (next.1.mark id isOpen, next.2) := by
  induction count generalizing i with
  | zero => rfl
  | succ count ih =>
    unfold stepFrom?
    rw [step?_mark]
    cases s.step? now signals i with
    | some next => rfl
    | none => exact ih (i + 1)

/-! ## What is asked of a server -/

theorem dispatch_mark (queue workflowId : String) :
    (s.mark id isOpen).dispatch queue workflowId = (s.dispatch queue workflowId).mark id isOpen := by
  unfold dispatch
  rw [pollers_mark]
  cases s.pollers.get? queue <;> rfl

theorem accept_mark (target : String) (ns : Option String) (workflowType : String)
    (options : WorkflowOptions) (args : List Json) (e : Execution) :
    (s.mark id isOpen).accept target ns workflowType options args e =
      (s.accept target ns workflowType options args e).mark id isOpen := by
  let recorded : Server :=
    { { s with starts := s.starts + 1 }.record target .startWorkflow ns with
      executions := s.executions.insert e.workflowId (newRecord e workflowType options args) }
  exact dispatch_mark recorded id isOpen options.taskQueue e.workflowId

theorem startWorkflow_mark (target : String) (ns : Option String) (workflowType : String)
    (options : WorkflowOptions) (args : List Json) :
    (s.mark id isOpen).startWorkflow target ns workflowType options args =
      ((s.startWorkflow target ns workflowType options args).1,
        (s.startWorkflow target ns workflowType options args).2.mark id isOpen) := by
  have hnext : (s.mark id isOpen).nextRun options = s.nextRun options := rfl
  rw [startWorkflow_eq_nextRun, startWorkflow_eq_nextRun, hnext, executions_mark]
  split
  · rfl
  · split
    · rfl
    · exact congrArg (Prod.mk _) (accept_mark ..)

end

/-! ## What becomes of connections -/

/-- A request leaves the connections alone, opens one more, or shuts one down. -/
theorem connections_serve (s : Server) (q : Request) :
    (s.serve q).2.connections = s.connections ∨
    (∃ target, (s.serve q).2.connections = s.connections ++ [({ target } : Connection)]) ∨
    ∃ id, (s.serve q).2.connections = s.connections.modify id fun c => { c with isOpen := false } := by
  cases q with
  | startWorkflow target ns workflowType options args =>
    exact .inl (startWorkflow_kept s target ns workflowType options args).2.2
  | subscribe _ | takeAnswer _ | fetchHistory _ _ _ | describe _ _ _ | update _ _ _ | addWorker _ =>
    exact .inl rfl
  | updateWorker id change =>
    refine .inl ?_
    show (s.updateWorker id change).2.connections = _
    unfold updateWorker
    split
    · rfl
    · split <;> rfl
  | attach target id =>
    refine .inl ?_
    show (s.attach target id).connections = _
    unfold attach
    split
    · rfl
    · rw [spawnAll_eq]
      rfl
  | detach id =>
    refine .inl ?_
    show (s.detach id).connections = _
    rw [detach_eq]
  | connect target =>
    rcases connect_cases s target with ⟨error, hrefused⟩ | hopened
    · exact .inl (congrArg (·.2.connections) hrefused)
    · exact .inr (.inl ⟨target, congrArg (·.2.connections) hopened⟩)
  | release target operation =>
    refine .inl ?_
    show (s.release target operation).2.connections = _
    unfold release
    dsimp only
    split <;> rfl
  | closeConnection id =>
    refine .inr (.inr ⟨id, ?_⟩)
    show (s.closeConnection id).2.connections = _
    unfold closeConnection release
    dsimp only
    split <;> rfl

/-- A connection that was there before has kept its address, and it is not open if it was shut
down. -/
structure KeepsShut (s s' : Server) : Prop where
  targets : s.connections.map (·.target) <+: s'.connections.map (·.target)
  shut : ∀ id, id < s.connections.length → s.isOpen id = false → s'.isOpen id = false

theorem KeepsShut.refl (s : Server) : KeepsShut s s := ⟨List.prefix_rfl, fun _ _ h => h⟩

theorem KeepsShut.of_same {s s' : Server} (h : s'.connections = s.connections) : KeepsShut s s' where
  targets := h ▸ List.prefix_rfl
  shut id _ hshut := by rwa [isOpen, h]

theorem KeepsShut.length {s s' : Server} (h : KeepsShut s s') :
    s.connections.length ≤ s'.connections.length := by
  have hlength := h.targets.length_le
  rwa [List.length_map, List.length_map] at hlength

theorem KeepsShut.trans {s s' s'' : Server} (h : KeepsShut s s') (h' : KeepsShut s' s'') :
    KeepsShut s s'' where
  targets := h.targets.trans h'.targets
  shut id hid hshut := h'.shut id (Nat.lt_of_lt_of_le hid h.length) (h.shut id hid hshut)

theorem KeepsShut.targetOf {s s' : Server} (h : KeepsShut s s') {id : ConnectionId}
    (hid : id < s.connections.length) : s'.targetOf id = s.targetOf id := by
  obtain ⟨opened, hopened⟩ := h.targets
  have hlength : id < (s.connections.map (·.target)).length := by rwa [List.length_map]
  rw [targetOf_eq_getD, targetOf_eq_getD, ← hopened, List.getElem?_append_left hlength]

/-- No request opens a connection that was shut down. -/
theorem keepsShut_serve (s : Server) (q : Request) : KeepsShut s (s.serve q).2 := by
  rcases connections_serve s q with hsame | ⟨target, hopened⟩ | ⟨closed, hclosed⟩
  · exact .of_same hsame
  · refine ⟨?_, fun id hid hshut => ?_⟩
    · rw [hopened, List.map_append]
      exact List.prefix_append ..
    · rwa [isOpen, hopened, List.getElem?_append_left hid]
  · refine ⟨?_, fun id hid hshut => ?_⟩
    · have htargets : (s.serve q).2.connections.map (·.target) = s.connections.map (·.target) :=
        hclosed ▸ map_modify_of_same fun _ _ => rfl
      exact htargets ▸ List.prefix_rfl
    · rw [isOpen, hclosed, List.getElem?_modify]
      rw [isOpen] at hshut
      by_cases h : closed = id
      · subst h
        cases s.connections[closed]? <;> simp
      · cases hc : s.connections[id]? <;> simp_all

/-- Whatever happens at a server, a connection that was shut down stays so. -/
theorem keepsShut_of_run {s s' : Server} {log : List Exchange} (h : Run s log s') :
    KeepsShut s s' := by
  induction h with
  | start => exact .refl s
  | serve _ q ih => exact ih.trans (keepsShut_serve _ q)
  | task _ hstep ih => exact ih.trans (.of_same (step?_setting hstep).connections)
  | letThrough _ _ ih => exact ih.trans (.of_same rfl)

end Server

namespace World

/-- The world with a connection marked as open or as shut down. -/
def mark (id : ConnectionId) (isOpen : Bool) (w : World) : World :=
  { w with server := w.server.mark id isOpen }

variable (id : ConnectionId) (isOpen : Bool)

theorem overlooks_sendCommand (p : ProxyController) (c : ProxyCommand) :
    Overlooks (mark id isOpen) fun w => w.sendCommand p c := by
  intro w
  unfold sendCommand sendRequest
  cases p.commandUrl c.method c.params with
  | error e => rfl
  | ok url =>
    dsimp only [mark]
    cases (w.network.post url).1 with
    | none => rfl
    | some status =>
      dsimp only
      split <;> rfl

theorem sendDelayed_mark (w : World) (i : Nat) :
    (w.mark id isOpen).sendDelayed i = (w.sendDelayed i).mark id isOpen := by
  unfold sendDelayed
  dsimp only [mark]
  cases w.delayed[i]? with
  | none => rfl
  | some d =>
    have hsent := overlooks_sendCommand id isOpen d.controller d.command w
    dsimp only [mark] at hsent ⊢
    rw [hsent]

/-- The background looks at no connection. -/
theorem unnoticed_mark : Unnoticed (mark id isOpen) where
  step? w := by
    unfold step?
    dsimp only [mark]
    rw [Server.stepFirst?, Server.stepFrom?_mark, Server.tasks_mark, ← Server.stepFirst?]
    cases w.server.stepFirst? w.clock w.signals with
    | some next => rfl
    | none =>
      have hdue : (w.mark id isOpen).dueIndex? = w.dueIndex? := rfl
      dsimp only [mark] at hdue
      dsimp only [Option.map_none]
      rw [hdue, Option.map_map]
      exact congrArg (fun f => w.dueIndex?.map f) (funext fun i => sendDelayed_mark id isOpen w i)
  clock _ := rfl
  nextTime? _ := rfl
  advanceTo _ _ := rfl

/-! ## The calls of a client -/

theorem overlooks_startWorkflow (client : Client) (workflowType : String) (options : WorkflowOptions)
    (args : List Json) :
    Overlooks (mark id isOpen) (startWorkflow client workflowType options args) := by
  intro w
  unfold startWorkflow
  dsimp only [mark]
  rw [Server.targetOf_mark, Server.startWorkflow_mark]

theorem overlooks_update (client : Client) (workflowId name : String) :
    Overlooks (mark id isOpen) fun w => w.update client workflowId name := by
  intro w
  unfold update
  dsimp only [mark]
  cases w.sdk.nextUpdate with
  | mk answer sdk =>
    cases answer with
    | some answer => rfl
    | none =>
      dsimp only
      rw [Server.targetOf_mark]
      rfl

theorem overlooks_startUpdate (client : Client) (workflowId name : String) :
    Overlooks (mark id isOpen) fun w => w.startUpdate client workflowId name := by
  intro w
  unfold startUpdate
  have hupdate := overlooks_update id isOpen client workflowId name w
  dsimp only at hupdate ⊢
  rw [hupdate]

theorem overlooks_result (e : Execution) : Overlooks (mark id isOpen) (Program.result e).run :=
  (unnoticed_mark id isOpen).result (fun _ => rfl) (fun _ => rfl) e

/-! ## The calls of a service -/

/-- Nobody is asked through a connection that is not open. -/
theorem asking_of_shut {α : Type} {w : World} {id : ConnectionId} (h : w.server.isOpen id = false)
    (call : Server → String → Except Error α × Server) :
    w.asking id call = (.error (Server.closedError (w.server.targetOf id)), w) := by
  unfold asking
  dsimp only
  rw [if_neg (by rw [h]; exact Bool.false_ne_true)]

/-- The action goes the same way whether the connection is open or shut down. -/
def Regardless {α : Type} (id : ConnectionId) (action : World → α × World) : Prop :=
  ∀ isOpen, Overlooks (mark id isOpen) action

end World

open World

/-! ## Calls through a connection that has been shut down -/

/-- A connection that has been shut down stays so and keeps its address, whatever happens at the server
afterwards. What its service is asked is refused, and nothing changes. The calls of its clients are not
refused: they go the way they would through an open connection. -/
theorem calls_through_shut_connection {s s' : Server} {log : List Server.Exchange}
    {id : ConnectionId} (hid : id < s.connections.length)
    (h : Server.Run (s.serve (.closeConnection id)).2 log s') :
    s'.isOpen id = false ∧ s'.targetOf id = s.targetOf id ∧
    (∀ w : World, w.server = s' → ∀ ns e,
      w.fetchHistory id ns e = (.error (Server.closedError (s.targetOf id)), w) ∧
      w.describe id ns e = (.error (Server.closedError (s.targetOf id)), w)) ∧
    ∀ ns, let client : Client := ⟨id, ns⟩
      (∀ workflowType options args, Regardless id (startWorkflow client workflowType options args)) ∧
      (∀ e, Regardless id (Program.result e).run) ∧
      (∀ workflowId name, Regardless id fun w => w.update client workflowId name) ∧
      ∀ workflowId name, Regardless id fun w => w.startUpdate client workflowId name := by
  have hclose := Server.keepsShut_serve s (.closeConnection id)
  have hlater := Server.keepsShut_of_run h
  have hid' : id < (s.serve (.closeConnection id)).2.connections.length :=
    Nat.lt_of_lt_of_le hid hclose.length
  have hshut : (s.serve (.closeConnection id)).2.isOpen id = false := by
    show (s.closeConnection id).2.isOpen id = false
    rw [Server.isOpen_closeConnection, decide_eq_false (not_not_intro rfl), Bool.and_false]
  have hstill : s'.isOpen id = false := hlater.shut id hid' hshut
  have htarget : s'.targetOf id = s.targetOf id :=
    (hlater.targetOf hid').trans (hclose.targetOf hid)
  refine ⟨hstill, htarget, fun w hw ns e => ?_, fun ns => ⟨?_, ?_, ?_, ?_⟩⟩
  · subst hw
    rw [← htarget]
    exact ⟨asking_of_shut hstill _, asking_of_shut hstill _⟩
  · exact fun workflowType options args isOpen =>
      overlooks_startWorkflow id isOpen _ workflowType options args
  · exact fun e isOpen => overlooks_result id isOpen e
  · exact fun workflowId name isOpen => overlooks_update id isOpen _ workflowId name
  · exact fun workflowId name isOpen => overlooks_startUpdate id isOpen _ workflowId name

/-- A connection to the same address is opened after one was shut down. The service of the first is
still refused. -/
theorem calls_after_reconnecting :
    let s := (({} : Server).serve (.connect "server:1")).2
    let closed := (s.serve (.closeConnection 0)).2
    let s' := (closed.serve (.connect "server:1")).2
    0 < s.connections.length ∧
    Server.Run closed [⟨.connect "server:1", (closed.serve (.connect "server:1")).1⟩] s' ∧
    s'.isOpen 1 = true ∧ s'.isOpen 0 = false ∧
    ∀ w : World, w.server = s' → ∀ ns e,
      w.describe 0 ns e = (.error (Server.closedError "server:1"), w) := by
  intro s closed s'
  have hid : 0 < s.connections.length := by decide
  have hrun : Server.Run closed [⟨.connect "server:1", _⟩] s' := Server.Run.start.serve _
  have hcalls := calls_through_shut_connection hid hrun
  exact ⟨hid, hrun, rfl, hcalls.1, fun w hw ns e => (hcalls.2.2.1 w hw ns e).2⟩

/-- A client of a connection that has been shut down starts a workflow, and its update reaches the
server too. Both calls are recorded. -/
theorem start_through_shut_connection :
    let client : Client := ⟨0, "default"⟩
    let s := (({} : Server).serve (.connect "server:1")).2
    let closed := (s.serve (.closeConnection 0)).2
    let started := startWorkflow client "Flow" { taskQueue := "queue" } [] { server := closed }
    let updated := started.2.update client "loopback-workflow-1" "update"
    closed.isOpen 0 = false ∧
    started.1 = .ok ⟨"loopback-workflow-1", "loopback-run-1"⟩ ∧
    started.2.server.executions.size = closed.executions.size + 1 ∧
    updated.1.mapError (·.code) = .error .invalidArgument ∧
    updated.2.server.calls = closed.calls ++
      [⟨"server:1", .startWorkflow, some "default"⟩, ⟨"server:1", .update, none⟩] :=
  ⟨rfl, rfl, rfl, rfl, rfl⟩

end Conformance
