import Conformance.Proofs.Server.Run

/-!
# What a request can do

Most requests leave the workflows of a server alone. The others start a run of a workflow, or make
a worker start or stop polling. All the ways in which a request can be served are listed once.

## Main definitions

- `Server.Quiet` — two servers with the same workflows, pollers and tasks
- `Server.accept` — the server after it has accepted a run of a workflow
- `Server.Served` — the ways in which a request can be served

## Main statements

- `Server.serve_cases` — every request is served in one of these ways
-/

namespace Conformance.Server

/-! ## Requests without an effect on workflows -/

/-- The servers differ in workers, connections, calls and the count of starts only. No worker has
been lost, and the count has not gone down. -/
structure Quiet (s s' : Server) : Prop where
  eq : s' = { s with
    workers := s'.workers, connections := s'.connections, calls := s'.calls, starts := s'.starts }
  starts : s.starts ≤ s'.starts
  workers : s.workers.length ≤ s'.workers.length

theorem Quiet.refl (s : Server) : Quiet s s := ⟨rfl, Nat.le_refl _, Nat.le_refl _⟩

section

variable {s s' : Server} (h : Quiet s s')
include h

theorem Quiet.executions : s'.executions = s.executions := by rw [h.eq]

theorem Quiet.completions : s'.completions = s.completions := by rw [h.eq]

theorem Quiet.pollers : s'.pollers = s.pollers := by rw [h.eq]

theorem Quiet.pending : s'.pending = s.pending := by rw [h.eq]

theorem Quiet.tasks : s'.tasks = s.tasks := by rw [h.eq]

end

theorem quiet_record (s : Server) (target : String) (operation : Operation)
    (ns : Option String) : Quiet s (s.record target operation ns) :=
  ⟨rfl, Nat.le_refl _, Nat.le_refl _⟩

theorem quiet_addWorker (s : Server) (queue : String) : Quiet s (s.addWorker queue).2 := by
  refine ⟨rfl, Nat.le_refl _, ?_⟩
  rw [addWorker, List.length_append]
  exact Nat.le_add_right ..

theorem quiet_updateWorker (s : Server) (id : WorkerId) (change : Worker → Except Error Worker) :
    Quiet s (s.updateWorker id change).2 := by
  unfold updateWorker
  split
  · exact .refl s
  · split
    · exact .refl s
    · exact ⟨rfl, Nat.le_refl _, Nat.le_of_eq (List.length_modify ..).symm⟩

theorem quiet_connect (s : Server) (target : String) : Quiet s (s.connect target).2 := by
  unfold connect
  split
  · exact .refl s
  · exact ⟨rfl, Nat.le_refl _, Nat.le_refl _⟩

theorem quiet_release (s : Server) (target : String) (operation : Operation) :
    Quiet s (s.release target operation).2 := by
  unfold release
  dsimp only
  split <;> exact ⟨rfl, Nat.le_refl _, Nat.le_refl _⟩

theorem quiet_closeConnection (s : Server) (id : ConnectionId) :
    Quiet s (s.closeConnection id).2 := by
  unfold closeConnection release
  dsimp only
  split <;> exact ⟨rfl, Nat.le_refl _, Nat.le_refl _⟩

/-! ## Starting a run -/

/-- The server after it has accepted a run of a workflow. -/
def accept (s : Server) (target : String) (ns : Option String) (workflowType : String)
    (options : WorkflowOptions) (args : List Json) (e : Execution) : Server :=
  { { s with starts := s.starts + 1 }.record target .startWorkflow ns with
    executions := s.executions.insert e.workflowId (newRecord e workflowType options args)
    }.dispatch options.taskQueue e.workflowId

/-- A run that is accepted changes neither the pollers nor the workers nor the connections. -/
theorem accept_kept (s : Server) (target : String) (ns : Option String) (workflowType : String)
    (options : WorkflowOptions) (args : List Json) (e : Execution) :
    let s' := s.accept target ns workflowType options args e
    s'.pollers = s.pollers ∧ s'.workers = s.workers ∧ s'.connections = s.connections := by
  dsimp only
  unfold accept dispatch
  split <;> exact ⟨rfl, rfl, rfl⟩

/-- The run that is started with some options, if it is accepted: it has a number of its own, and
its workflow id is made from the number unless one is given. -/
def nextRun (s : Server) (options : WorkflowOptions) : Execution :=
  ⟨options.workflowId.getD ("loopback-workflow-" ++ toString (s.starts + 1)),
    runIdOf (s.starts + 1)⟩

/-- A start names no task queue, or its workflow id runs already, or it is accepted with the next
number. -/
theorem startWorkflow_eq_nextRun (s : Server) (target : String) (ns : Option String)
    (workflowType : String) (options : WorkflowOptions) (args : List Json) :
    s.startWorkflow target ns workflowType options args =
      if options.taskQueue.isEmpty then
        (.error (.rpc ⟨.invalidArgument, "task queue is not set"⟩), s)
      else if (s.executions.get? (s.nextRun options).workflowId).map (·.status) = some .running then
        (.error (.rpc ⟨.invalidArgument,
            "workflow " ++ (s.nextRun options).workflowId ++ " is already running"⟩),
          { s with starts := s.starts + 1 }.record target .startWorkflow ns)
      else
        (.ok (s.nextRun options),
          s.accept target ns workflowType options args (s.nextRun options)) := rfl

section

variable {s : Server} {options : WorkflowOptions} (hqueue : options.taskQueue.isEmpty = false)
include hqueue

/-- A run is accepted if none is under way under its workflow id. -/
theorem startWorkflow_of_idle
    (hidle : ∀ r, s.executions.get? (s.nextRun options).workflowId = some r → r.status ≠ .running)
    (target : String) (ns : Option String) (workflowType : String) (args : List Json) :
    s.startWorkflow target ns workflowType options args =
      (.ok (s.nextRun options),
        s.accept target ns workflowType options args (s.nextRun options)) := by
  have hnot : (s.executions.get? (s.nextRun options).workflowId).map (·.status) ≠ some .running := by
    intro h
    obtain ⟨r, hr, hrunning⟩ := Option.map_eq_some_iff.mp h
    exact hidle r hr hrunning
  rw [startWorkflow_eq_nextRun, hqueue, if_neg Bool.false_ne_true, if_neg hnot]

theorem startWorkflow_of_running {r : ExecutionRecord}
    (hr : s.executions.get? (s.nextRun options).workflowId = some r) (hrunning : r.status = .running)
    (target : String) (ns : Option String) (workflowType : String) (args : List Json) :
    s.startWorkflow target ns workflowType options args =
      (.error (.rpc ⟨.invalidArgument,
          "workflow " ++ (s.nextRun options).workflowId ++ " is already running"⟩),
        { s with starts := s.starts + 1 }.record target .startWorkflow ns) := by
  rw [startWorkflow_eq_nextRun, hqueue, if_neg Bool.false_ne_true,
    if_pos (by rw [hr, Option.map_some, hrunning])]

end

/-- A run is refused, or it is accepted because no run of its workflow id is under way. -/
theorem startWorkflow_cases (s : Server) (target : String) (ns : Option String)
    (workflowType : String) (options : WorkflowOptions) (args : List Json) :
    (∃ error s', s.startWorkflow target ns workflowType options args = (.error error, s') ∧
      Quiet s s') ∨
    (s.startWorkflow target ns workflowType options args =
        (.ok (s.nextRun options),
          s.accept target ns workflowType options args (s.nextRun options)) ∧
      ∀ r, s.executions.get? (s.nextRun options).workflowId = some r → r.status ≠ .running) := by
  rw [startWorkflow_eq_nextRun]
  split
  · exact Or.inl ⟨_, s, rfl, .refl s⟩
  · split
    · exact Or.inl ⟨_, _, rfl, rfl, Nat.le_succ _, Nat.le_refl _⟩
    · rename_i hidle
      refine Or.inr ⟨rfl, fun r hr hrunning => hidle ?_⟩
      rw [hr, Option.map_some, hrunning]

/-- A start changes neither the pollers nor the workers nor the connections. -/
theorem startWorkflow_kept (s : Server) (target : String) (ns : Option String)
    (workflowType : String) (options : WorkflowOptions) (args : List Json) :
    let s' := (s.startWorkflow target ns workflowType options args).2
    s'.pollers = s.pollers ∧ s'.workers = s.workers ∧ s'.connections = s.connections := by
  dsimp only
  rw [startWorkflow_eq_nextRun]
  split
  · exact ⟨rfl, rfl, rfl⟩
  · split
    · exact ⟨rfl, rfl, rfl⟩
    · exact accept_kept ..

/-! ## All requests -/

/-- `Served s x s'` says that serving the request of the exchange `x` can leave the server `s'`. -/
inductive Served (s : Server) : Exchange → Server → Prop
  | quiet {x : Exchange} {s' : Server} (hx : x.started? = none) (h : Quiet s s') : Served s x s'
  | accept (target : String) (ns : Option String) (workflowType : String)
      (options : WorkflowOptions) (args : List Json)
      (h : ∀ r, s.executions.get? (s.nextRun options).workflowId = some r →
        r.status ≠ .running) :
      Served s ⟨.startWorkflow target ns workflowType options args, .ok (s.nextRun options)⟩
        (s.accept target ns workflowType options args (s.nextRun options))
  | attach (target : String) (id : WorkerId) : Served s ⟨.attach target id, ()⟩ (s.attach target id)
  | detach (id : WorkerId) : Served s ⟨.detach id, ()⟩ (s.detach id)

/-- Every request is served in one of these ways. -/
theorem serve_cases (s : Server) (q : Request) : Served s ⟨q, (s.serve q).1⟩ (s.serve q).2 := by
  cases q with
  | startWorkflow target ns workflowType options args =>
    have hserve : s.serve (.startWorkflow target ns workflowType options args) =
        s.startWorkflow target ns workflowType options args := rfl
    rcases startWorkflow_cases s target ns workflowType options args with
      ⟨error, s', heq, hquiet⟩ | ⟨heq, hidle⟩
    · rw [hserve, heq]
      exact .quiet rfl hquiet
    · rw [hserve, heq]
      exact .accept target ns workflowType options args hidle
  | subscribe e => exact .quiet rfl (.refl s)
  | takeAnswer sub => exact .quiet rfl (.refl s)
  | fetchHistory target ns e => exact .quiet rfl (quiet_record ..)
  | describe target ns e => exact .quiet rfl (quiet_record ..)
  | update target workflowId name => exact .quiet rfl (quiet_record ..)
  | addWorker queue => exact .quiet rfl (quiet_addWorker ..)
  | updateWorker id change => exact .quiet rfl (quiet_updateWorker ..)
  | attach target id => exact .attach target id
  | detach id => exact .detach id
  | connect target => exact .quiet rfl (quiet_connect ..)
  | release target operation => exact .quiet rfl (quiet_release ..)
  | closeConnection id => exact .quiet rfl (quiet_closeConnection ..)

end Conformance.Server
