import Conformance.Proofs.Server.Numbering

/-!
# What a server holds

A server holds open connections and polling workers. Most requests, and all steps of tasks, only
ever let go of them; a few requests open something new.

## Main definitions

- `Server.Releases` — nothing is held that was not held before
- `Server.Request.Harmless` — requests that open nothing

## Main statements

- `Server.releases_of_run` — a run with harmless requests opens nothing
- `Server.worker_of_poller` — only workers of the server poll
-/

namespace Conformance

/-! ## Lists with one element changed -/

section

variable {α β : Type} {l : List α} {i : Nat} {f : α → α} {g : α → β}

theorem getElem?_map_modify {x : α} (hx : l[i]? = some x) (j : Nat) :
    ((l.modify i f).map g)[j]? = if i = j then some (g (f x)) else (l.map g)[j]? := by
  by_cases h : i = j
  · subst h
    rw [if_pos rfl, List.getElem?_map, List.getElem?_modify_eq, hx]
    rfl
  · rw [if_neg h, List.getElem?_map, List.getElem?_modify_ne _ _ h, List.getElem?_map]

/-- A change that cannot be seen through `g`. -/
theorem map_modify_of_same (h : ∀ x, l[i]? = some x → g (f x) = g x) :
    (l.modify i f).map g = l.map g := by
  by_cases hi : i < l.length
  · have hx : l[i]? = some l[i] := List.getElem?_eq_getElem hi
    ext1 j
    rw [getElem?_map_modify hx, h _ hx]
    by_cases hj : i = j
    · subst hj
      rw [if_pos rfl, List.getElem?_map, hx]
      rfl
    · rw [if_neg hj]
  · rw [List.modify_eq_self (Nat.le_of_not_lt hi)]

end

namespace Server

/-- The address of a connection, among all addresses. -/
theorem targetOf_eq_getD (s : Server) (id : ConnectionId) :
    s.targetOf id = ((s.connections.map (·.target))[id]?).getD "" := by
  rw [List.getElem?_map]
  unfold targetOf
  cases s.connections[id]? <;> rfl

/-! ## Letting go -/

/-- Open connections were open before, pollers polled before, and the workers are the same, each on
its task queue. -/
structure Releases (s s' : Server) : Prop where
  connections : ∀ id, s'.isOpen id = true → s.isOpen id = true
  pollers : ∀ queue id, s'.pollers.get? queue = some id → s.pollers.get? queue = some id
  queues : s'.workers.map (·.taskQueue) = s.workers.map (·.taskQueue)

theorem Releases.length_workers {s s' : Server} (h : Releases s s') :
    s'.workers.length = s.workers.length := by
  have hlength := congrArg List.length h.queues
  rwa [List.length_map, List.length_map] at hlength

theorem Releases.refl (s : Server) : Releases s s := ⟨fun _ h => h, fun _ _ h => h, rfl⟩

theorem Releases.trans {s s' s'' : Server} (h : Releases s s') (h' : Releases s' s'') :
    Releases s s'' where
  connections id hopen := h.connections id (h'.connections id hopen)
  pollers queue id hid := h.pollers queue id (h'.pollers queue id hid)
  queues := h'.queues.trans h.queues

theorem releases_of_same {s s' : Server} (hconnections : s'.connections = s.connections)
    (hpollers : s'.pollers = s.pollers)
    (hqueues : s'.workers.map (·.taskQueue) = s.workers.map (·.taskQueue)) : Releases s s' where
  connections id hopen := by
    rwa [isOpen, hconnections] at hopen
  pollers queue id hid := by
    rwa [hpollers] at hid
  queues := hqueues

/-- A task neither opens anything nor changes a queue. -/
theorem SameSetting.releases {s s' : Server} (h : SameSetting s s') : Releases s s' := by
  refine releases_of_same h.connections h.pollers ?_
  have hqueues : ∀ workers : List Worker,
      (workers.map Worker.uncounted).map (·.taskQueue) = workers.map (·.taskQueue) := by
    intro workers
    rw [List.map_map]
    rfl
  rw [← hqueues s'.workers, h.workers, hqueues]

/-! ## Requests -/

/-- The request opens no connection, makes no worker and lets none poll, and it leaves workers on
their queues. -/
def Request.Harmless : Request → Prop
  | .connect .. | .addWorker .. | .attach .. => False
  | .updateWorker _ change => ∀ w w', change w = .ok w' → w'.taskQueue = w.taskQueue
  | _ => True

theorem releases_detach (s : Server) (id : WorkerId) : Releases s (s.detach id) := by
  unfold detach
  split
  · exact .refl s
  · split
    · refine ⟨fun _ h => h, ?_, rfl⟩
      intro queue id' hid
      rw [Table.get?_erase] at hid
      split at hid
      · cases hid
      · exact hid
    · exact .refl s

/-- A connection that is shut down is not open, and the others are as they were. -/
theorem isOpen_closeConnection (s : Server) (id id' : ConnectionId) :
    (s.closeConnection id).2.isOpen id' = (s.isOpen id' && decide (id ≠ id')) := by
  have hconnections : (s.closeConnection id).2.connections =
      s.connections.modify id fun c => { c with isOpen := false } := by
    unfold closeConnection release
    dsimp only
    split <;> rfl
  rw [isOpen, hconnections, List.getElem?_modify, isOpen]
  by_cases h : id = id'
  · subst h
    cases s.connections[id]? <;> simp
  · cases s.connections[id']? <;> simp [h]

theorem releases_closeConnection (s : Server) (id : ConnectionId) :
    Releases s (s.closeConnection id).2 := by
  have hsame : (s.closeConnection id).2.pollers = s.pollers ∧
      (s.closeConnection id).2.workers = s.workers := by
    unfold closeConnection release
    dsimp only
    split <;> exact ⟨rfl, rfl⟩
  refine ⟨?_, ?_, congrArg _ hsame.2⟩
  · intro id' hopen
    rw [isOpen_closeConnection, Bool.and_eq_true] at hopen
    exact hopen.1
  · intro queue id' hid
    rwa [hsame.1] at hid

theorem releases_updateWorker (s : Server) (id : WorkerId) (change : Worker → Except Error Worker)
    (hchange : ∀ w w', change w = .ok w' → w'.taskQueue = w.taskQueue) :
    Releases s (s.updateWorker id change).2 := by
  unfold updateWorker
  split
  · exact .refl s
  · rename_i w hw
    split
    · exact .refl s
    · rename_i w' hw'
      refine releases_of_same rfl rfl (map_modify_of_same ?_)
      intro x hx
      obtain rfl : w = x := Option.some.inj (hw.symm.trans hx)
      exact hchange w w' hw'

theorem releases_startWorkflow (s : Server) (target : String) (ns : Option String)
    (workflowType : String) (options : WorkflowOptions) (args : List Json) :
    Releases s (s.startWorkflow target ns workflowType options args).2 := by
  obtain ⟨hpollers, hworkers, hconnections⟩ :=
    startWorkflow_kept s target ns workflowType options args
  exact releases_of_same hconnections hpollers (congrArg (List.map (·.taskQueue)) hworkers)

/-- A harmless request only lets go. -/
theorem releases_serve (s : Server) (q : Request) (h : q.Harmless) : Releases s (s.serve q).2 := by
  cases q with
  | startWorkflow target ns workflowType options args =>
    exact releases_startWorkflow s target ns workflowType options args
  | subscribe e => exact .refl s
  | takeAnswer sub => exact .refl s
  | fetchHistory target ns e => exact releases_of_same rfl rfl rfl
  | describe target ns e => exact releases_of_same rfl rfl rfl
  | update target workflowId name => exact releases_of_same rfl rfl rfl
  | updateWorker id change => exact releases_updateWorker s id change h
  | detach id => exact releases_detach s id
  | release target operation =>
    show Releases s (s.release target operation).2
    unfold release
    dsimp only
    split <;> exact releases_of_same rfl rfl rfl
  | closeConnection id => exact releases_closeConnection s id
  | connect _ | addWorker _ | attach _ _ => exact absurd h id

/-- A run with harmless requests only lets go. -/
theorem releases_of_run {s s' : Server} {log : List Exchange} (h : Run s log s')
    (hlog : ∀ x ∈ log, x.request.Harmless) : Releases s s' := by
  induction h with
  | start => exact .refl s
  | serve _ q ih =>
    have hbefore := ih fun x hx => hlog x (List.mem_append_left _ hx)
    have hq := hlog _ (List.mem_append_right _ List.mem_cons_self)
    exact hbefore.trans (releases_serve _ q hq)
  | task _ hstep ih =>
    have hsetting := (step?_setting hstep).releases
    exact (ih hlog).trans ⟨hsetting.connections, hsetting.pollers, hsetting.queues⟩
  | letThrough _ _ ih => exact (ih hlog).trans (releases_of_same rfl rfl rfl)

/-! ## Requests that open something -/

/-- A worker is changed as it wants to be, or not at all. -/
theorem updateWorker_eq {s : Server} {id : WorkerId} {w : Worker} (hw : s.worker? id = some w)
    (change : Worker → Except Error Worker) :
    s.updateWorker id change =
      match change w with
      | .ok w' => (.ok (), s.modifyWorker id fun _ => w')
      | .error e => (.error e, s) := by
  unfold updateWorker
  rw [hw]
  dsimp only
  cases change w <;> rfl

/-- A connection is refused, or it is opened under the next number. -/
theorem connect_cases (s : Server) (target : String) :
    (∃ error, s.connect target = (.error error, s)) ∨
      s.connect target =
        (.ok s.connections.length, { s with connections := s.connections ++ [{ target }] }) := by
  unfold connect
  split
  · exact Or.inl ⟨_, rfl⟩
  · exact Or.inr rfl

theorem isOpen_append {s s' : Server} {c : Connection}
    (h : s'.connections = s.connections ++ [c]) {id : Nat} (hopen : s'.isOpen id = true) :
    s.isOpen id = true ∨ id = s.connections.length := by
  rw [isOpen, h, List.getElem?_append] at hopen
  by_cases hlt : id < s.connections.length
  · rw [if_pos hlt] at hopen
    exact Or.inl hopen
  · rw [if_neg hlt] at hopen
    refine Or.inr ?_
    by_cases heq : id - s.connections.length = 0
    · omega
    · rw [List.getElem?_eq_none (by rw [List.length_singleton]; omega)] at hopen
      cases hopen

/-- An open connection has a number that has been given out. -/
theorem lt_of_isOpen {s : Server} {id : ConnectionId} (h : s.isOpen id = true) :
    id < s.connections.length := by
  unfold isOpen at h
  split at h
  · rename_i c hc
    exact (List.getElem?_eq_some_iff.mp hc).1
  · cases h

/-! ## Pollers are workers -/

/-- Every queue is polled by a worker of the server, if at all. -/
def PolledByWorkers (s : Server) : Prop :=
  ∀ queue id, s.pollers.get? queue = some id → id < s.workers.length

theorem PolledByWorkers.of_same {s s' : Server} (h : PolledByWorkers s)
    (hpollers : ∀ queue id, s'.pollers.get? queue = some id → s.pollers.get? queue = some id)
    (hworkers : s.workers.length ≤ s'.workers.length) : PolledByWorkers s' :=
  fun queue id hid => Nat.lt_of_lt_of_le (h queue id (hpollers queue id hid)) hworkers

theorem PolledByWorkers.serve {s s' : Server} (h : PolledByWorkers s) {x : Exchange}
    (hx : Served s x s') : PolledByWorkers s' := by
  cases hx with
  | quiet _ hquiet =>
    refine h.of_same ?_ hquiet.workers
    rw [hquiet.pollers]
    exact fun _ _ hid => hid
  | accept target ns workflowType options args _ =>
    obtain ⟨hpollers, hworkers, -⟩ :=
      accept_kept s target ns workflowType options args (s.nextRun options)
    refine h.of_same ?_ (Nat.le_of_eq (congrArg _ hworkers.symm))
    rw [hpollers]
    exact fun _ _ hid => hid
  | attach target id =>
    cases hw : s.worker? id with
    | none =>
      rw [Server.attach, hw]
      exact h
    | some w =>
      rw [attach_eq hw]
      intro queue id' hid
      rw [Table.get?_insert] at hid
      split at hid
      · cases hid
        exact (List.getElem?_eq_some_iff.mp hw).1
      · exact h queue id' hid
  | detach id =>
    have hreleases := releases_detach s id
    exact h.of_same hreleases.pollers (Nat.le_of_eq hreleases.length_workers.symm)

/-- Only workers of the server poll. -/
theorem worker_of_poller {s₀ s : Server} {log : List Exchange} (h₀ : Fresh s₀)
    (h : Run s₀ log s) : PolledByWorkers s := by
  induction h with
  | start =>
    obtain ⟨updateSupport, refused, failingShutdown, rfl⟩ := h₀
    intro queue id hid
    cases hid
  | serve _ q ih => exact ih.serve (serve_cases _ q)
  | task _ hstep ih =>
    have hreleases := (step?_setting hstep).releases
    exact ih.of_same hreleases.pollers (Nat.le_of_eq hreleases.length_workers.symm)
  | letThrough _ _ ih => exact ih

end Server

end Conformance
