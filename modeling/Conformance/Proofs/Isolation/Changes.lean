import Conformance.Proofs.Isolation.Shares

/-!
# Changes within a share

What an action does is put together from changes of one table or one list at a time. Each of them is seen
in one share only, and made in two servers with the same share it leaves the same share.

## Main statements

- `Server.Share.moves_finish`, `Server.Share.mirrors_finish` — a run ends
- `Server.Share.moves_dispatch`, `Server.Share.mirrors_dispatch` — a run is handed to a worker, or kept
- `Server.Share.moves_modifyWorker`, `Server.Share.mirrors_modifyWorker` — a worker changes
-/

namespace Conformance.Server.Share

variable {E : Share} {ν : Renaming} {s s' : Server}

theorem worker?_modifyWorker (s : Server) (w : WorkerId) (f : Worker → Worker) (v : WorkerId) :
    (s.modifyWorker w f).worker? v = if w = v then (s.worker? v).map f else s.worker? v := by
  unfold worker? modifyWorker
  rw [List.getElem?_modify]
  split
  · rfl
  · exact Option.map_id_apply

theorem worker?_addWorker_of_some {w : WorkerId} {x : Worker} (h : s.worker? w = some x)
    (queue : String) : (s.addWorker queue).2.worker? w = some x := by
  obtain ⟨hlt, -⟩ := List.getElem?_eq_some_iff.mp h
  exact (List.getElem?_append_left hlt).trans h

theorem worker?_addWorker_self (s : Server) (queue : String) :
    (s.addWorker queue).2.worker? s.workers.length = some { taskQueue := queue } :=
  List.getElem?_concat_length

theorem worker?_addWorker_cases {queue : String} {w : WorkerId} {x : Worker}
    (h : (s.addWorker queue).2.worker? w = some x) :
    s.worker? w = some x ∨ w = s.workers.length ∧ x = { taskQueue := queue } := by
  rcases Nat.lt_or_ge w s.workers.length with hlt | hge
  · exact .inl ((List.getElem?_append_left hlt).symm.trans h)
  · obtain ⟨hlt, -⟩ := List.getElem?_eq_some_iff.mp h
    have hlength : (s.addWorker queue).2.workers.length = s.workers.length + 1 := List.length_append
    obtain rfl : w = s.workers.length := Nat.le_antisymm (by omega) hge
    rw [worker?_addWorker_self] at h
    exact .inr ⟨rfl, (Option.some.inj h).symm⟩

/-! ## Nothing else has changed -/

section

variable (h : E.Holds s)
include h

theorem moves_counted (starts : Nat) (calls : List Call) :
    E.Moves s { s with starts, calls } :=
  { Moves.refl h with holds := ⟨h.records, h.pollers, h.waiting, h.tasks⟩ }

theorem moves_insert {id : String} {r : ExecutionRecord} {n : Nat} (hid : E.ids id) (hn : E.runs n)
    (hr : r.execution = ⟨id, runIdOf n⟩) :
    E.Moves s { s with executions := s.executions.insert id r } :=
  { Moves.refl h with
    executions := fun id' hid' => Table.get?_insert_of_ne _ _ fun heq => hid' (heq ▸ hid)
    holds :=
      { h with
        records := fun id' r' hid' hr' => by
          rw [Table.get?_insert] at hr'
          split at hr'
          · rename_i heq
            cases hr'
            exact ⟨n, hn, heq ▸ hr⟩
          · exact h.records id' r' hid' hr' } }

theorem moves_complete {n : Nat} (hn : E.runs n) (c : Completion) :
    E.Moves s { s with completions := s.completions.insert (runIdOf n) c } :=
  { Moves.refl h with
    completions := fun m hm => by
      refine Table.get?_insert_of_ne _ _ fun heq => hm ?_
      rwa [← runIdOf_inj heq]
    holds := ⟨h.records, h.pollers, h.waiting, h.tasks⟩ }

theorem moves_modifyExecution {id : String} (hid : E.ids id) {f : ExecutionRecord → ExecutionRecord}
    (hf : ∀ r, (f r).execution = r.execution) : E.Moves s (s.modifyExecution id f) := by
  have hget : ∀ id', (s.modifyExecution id f).executions.get? id' =
      if id = id' then (s.executions.get? id).map f else s.executions.get? id' :=
    fun id' => Table.get?_modify ..
  refine { Moves.refl h with
    executions := fun id' hid' => ?_
    holds := { h with records := fun id' r hid' hr => ?_ } }
  · rw [hget, if_neg]
    rintro rfl
    exact hid' hid
  · rw [hget] at hr
    split at hr
    · rename_i heq
      subst heq
      obtain ⟨old, hold, rfl⟩ := Option.map_eq_some_iff.mp hr
      obtain ⟨n, hn, hsame⟩ := h.records id old hid' hold
      exact ⟨n, hn, (hf old).trans hsame⟩
    · exact h.records id' r hid' hr

theorem moves_finish {id : String} (hid : E.ids id) (c : Completion) :
    E.Moves s (s.finish id c) := by
  unfold finish
  split
  · exact .refl h
  · rename_i r hr
    obtain ⟨n, hn, hrun⟩ := h.records id r hid hr
    have hfinished : (r.finish c).execution = ⟨id, runIdOf n⟩ :=
      (sameRun_finish r c).execution.trans hrun
    have hinsert := moves_insert h hid hn hfinished
    rw [hrun]
    exact hinsert.trans (moves_complete hinsert.holds hn c)

theorem moves_pollers (pollers : Table String WorkerId)
    (hout : ∀ queue, ¬ E.queues queue → pollers.get? queue = s.pollers.get? queue)
    (hin : ∀ queue w, E.queues queue → pollers.get? queue = some w → E.Employs s w) :
    E.Moves s { s with pollers } :=
  { Moves.refl h with pollers := hout, holds := { h with pollers := hin } }

theorem moves_pending (pending : Table String (List String))
    (hout : ∀ queue, ¬ E.queues queue → pending.get? queue = s.pending.get? queue)
    (hin : ∀ queue, E.queues queue → ∀ id ∈ (pending.get? queue).getD [], E.ids id) :
    E.Moves s { s with pending } :=
  { Moves.refl h with pending := hout, holds := { h with waiting := hin } }

theorem moves_tasks (tasks : List WorkflowTask)
    (hout : ∀ t, ¬ E.ids t.workflowId → (t ∈ tasks ↔ t ∈ s.tasks))
    (hin : ∀ t ∈ tasks, E.ids t.workflowId → E.Employs s t.worker) : E.Moves s { s with tasks } :=
  { Moves.refl h with tasks := hout, holds := { h with tasks := hin } }

theorem moves_workers {workers : List Worker}
    (hout : ∀ w x, ¬ E.queues x.taskQueue → (workers[w]? = some x ↔ s.worker? w = some x))
    (hqueues : ∀ w x, s.worker? w = some x →
      ∃ x', workers[w]? = some x' ∧ x'.taskQueue = x.taskQueue) :
    E.Moves s { s with workers } := by
  have hemploys : ∀ w, E.Employs s w → E.Employs { s with workers } w := by
    rintro w ⟨x, hx, hqueue⟩
    obtain ⟨x', hx', hsame⟩ := hqueues w x hx
    exact ⟨x', hx', hsame ▸ hqueue⟩
  exact
    { Moves.refl h with
      workers := hout
      queues := hqueues
      holds :=
        { h with
          pollers := fun queue w hqueue hw => hemploys w (h.pollers queue w hqueue hw)
          tasks := fun t ht hid => hemploys _ (h.tasks t ht hid) } }

theorem moves_addWorker {queue : String} (hqueue : E.queues queue) :
    E.Moves s (s.addWorker queue).2 := by
  refine moves_workers h (fun w x hx => ⟨fun hnew => ?_, fun hold => ?_⟩) fun w x hx => ?_
  · rcases worker?_addWorker_cases hnew with hold | ⟨-, rfl⟩
    · exact hold
    · exact absurd hqueue hx
  · exact worker?_addWorker_of_some hold queue
  · exact ⟨x, worker?_addWorker_of_some hx queue, rfl⟩

theorem moves_modifyWorker {w : WorkerId} (hw : E.Employs s w) {f : Worker → Worker}
    (hf : ∀ x, s.worker? w = some x → (f x).taskQueue = x.taskQueue) :
    E.Moves s (s.modifyWorker w f) := by
  obtain ⟨x, hx, hqueue⟩ := hw
  have hself : (s.modifyWorker w f).worker? w = some (f x) := by
    rw [worker?_modifyWorker, if_pos rfl, hx]
    rfl
  refine moves_workers h (fun v y hy => ?_) fun v y hy => ?_
  · show (s.modifyWorker w f).worker? v = some y ↔ _
    by_cases heq : w = v
    · subst heq
      rw [hself, hx]
      refine iff_of_false (fun hnew => hy ?_) fun hold => hy ?_
      · cases hnew
        rwa [hf x hx]
      · cases hold
        exact hqueue
    · rw [worker?_modifyWorker, if_neg heq]
  · by_cases heq : w = v
    · subst heq
      cases hx.symm.trans hy
      exact ⟨f x, hself, hf x hx⟩
    · refine ⟨y, ?_, rfl⟩
      show (s.modifyWorker w f).worker? v = some y
      rw [worker?_modifyWorker, if_neg heq, hy]

theorem moves_dispatch {queue id : String} (hqueue : E.queues queue) (hid : E.ids id) :
    E.Moves s (s.dispatch queue id) := by
  unfold dispatch
  split
  · rename_i w hw
    refine moves_tasks h _ (fun t ht => ?_) fun t ht htask => ?_
    · rw [List.mem_append, List.mem_singleton]
      exact or_iff_left fun heq => ht (heq ▸ hid)
    · rcases List.mem_append.mp ht with ht | ht
      · exact h.tasks t ht htask
      · rw [List.mem_singleton.mp ht]
        exact h.pollers queue w hqueue hw
  · refine moves_pending h _ (fun q hq => ?_) fun q hq id' hid' => ?_
    · exact Table.get?_insert_of_ne _ _ fun heq => hq (heq ▸ hqueue)
    · rw [Table.get?_insert] at hid'
      split at hid'
      · rcases List.mem_append.mp hid' with hid' | hid'
        · exact h.waiting queue hqueue id' hid'
        · exact List.mem_singleton.mp hid' ▸ hid
      · exact h.waiting q hq id' hid'

end

/-! ## The same changes in two servers -/

section

variable (m : E.Mirrors ν s s')
include m

theorem mirrors_counted (starts starts' : Nat) (calls calls' : List Call) :
    E.Mirrors ν { s with starts, calls } { s' with starts := starts', calls := calls' } :=
  ⟨m.support, m.failing, m.executions, m.completions, m.pollers, m.pending, m.workers, m.tasks⟩

theorem mirrors_insert (id : String) (r : ExecutionRecord) :
    E.Mirrors ν { s with executions := s.executions.insert id r }
      { s' with executions := s'.executions.insert id (ν.record r) } :=
  { m with
    executions := fun id' hid' => by
      rw [Table.get?_insert, Table.get?_insert]
      split
      · rfl
      · exact m.executions id' hid' }

theorem mirrors_complete (n : Nat) (c : Completion) :
    E.Mirrors ν { s with completions := s.completions.insert (runIdOf n) c }
      { s' with completions := s'.completions.insert (runIdOf (ν.runs n)) c } :=
  { m with
    completions := fun k hk => by
      have hsame : runIdOf (ν.runs n) = runIdOf (ν.runs k) ↔ runIdOf n = runIdOf k := by
        rw [← ν.runId_runIdOf, ← ν.runId_runIdOf, ν.runId_inj]
      rw [Table.get?_insert, Table.get?_insert]
      by_cases heq : runIdOf n = runIdOf k
      · rw [if_pos heq, if_pos (hsame.mpr heq)]
      · rw [if_neg heq, if_neg (mt hsame.mp heq)]
        exact m.completions k hk }

theorem mirrors_modifyExecution {id : String} (hid : E.ids id)
    (f : ExecutionRecord → ExecutionRecord) (hf : ∀ r, f (ν.record r) = ν.record (f r)) :
    E.Mirrors ν (s.modifyExecution id f) (s'.modifyExecution id f) :=
  { m with
    executions := fun id' hid' => by
      show (s'.executions.modify id f).get? id' = ((s.executions.modify id f).get? id').map ν.record
      rw [Table.get?_modify, Table.get?_modify]
      split
      · rw [m.executions id hid, Option.map_map, Option.map_map]
        exact congrArg (fun g => Option.map g _) (funext hf)
      · exact m.executions id' hid' }

theorem mirrors_finish (h : E.Holds s) {id : String} (hid : E.ids id) (c : Completion) :
    E.Mirrors ν (s.finish id c) (s'.finish id c) := by
  unfold finish
  rw [m.executions id hid]
  cases hr : s.executions.get? id with
  | none => exact m
  | some r =>
    obtain ⟨n, -, hrun⟩ := h.records id r hid hr
    have hrunId : (ν.record r).execution.runId = runIdOf (ν.runs n) := by
      show ν.runId r.execution.runId = _
      rw [hrun, ν.runId_runIdOf]
    dsimp only [Option.map]
    rw [ν.finish_record, hrunId, hrun]
    exact mirrors_complete (mirrors_insert m id (r.finish c)) n c

theorem mirrors_pollers (pollers pollers' : Table String WorkerId)
    (hpollers : ∀ queue, E.queues queue →
      pollers'.get? queue = (pollers.get? queue).map ν.workers) :
    E.Mirrors ν { s with pollers } { s' with pollers := pollers' } :=
  { m with pollers := hpollers }

theorem mirrors_pending (pending pending' : Table String (List String))
    (hpending : ∀ queue, E.queues queue → pending'.get? queue = pending.get? queue) :
    E.Mirrors ν { s with pending } { s' with pending := pending' } :=
  { m with pending := hpending }

theorem mirrors_tasks (tasks tasks' : List WorkflowTask)
    (htasks : ∀ t, E.ids t.workflowId → (t ∈ tasks ↔ ν.task t ∈ tasks')) :
    E.Mirrors ν { s with tasks } { s' with tasks := tasks' } :=
  { m with tasks := htasks }

theorem waiting_of_mirrors {queue : String} (hqueue : E.queues queue) :
    s'.waiting queue = s.waiting queue := by
  rw [waiting, m.pending queue hqueue]
  rfl

theorem mirrors_modifyWorker {w : WorkerId} {x : Worker} (hx : s.worker? w = some x)
    (hqueue : E.queues x.taskQueue) (f : Worker → Worker) :
    E.Mirrors ν (s.modifyWorker w f) (s'.modifyWorker (ν.workers w) f) :=
  { m with
    workers := fun v y hy hv => by
      rw [worker?_modifyWorker] at hy ⊢
      by_cases heq : w = v
      · subst heq
        rw [if_pos rfl, hx] at hy
        rw [if_pos rfl, m.workers w x hx hqueue]
        exact hy
      · rw [if_neg heq] at hy
        rw [if_neg (ν.workers.injective.ne heq)]
        exact m.workers v y hy hv }

theorem mirrors_addWorker (hnew : ν.workers s.workers.length = s'.workers.length) (queue : String) :
    E.Mirrors ν (s.addWorker queue).2 (s'.addWorker queue).2 :=
  { m with
    workers := fun w x hx hqueue => by
      rcases worker?_addWorker_cases hx with hold | ⟨rfl, rfl⟩
      · exact worker?_addWorker_of_some (m.workers w x hold hqueue) queue
      · rw [hnew]
        exact worker?_addWorker_self s' queue }

theorem mirrors_dispatch {queue id : String} (hqueue : E.queues queue) :
    E.Mirrors ν (s.dispatch queue id) (s'.dispatch queue id) := by
  unfold dispatch
  rw [m.pollers queue hqueue, waiting_of_mirrors m hqueue]
  cases hw : s.pollers.get? queue with
  | none =>
    refine mirrors_pending m _ _ fun q hq => ?_
    rw [Table.get?_insert, Table.get?_insert, m.pending q hq]
  | some w =>
    refine mirrors_tasks m _ _ fun t ht => ?_
    have hnew : ν.task t = ν.task ⟨id, w, .fresh, none⟩ ↔ t = ⟨id, w, .fresh, none⟩ := ν.task_inj
    rw [List.mem_append, List.mem_append, m.tasks t ht, List.mem_singleton, List.mem_singleton]
    exact or_congr_right hnew.symm

end

end Conformance.Server.Share
