import Conformance.Proofs.Isolation.Changes

/-!
# Requests within a share

A request on a share changes nothing outside it. Two servers with the same share answer it in the same
way, up to numbers, and have the same share afterwards.

## Main definitions

- `Server.Request.takesRun`, `Server.Request.makesWorker` — the requests that take a number

## Main statements

- `Server.counts_serve` — the numbers that are taken
- `Server.Share.moves_serve` — nothing else changes
- `Server.Share.mirrors_serve` — the answers are the same, and so are the shares
-/

namespace Conformance.Server

/-! ## Numbers that requests take -/

/-- The request takes the number of a run, whether the run is accepted or not. -/
def Request.takesRun : Request → Bool
  | .startWorkflow _ _ _ options _ => !options.taskQueue.isEmpty
  | _ => false

def Request.makesWorker : Request → Bool
  | .addWorker _ => true
  | _ => false

theorem starts_startWorkflow (s : Server) (target : String) (ns : Option String)
    (workflowType : String) (options : WorkflowOptions) (args : List Json) :
    (s.startWorkflow target ns workflowType options args).2.starts =
      s.starts + (!options.taskQueue.isEmpty).toNat := by
  rw [startWorkflow_eq_nextRun]
  split
  · rename_i hempty
    rw [hempty]
    rfl
  · rename_i hempty
    rw [Bool.eq_false_iff.mpr hempty]
    split
    · rfl
    · exact starts_accept s target ns workflowType options args (s.nextRun options)

/-- The counts of runs and of workers after a request. -/
theorem counts_serve (s : Server) (q : Request) :
    (s.serve q).2.starts = s.starts + q.takesRun.toNat ∧
      (s.serve q).2.workers.length = s.workers.length + q.makesWorker.toNat := by
  cases q with
  | startWorkflow target ns workflowType options args =>
    exact ⟨starts_startWorkflow .., congrArg List.length (startWorkflow_kept ..).2.1⟩
  | subscribe e | takeAnswer sub | fetchHistory target ns e | describe target ns e
  | update target id name => exact ⟨rfl, rfl⟩
  | addWorker queue => exact ⟨rfl, List.length_append⟩
  | updateWorker id change =>
    dsimp only [serve, updateWorker]
    split
    · exact ⟨rfl, rfl⟩
    · split
      · exact ⟨rfl, rfl⟩
      · exact ⟨rfl, List.length_modify ..⟩
  | attach target id =>
    dsimp only [serve, attach]
    split
    · exact ⟨rfl, rfl⟩
    · rw [spawnAll_eq]
      exact ⟨rfl, rfl⟩
  | detach id =>
    dsimp only [serve]
    rw [detach_eq]
    exact ⟨rfl, rfl⟩
  | connect target =>
    dsimp only [serve, connect]
    split <;> exact ⟨rfl, rfl⟩
  | release target operation | closeConnection id =>
    dsimp only [serve, closeConnection, release]
    split <;> exact ⟨rfl, rfl⟩

/-- A run with a workflow id of its own is refused, or it is accepted with the next number. -/
theorem startWorkflow_eq {s : Server} {target workflowType : String} {ns : Option String}
    {options : WorkflowOptions} {args : List Json} {id : String}
    (hsome : options.workflowId = some id) :
    s.startWorkflow target ns workflowType options args =
      if options.taskQueue.isEmpty then
        (.error (.rpc ⟨.invalidArgument, "task queue is not set"⟩), s)
      else if (s.executions.get? id).map (·.status) = some .running then
        (.error (.rpc ⟨.invalidArgument, "workflow " ++ id ++ " is already running"⟩),
          { s with starts := s.starts + 1, calls := s.calls ++ [⟨target, .startWorkflow, ns⟩] })
      else
        (.ok ⟨id, runIdOf (s.starts + 1)⟩,
          s.accept target ns workflowType options args ⟨id, runIdOf (s.starts + 1)⟩) := by
  have hnext : s.nextRun options = ⟨id, runIdOf (s.starts + 1)⟩ := by rw [nextRun, hsome]; rfl
  rw [startWorkflow_eq_nextRun, hnext]
  rfl

namespace Renaming

variable {ν : Renaming} {α β γ δ : Type} {R : α → β → Prop} {S : γ → δ → Prop}
  {x : Except Error α} {y : Except Error β}

theorem Results.map (h : ν.Results R x y) {f : α → γ} {g : β → δ}
    (hfg : ∀ a b, R a b → S (f a) (g b)) : ν.Results S (x.map f) (y.map g) := by
  cases h with
  | ok h => exact .ok (hfg _ _ h)
  | error h => exact .error h

theorem results_eq {x : Except Error α} : ν.Results Eq x x := by
  cases x with
  | ok a => exact .ok rfl
  | error e => exact .error (.same e)

end Renaming

namespace Share

variable {E : Share} {ν : Renaming} {s s' : Server}

/-! ## Nothing else changes -/

section

variable (h : E.Holds s)
include h

theorem moves_startWorkflow {target workflowType : String} {ns : Option String}
    {options : WorkflowOptions} {args : List Json} {id : String}
    (hqueue : E.queues options.taskQueue) (hsome : options.workflowId = some id) (hid : E.ids id)
    (hnew : options.taskQueue.isEmpty = false → E.runs (s.starts + 1)) :
    E.Moves s (s.startWorkflow target ns workflowType options args).2 := by
  rw [startWorkflow_eq hsome]
  have hcounted := moves_counted h (s.starts + 1) (s.calls ++ [⟨target, .startWorkflow, ns⟩])
  split
  · exact .refl h
  · rename_i hempty
    split
    · exact hcounted
    · have hinserted := moves_insert hcounted.holds hid (hnew (Bool.eq_false_iff.mpr hempty))
        (rfl : (newRecord ⟨id, runIdOf (s.starts + 1)⟩ workflowType options args).execution = _)
      exact (hcounted.trans hinserted).trans (moves_dispatch hinserted.holds hqueue hid)

theorem moves_attach {w : WorkerId} (hw : E.Employs s w) (target : String) :
    E.Moves s (s.attach target w) := by
  obtain ⟨x, hx, hqueue⟩ := id hw
  have hother : ∀ q, ¬ E.queues q → x.taskQueue ≠ q := fun q hq heq => hq (heq ▸ hqueue)
  have hcounted := moves_counted h s.starts (s.calls ++ [⟨target, .pollTaskQueue, none⟩])
  have hpolled := moves_pollers hcounted.holds (s.pollers.insert x.taskQueue w)
    (fun q hq => Table.get?_insert_of_ne _ _ (hother q hq)) fun q v hq hv => by
      rw [Table.get?_insert] at hv
      split at hv
      · exact Option.some.inj hv ▸ hw
      · exact h.pollers q v hq hv
  have hfetched := moves_pending hpolled.holds (s.pending.erase x.taskQueue)
    (fun q hq => by rw [Table.get?_erase, if_neg (hother q hq)]) fun q hq id hid => by
      rw [Table.get?_erase] at hid
      split at hid
      · cases hid
      · exact h.waiting q hq id hid
  rw [attach_eq hx]
  refine ((hcounted.trans hpolled).trans hfetched).trans
    (moves_tasks hfetched.holds _ (fun t ht => ?_) fun t ht hid => ?_)
  · refine List.mem_append.trans (or_iff_left fun hnew => ht ?_)
    obtain ⟨id, hid, rfl⟩ := List.mem_map.mp hnew
    exact h.waiting x.taskQueue hqueue id hid
  · rcases List.mem_append.mp ht with ht | hnew
    · exact h.tasks t ht hid
    · obtain ⟨id, -, rfl⟩ := List.mem_map.mp hnew
      exact hw

theorem moves_detach {w : WorkerId} (hw : E.Employs s w) : E.Moves s (s.detach w) := by
  obtain ⟨x, hx, hqueue⟩ := hw
  have hother : ∀ q, ¬ E.queues q → x.taskQueue ≠ q := fun q hq heq => hq (heq ▸ hqueue)
  unfold detach
  rw [hx]
  dsimp only
  split
  · refine moves_pollers h (s.pollers.erase x.taskQueue) (fun q hq => ?_) fun q v hq hv => ?_
    · rw [Table.get?_erase, if_neg (hother q hq)]
    · rw [Table.get?_erase] at hv
      split at hv
      · cases hv
      · exact h.pollers q v hq hv
  · exact .refl h

theorem moves_updateWorker {w : WorkerId} (hw : E.Employs s w)
    {change : Worker → Except Error Worker}
    (hchange : ∀ x x', change x = .ok x' → x'.taskQueue = x.taskQueue) :
    E.Moves s (s.updateWorker w change).2 := by
  obtain ⟨x, hx, -⟩ := id hw
  rw [updateWorker_eq hx]
  cases hx' : change x with
  | error e => exact .refl h
  | ok x' =>
    refine moves_modifyWorker h hw fun y hy => ?_
    cases hx.symm.trans hy
    exact hchange x x' hx'

theorem moves_release (target : String) (operation : Operation) :
    E.Moves s (s.release target operation).2 := by
  unfold release
  dsimp only
  split <;> exact moves_counted h s.starts _

/-- A request on a share changes nothing outside it. -/
theorem moves_serve {q : Request}
    (hq : (Action.ask q).KeepsTo E.queues E.ids (E.Employs s) E.Awaits)
    (hnew : q.takesRun = true → E.runs (s.starts + 1)) : E.Moves s (s.serve q).2 := by
  cases q with
  | startWorkflow target ns workflowType options args =>
    obtain ⟨hqueue, id, hsome, hid⟩ := hq
    exact moves_startWorkflow h hqueue hsome hid fun hempty => hnew (by simp [Request.takesRun, hempty])
  | subscribe e | takeAnswer sub => exact .refl h
  | fetchHistory target ns e | describe target ns e | update target id name =>
    exact moves_counted h s.starts _
  | addWorker queue => exact moves_addWorker h hq
  | updateWorker w change => exact moves_updateWorker h hq.1 hq.2
  | attach target w => exact moves_attach h hq target
  | detach w => exact moves_detach h hq
  | connect target | closeConnection id => exact hq.elim
  | release target operation => exact moves_release h target operation

end

/-! ## The answers are the same -/

section

variable (m : E.Mirrors ν s s')
include m

theorem status_of_mirrors {id : String} (hid : E.ids id) :
    (s'.executions.get? id).map (·.status) = (s.executions.get? id).map (·.status) := by
  rw [m.executions id hid, Option.map_map]
  rfl

theorem results_addressed {e : Execution} (hid : E.ids e.workflowId) :
    ν.Results (fun r r' => r' = ν.record r) (s.addressed e) (s'.addressed (ν.execution e)) := by
  have hsame : s'.executions.get? (ν.execution e).workflowId = _ := m.executions e.workflowId hid
  unfold addressed
  rw [hsame]
  cases s.executions.get? e.workflowId with
  | none => exact .error (ν.errors_notFound e)
  | some r =>
    dsimp only [Option.map]
    rw [ν.answersTo_record]
    split
    · exact .ok rfl
    · exact .error (ν.errors_notFound e)

theorem isReplaced_of_mirrors {e : Execution} (hid : E.ids e.workflowId) :
    s'.isReplaced (ν.execution e) = s.isReplaced e := by
  have hsame : s'.executions.get? (ν.execution e).workflowId = _ := m.executions e.workflowId hid
  unfold isReplaced
  rw [hsame]
  cases s.executions.get? e.workflowId with
  | none => rfl
  | some r =>
    show (some (ν.runId r.execution.runId) != some (ν.runId e.runId)) =
      (some r.execution.runId != some e.runId)
    simp only [bne, Option.some_beq_some]
    rw [Bool.eq_iff_iff]
    simp [ν.runId_inj]

theorem completions_of_mirrors {sub : Subscription} (hsub : E.Awaits sub) :
    s'.completions.get? (ν.subscription sub).found.runId =
      s.completions.get? sub.found.runId := by
  obtain ⟨-, n, hn, hrun⟩ := hsub
  have hfound : (ν.subscription sub).found.runId = runIdOf (ν.runs n) := by
    show ν.runId sub.found.runId = _
    rw [hrun, ν.runId_runIdOf]
  rw [hfound, m.completions n hn, hrun]

theorem isSettled_of_mirrors {sub : Subscription} (hsub : E.Awaits sub) :
    s'.isSettled (ν.subscription sub) = s.isSettled sub := by
  have hreplaced : s'.isReplaced (ν.subscription sub).found = s.isReplaced sub.found :=
    isReplaced_of_mirrors m hsub.1
  rw [isSettled, isSettled, Table.contains, Table.contains, completions_of_mirrors m hsub, hreplaced]

theorem results_answer {sub : Subscription} (hsub : E.Awaits sub) :
    ν.Results Eq (s.answer sub) (s'.answer (ν.subscription sub)) := by
  have hreplaced : s'.isReplaced (ν.subscription sub).found = s.isReplaced sub.found :=
    isReplaced_of_mirrors m hsub.1
  unfold answer
  rw [completions_of_mirrors m hsub]
  cases s.completions.get? sub.found.runId with
  | some c => cases c <;> exact Renaming.results_eq
  | none =>
    dsimp only
    rw [hreplaced]
    split
    · exact .error (.workflow "workflow " " was replaced before it completed" sub.asked)
    · have htext : ∀ run : String, "workflow " ++ run ++ " timed out after " ++ sub.timeout.text =
          "workflow " ++ run ++ (" timed out after " ++ sub.timeout.text) :=
        fun _ => String.append_assoc
      have htimeout : (ν.subscription sub).timeout = sub.timeout := rfl
      rw [htimeout, htext, htext]
      exact .error (.workflow "workflow " (" timed out after " ++ sub.timeout.text) sub.asked)

theorem updateError_of_mirrors {id : String} (hid : E.ids id) (name : String) :
    s'.updateError id name = s.updateError id name := by
  unfold updateError
  rw [m.support, m.executions id hid]
  cases s.updateSupport with
  | disabled | unimplemented => rfl
  | enabled => cases s.executions.get? id <;> rfl

theorem mirrors_startWorkflow {target workflowType : String} {ns : Option String}
    {options : WorkflowOptions} {args : List Json} {id : String}
    (hqueue : E.queues options.taskQueue) (hsome : options.workflowId = some id) (hid : E.ids id)
    (hnew : options.taskQueue.isEmpty = false → ν.runs (s.starts + 1) = s'.starts + 1) :
    ν.Results (fun e e' => e' = ν.execution e)
        (s.startWorkflow target ns workflowType options args).1
        (s'.startWorkflow target ns workflowType options args).1 ∧
      E.Mirrors ν (s.startWorkflow target ns workflowType options args).2
        (s'.startWorkflow target ns workflowType options args).2 := by
  rw [startWorkflow_eq hsome, startWorkflow_eq hsome]
  have hstatus := status_of_mirrors m hid
  have hcounted := mirrors_counted m (s.starts + 1) (s'.starts + 1)
    (s.calls ++ [⟨target, .startWorkflow, ns⟩]) (s'.calls ++ [⟨target, .startWorkflow, ns⟩])
  by_cases hempty : options.taskQueue.isEmpty
  · rw [if_pos hempty, if_pos hempty]
    exact ⟨.error (.same _), m⟩
  · rw [if_neg hempty, if_neg hempty]
    by_cases hrunning : (s.executions.get? id).map (·.status) = some .running
    · rw [if_pos hrunning, if_pos (hstatus.trans hrunning)]
      exact ⟨.error (.same _), hcounted⟩
    · rw [if_neg hrunning, if_neg (mt hstatus.symm.trans hrunning)]
      have hrun : ν.execution ⟨id, runIdOf (s.starts + 1)⟩ = ⟨id, runIdOf (s'.starts + 1)⟩ := by
        rw [Renaming.execution, ν.runId_runIdOf, hnew (Bool.eq_false_iff.mpr hempty)]
      have hrecord : ν.record (newRecord ⟨id, runIdOf (s.starts + 1)⟩ workflowType options args) =
          newRecord ⟨id, runIdOf (s'.starts + 1)⟩ workflowType options args := by
        rw [← hrun]
        rfl
      have hinserted := mirrors_insert hcounted id
        (newRecord ⟨id, runIdOf (s.starts + 1)⟩ workflowType options args)
      rw [hrecord] at hinserted
      exact ⟨.ok hrun.symm, mirrors_dispatch hinserted hqueue⟩

theorem mirrors_attach {w : WorkerId} (hw : E.Employs s w) (target : String) :
    E.Mirrors ν (s.attach target w) (s'.attach target (ν.workers w)) := by
  obtain ⟨x, hx, hqueue⟩ := hw
  have hcounted := mirrors_counted m s.starts s'.starts
    (s.calls ++ [⟨target, .pollTaskQueue, none⟩]) (s'.calls ++ [⟨target, .pollTaskQueue, none⟩])
  have hpolled := mirrors_pollers hcounted (s.pollers.insert x.taskQueue w)
    (s'.pollers.insert x.taskQueue (ν.workers w)) fun q hq => by
      rw [Table.get?_insert, Table.get?_insert, m.pollers q hq]
      split <;> rfl
  have hfetched := mirrors_pending hpolled (s.pending.erase x.taskQueue)
    (s'.pending.erase x.taskQueue) fun q hq => by
      rw [Table.get?_erase, Table.get?_erase, m.pending q hq]
  rw [attach_eq hx, attach_eq (m.workers w x hx hqueue), waiting_of_mirrors m hqueue]
  refine mirrors_tasks hfetched _ _ fun t ht => ?_
  -- the new tasks are the same up to the number of the worker
  have hnew : ∀ id, ν.task ⟨id, w, .fresh, none⟩ = ν.task t ↔ ⟨id, w, .fresh, none⟩ = t :=
    fun id => ν.task_inj
  rw [List.mem_append, List.mem_append, m.tasks t ht, List.mem_map, List.mem_map]
  exact or_congr_right (exists_congr fun id => and_congr_right fun _ => (hnew id).symm)

theorem mirrors_detach {w : WorkerId} (hw : E.Employs s w) :
    E.Mirrors ν (s.detach w) (s'.detach (ν.workers w)) := by
  obtain ⟨x, hx, hqueue⟩ := hw
  have hsame : (s.pollers.get? x.taskQueue).map ν.workers = some (ν.workers w) ↔
      s.pollers.get? x.taskQueue = some w := by
    rw [← Option.map_some, (Option.map_injective ν.workers.injective).eq_iff]
  unfold detach
  rw [hx, m.workers w x hx hqueue]
  dsimp only
  rw [m.pollers x.taskQueue hqueue]
  by_cases hpolls : s.pollers.get? x.taskQueue = some w
  · rw [if_pos hpolls, if_pos (hsame.mpr hpolls)]
    refine mirrors_pollers m _ _ fun q hq => ?_
    rw [Table.get?_erase, Table.get?_erase, m.pollers q hq]
    split <;> rfl
  · rw [if_neg hpolls, if_neg (mt hsame.mp hpolls)]
    exact m

theorem mirrors_updateWorker {w : WorkerId} (hw : E.Employs s w)
    (change : Worker → Except Error Worker) :
    ν.Results Eq (s.updateWorker w change).1 (s'.updateWorker (ν.workers w) change).1 ∧
      E.Mirrors ν (s.updateWorker w change).2 (s'.updateWorker (ν.workers w) change).2 := by
  obtain ⟨x, hx, hqueue⟩ := hw
  rw [updateWorker_eq hx, updateWorker_eq (m.workers w x hx hqueue)]
  cases change x with
  | error e => exact ⟨.error (.same e), m⟩
  | ok x' => exact ⟨.ok rfl, mirrors_modifyWorker m hx hqueue fun _ => x'⟩

theorem mirrors_release (target : String) (operation : Operation) :
    ν.Results Eq (s.release target operation).1 (s'.release target operation).1 ∧
      E.Mirrors ν (s.release target operation).2 (s'.release target operation).2 := by
  have hcounted := mirrors_counted m s.starts s'.starts (s.calls ++ [⟨target, operation, none⟩])
    (s'.calls ++ [⟨target, operation, none⟩])
  have hfailing : (s'.record target operation).failingShutdown =
      (s.record target operation).failingShutdown := m.failing
  unfold release
  dsimp only
  rw [hfailing]
  split
  · exact ⟨Renaming.results_eq, hcounted⟩
  · exact ⟨Renaming.results_eq, hcounted⟩

/-- Two servers with the same share answer a request on it in the same way, and have the same share
afterwards. -/
theorem mirrors_serve {q : Request}
    (hq : (Action.ask q).KeepsTo E.queues E.ids (E.Employs s) E.Awaits)
    (hrun : q.takesRun = true → ν.runs (s.starts + 1) = s'.starts + 1)
    (hworker : q.makesWorker = true → ν.workers s.workers.length = s'.workers.length) :
    ν.Answers q (s.serve q).1 (s'.serve (ν.request q)).1 ∧
      E.Mirrors ν (s.serve q).2 (s'.serve (ν.request q)).2 := by
  cases q with
  | startWorkflow target ns workflowType options args =>
    obtain ⟨hqueue, id, hsome, hid⟩ := hq
    exact mirrors_startWorkflow m hqueue hsome hid fun hempty => hrun (by simp [Request.takesRun, hempty])
  | subscribe e =>
    refine ⟨(results_addressed m hq).map ?_, m⟩
    rintro r _ rfl
    rfl
  | takeAnswer sub => exact ⟨results_answer m hq, m⟩
  | fetchHistory target ns e =>
    have hcounted := mirrors_counted m s.starts s'.starts
      (s.calls ++ [⟨target, .fetchHistory, some ns⟩]) (s'.calls ++ [⟨target, .fetchHistory, some ns⟩])
    refine ⟨(results_addressed hcounted hq).map ?_, hcounted⟩
    rintro r _ rfl
    rfl
  | describe target ns e =>
    have hcounted := mirrors_counted m s.starts s'.starts
      (s.calls ++ [⟨target, .describeExecution, some ns⟩])
      (s'.calls ++ [⟨target, .describeExecution, some ns⟩])
    refine ⟨(results_addressed hcounted hq).map ?_, hcounted⟩
    rintro r _ rfl
    rfl
  | update target id name =>
    have hcounted := mirrors_counted m s.starts s'.starts
      (s.calls ++ [⟨target, .update, none⟩]) (s'.calls ++ [⟨target, .update, none⟩])
    exact ⟨(updateError_of_mirrors hcounted hq name).symm, hcounted⟩
  | addWorker queue => exact ⟨(hworker rfl).symm, mirrors_addWorker m (hworker rfl) queue⟩
  | updateWorker w change => exact mirrors_updateWorker m hq.1 change
  | attach target w => exact ⟨rfl, mirrors_attach m hq target⟩
  | detach w => exact ⟨rfl, mirrors_detach m hq⟩
  | connect target | closeConnection id => exact hq.elim
  | release target operation => exact mirrors_release m target operation

end

end Share

end Conformance.Server
