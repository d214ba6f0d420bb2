import Conformance.Proofs.Background.Ticking
import Conformance.Runner.Run

/-!
# What never touches a file

Nothing that a run does touches a file, but for one operation of its script: storing histories.
Neither does anything change what the SDK says of itself. So every script without that operation
leaves all files as they are.

## Main definitions

- `World.Shelf` — the files, and what the SDK says of itself
- `Program.Untouching` — a program that leaves them as they are
- `Script.Storeless` — a script that stores nothing

## Main statements

- `Script.storeless_executeSingleParameterlessWorkflow`, `Script.storeless_checkResult` — what
  features do by default, before they look at histories, is such a script
- `Runner.untouching_exec` — storeless scripts leave the files as they are
- `Runner.untouching_connectTo`, `Runner.untouching_close` — so do connecting and closing
-/

namespace Conformance

/-- The files, and what the SDK says of itself: where the stored histories are, and what they are. -/
structure World.Shelf where
  files : FileTree
  sdk : String
  version : Version

/-- The shelf of a world. -/
def World.shelf (w : World) : World.Shelf := ⟨w.files, w.sdk.name, w.sdk.version⟩

namespace World

theorem shelf_eq_iff {w w' : World} : w'.shelf = w.shelf ↔
    w'.files = w.files ∧ w'.sdk.name = w.sdk.name ∧ w'.sdk.version = w.sdk.version := by
  unfold shelf
  rw [Shelf.mk.injEq]

/-! ## The background -/

theorem shelf_sendCommand (w : World) (p : ProxyController) (c : ProxyCommand) :
    (w.sendCommand p c).2.shelf = w.shelf := by
  unfold sendCommand sendRequest
  split
  · rfl
  · dsimp only
    split
    · rfl
    · split <;> rfl

theorem shelf_sendDelayed (w : World) (i : Nat) : (w.sendDelayed i).shelf = w.shelf := by
  unfold sendDelayed
  split
  · rfl
  · exact shelf_sendCommand ..

theorem shelf_ticks {w w' : World} (h : Ticks w w') : w'.shelf = w.shelf := by
  cases h with
  | time now => rfl
  | step h =>
    unfold step? at h
    split at h
    · cases h
      rfl
    · obtain ⟨i, -, rfl⟩ := Option.map_eq_some_iff.mp h
      exact shelf_sendDelayed w i

theorem shelf_ticked {w w' : World} (h : Ticked w w') : w'.shelf = w.shelf := by
  induction h with
  | refl => rfl
  | tail _ hlast ih => exact (shelf_ticks hlast).trans ih

theorem shelf_openLatch (w : World) (latch : SignalId) :
    (w.openLatch latch).shelf = w.shelf := by
  unfold openLatch
  split <;> rfl

/-! ## Calls through the SDK -/

theorem shelf_guarded {α : Type} (point : SdkPoint) {call : World → Except Error α × World}
    (hcall : ∀ w : World, (call w).2.shelf = w.shelf) (w : World) :
    (guarded point call w).2.shelf = w.shelf := by
  rcases guarded_cases point call w with hmade | ⟨e, hfailed⟩
  · rw [hmade]
    exact hcall _
  · rw [hfailed]
    rfl

theorem shelf_connect (target : String) (w : World) : (connect target w).2.shelf = w.shelf := by
  refine shelf_guarded _ (fun w => ?_) w
  split <;> rfl

theorem shelf_newClient (connection : ConnectionId) (ns : String) (w : World) :
    (newClient connection ns w).2.shelf = w.shelf :=
  shelf_guarded _ (fun _ => rfl) w

theorem shelf_newFactory (client : Client) (w : World) :
    (newFactory client w).2.shelf = w.shelf :=
  shelf_guarded _ (fun _ => rfl) w

theorem shelf_newWorker (factory : FactoryId) (queue : String) (w : World) :
    (newWorker factory queue w).2.shelf = w.shelf := by
  refine shelf_guarded _ (fun w => ?_) w
  split <;> rfl

theorem shelf_attachAll (w : World) (target : String) (ids : List WorkerId) :
    (w.attachAll target ids).shelf = w.shelf := by
  unfold attachAll
  induction ids generalizing w with
  | nil => rfl
  | cons id ids ih => exact ih _

theorem shelf_detachAll (w : World) (ids : List WorkerId) :
    (w.detachAll ids).shelf = w.shelf := by
  unfold detachAll
  induction ids generalizing w with
  | nil => rfl
  | cons id ids ih => exact ih _

theorem shelf_startFactory (id : FactoryId) (w : World) :
    (startFactory id w).2.shelf = w.shelf := by
  have hentered : (w.enter .start).2.shelf = w.shelf := rfl
  unfold startFactory
  split
  · rename_i fault w₁ heq
    rw [heq] at hentered
    split <;> exact hentered
  · rename_i w₁ heq
    rw [heq] at hentered
    split
    · exact hentered
    · exact (shelf_attachAll ..).trans hentered

theorem shelf_shutdownFactory (id : FactoryId) (w : World) :
    (shutdownFactory id w).2.shelf = w.shelf := by
  unfold shutdownFactory
  split
  · rfl
  · exact shelf_detachAll ..

theorem shelf_asking {α : Type} (connection : ConnectionId)
    (call : Server → String → Except Error α × Server) (w : World) :
    (asking connection call w).2.shelf = w.shelf := by
  unfold asking
  dsimp only
  split <;> rfl

theorem shelf_update (client : Client) (workflowId name : String) (w : World) :
    (update client workflowId name w).2.shelf = w.shelf := by
  have hsdk : w.sdk.nextUpdate.2.name = w.sdk.name ∧
      w.sdk.nextUpdate.2.version = w.sdk.version := by
    unfold Sdk.nextUpdate
    split <;> exact ⟨rfl, rfl⟩
  unfold update
  split <;>
  · rename_i heq
    rw [heq] at hsdk
    exact shelf_eq_iff.mpr ⟨rfl, hsdk⟩

end World

/-! ## Programs -/

/-- The program leaves the files as they are. -/
def Program.Untouching {α : Type} (p : Program α) : Prop :=
  ∀ w : World, (p.run w).2.shelf = w.shelf

namespace Program

open World

variable {α β : Type}

theorem untouching_pure (a : α) : (pure a : Program α).Untouching := fun _ => rfl

theorem Untouching.bind {p : Program α} (h : p.Untouching) {f : α → Program β}
    (hf : ∀ a, (f a).Untouching) : (p >>= f).Untouching := by
  intro w
  rw [run_bind']
  exact (hf _ _).trans (h w)

theorem Untouching.bindT {p : ExceptT Error Program α} (h : p.run.Untouching)
    {f : α → ExceptT Error Program β} (hf : ∀ a, (f a).run.Untouching) :
    (p >>= f).run.Untouching := by
  rw [ExceptT.run_bind]
  refine h.bind fun result => ?_
  cases result with
  | ok a => exact hf a
  | error e => exact untouching_pure _

theorem untouching_lift {action : World → α × World}
    (h : ∀ w : World, (action w).2.shelf = w.shelf) : (lift action).Untouching := h

theorem untouching_look (view : World → α) : (look view).Untouching := fun _ => rfl

theorem untouching_waitFor (ready : World → Bool) (limit : Duration) :
    (waitFor ready limit).Untouching :=
  fun w => shelf_ticked (ticked_wait ready _ w)

theorem untouching_waitUntil (ready : World → Bool) : (waitUntil ready).Untouching :=
  fun w => shelf_ticked (ticked_wait ready none w)

theorem untouching_result (e : Execution) : (result e).Untouching := by
  refine (untouching_look _).bind fun subscribed => ?_
  cases subscribed with
  | error e => exact untouching_pure _
  | ok sub => exact (untouching_waitFor _ _).bind fun _ => untouching_look _

end Program

open Program World

theorem WorkerManager.untouching_shutdown (m : WorkerManager) : m.shutdown.Untouching := by
  unfold shutdown
  split
  · exact untouching_lift (shelf_shutdownFactory _)
  · exact untouching_pure _

theorem WorkerManager.untouching_restart (m : WorkerManager) (client : Client) (feature : Feature)
    (queue : String) : (m.restart client feature queue).Untouching := by
  have hbuild : (build client feature queue).run.Untouching := by
    unfold build
    refine Untouching.bindT (untouching_lift (shelf_newFactory client)) fun factory => ?_
    refine Untouching.bindT (untouching_lift (shelf_newWorker factory queue)) fun worker => ?_
    refine Untouching.bindT (untouching_lift fun w => rfl) fun _ => ?_
    refine Untouching.bindT (untouching_lift (shelf_startFactory factory)) fun _ => ?_
    exact untouching_pure _
  refine hbuild.bind fun result => ?_
  cases result <;> exact untouching_pure _

/-! ## Scripts -/

/-- The script stores no histories, whatever it is told. -/
inductive Script.Storeless {α : Type} : Script α → Prop
  | done (result : Except Error α) : Storeless (.done result)
  | call {op : RunnerOp} {next : Except Error op.Reply → Script α}
      (hop : ∀ histories, op ≠ .storeHistories histories)
      (hnext : ∀ reply, Storeless (next reply)) : Storeless (.call op next)

namespace Script.Storeless

variable {α β : Type}

theorem perform (op : RunnerOp) (hop : ∀ histories, op ≠ .storeHistories histories) :
    (Script.perform op).Storeless :=
  .call hop fun reply => .done reply

theorem bind {script : Script α} (h : script.Storeless) {next : α → Script β}
    (hnext : ∀ a, (next a).Storeless) : (script >>= next).Storeless := by
  show (Script.bind script next).Storeless
  induction h with
  | done result =>
    cases result with
    | ok a => exact hnext a
    | error e => exact .done _
  | call hop _ ih => exact .call hop ih

end Script.Storeless

namespace Script

theorem storeless_executeWorkflow (workflowType : String) (args : List Json) :
    (executeWorkflow workflowType args).Storeless :=
  (Storeless.perform .view nofun).bind fun _ => .perform (.startWorkflow ..) nofun

theorem storeless_singleMethod : singleMethod.Storeless := by
  refine (Storeless.perform .view nofun).bind fun view => ?_
  split <;> exact .done _

theorem storeless_executeSingleParameterlessWorkflow :
    executeSingleParameterlessWorkflow.Storeless := by
  refine storeless_singleMethod.bind fun method => ?_
  split
  · exact .done _
  · exact (storeless_executeWorkflow _ _).bind fun _ => .done _

theorem storeless_checkResult (expected : Option Json) (run : Run) :
    (checkResult expected run).Storeless := by
  have hwait : (waitForRunResult run).Storeless := by
    refine (Storeless.perform (.result _) nofun).bind fun result => ?_
    split <;> exact .done _
  refine hwait.bind fun result => ?_
  split
  · exact .done _
  · split <;> exact .done _

end Script

namespace Runner

variable (r : Runner)

theorem untouching_onWorker {action : WorkerId → World → Except Error Unit × World}
    (h : ∀ id (w : World), (action id w).2.shelf = w.shelf) : (r.onWorker action).Untouching := by
  unfold onWorker
  split
  · exact untouching_pure _
  · exact untouching_lift (h _)

theorem untouching_reply {α : Type} {p : Program α} (h : p.Untouching) :
    (p >>= fun reply => (pure (reply, r) : Program (α × Runner))).Untouching :=
  h.bind fun _ => untouching_pure _

/-- Of all operations only storing histories touches a file. -/
theorem untouching_perform {op : RunnerOp} (hop : ∀ histories, op ≠ .storeHistories histories) :
    (r.perform op).Untouching := by
  cases op with
  | storeHistories histories => exact absurd rfl (hop histories)
  | view | loadPast | requests => exact fun _ => rfl
  | startWorkflow t options args => exact fun _ => rfl
  | result e => exact r.untouching_reply (untouching_result e)
  | history e | describe e => exact r.untouching_reply (untouching_lift (shelf_asking _ _))
  | update id name | startUpdate id name => exact shelf_update _ id name
  | restartWorker => exact (r.manager.untouching_restart _ _ _).bind fun _ => untouching_pure _
  | shutdownWorker => exact r.untouching_reply r.manager.untouching_shutdown
  | consultWorker check => exact r.untouching_reply (r.untouching_onWorker fun _ _ => rfl)
  | registerWorkflow f => exact r.untouching_reply (r.untouching_onWorker fun _ _ => rfl)
  | send command => exact fun w => shelf_sendCommand w r.proxy command
  | sendLater delay command => exact fun _ => rfl
  | join ticket => exact fun w => untouching_waitUntil _ w
  | openLatch latch => exact fun w => shelf_openLatch w latch
  | awaitLatch latch limit => exact fun w => untouching_waitFor _ limit w
  | increment counter | setStatus status => exact fun _ => rfl
  | sleep d => exact fun w => untouching_waitFor _ d w
  | settle => exact fun w => shelf_ticked (ticked_settle w)
  | closeService => exact fun _ => rfl

/-- Whatever a storeless script does, it touches no file. -/
theorem untouching_exec {α : Type} {script : Script α} (h : script.Storeless) (r : Runner) :
    (exec script r).Untouching := by
  induction h generalizing r with
  | done result => exact fun _ => rfl
  | call hop _ ih => exact (r.untouching_perform hop).bind fun reply => ih reply.1 reply.2

/-! ## Opening and closing -/

theorem untouching_connectTo (target : String) : (connectTo target).Untouching := by
  refine (untouching_lift (shelf_connect target)).bind fun result => ?_
  cases result <;> exact untouching_pure _

theorem untouching_closeService (connection : ConnectionId) :
    (lift (World.closeService connection)).Untouching :=
  untouching_lift fun _ => rfl

theorem untouching_releaseAll (ids : List ConnectionId) : (releaseAll ids).Untouching := by
  induction ids with
  | nil => exact untouching_pure _
  | cons id ids ih => exact (untouching_closeService id).bind fun _ => ih

theorem untouching_close : r.close.Untouching :=
  r.manager.untouching_shutdown.bind fun _ => (untouching_closeService _).bind fun _ =>
    (untouching_closeService _).bind fun _ => untouching_pure _

end Runner

end Conformance
