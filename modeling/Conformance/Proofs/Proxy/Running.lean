import Conformance.Proofs.Background.Ticking
import Conformance.Proofs.Proxy.Bracketing
import Conformance.Proofs.Runner.Traffic

/-!
# Runs as chronicles

A world runs its background in an order of its own while a program waits, and not otherwise. What happens
meanwhile is a chronicle, along which the program goes to its end.

## Main definitions

- `World.Leads` — a world comes after another one, one turn after the other
- `Program.Told` — a program whose actions are such turns, and whose waiting ends

## Main statements

- `World.leads_wait` — what happens while a program waits
- `Program.Told.exists_chronicle` — a program that is run goes along a chronicle
- `Runner.told_exec` — every script is such a program
-/

namespace Conformance

namespace World

/-! ## One turn after the other -/

/-- One turn after the other leads to the world `w'`, and only tasks that sleep have noted a time
there if it was so before. -/
structure Leads (w w' : World) : Prop where
  turns : Relation.ReflTransGen Turn w w'
  timed : w.server.Timed → w'.server.Timed

variable {w w' w'' : World}

theorem Leads.refl (w : World) : w.Leads w := ⟨.refl, id⟩

theorem Leads.trans (h : w.Leads w') (h' : w'.Leads w'') : w.Leads w'' :=
  ⟨h.turns.trans h'.turns, fun hw => h'.timed (h.timed hw)⟩

theorem Leads.ticketed (h : w.Leads w') (hw : w.Ticketed) : w'.Ticketed := by
  obtain ⟨hturns, -⟩ := h
  induction hturns with
  | refl => exact hw
  | tail _ hturn ih => exact hturn.ticketed ih

/-- Something happens that concerns the server only. -/
theorem leads_of_timed (hdelayed : w'.delayed = w.delayed) (htickets : w'.tickets = w.tickets)
    (hclock : w'.clock = w.clock) (htimed : w.server.Timed → w'.server.Timed) : w.Leads w' :=
  ⟨.single (.other hdelayed htickets hclock), htimed⟩

theorem leads_of_same (hdelayed : w'.delayed = w.delayed) (htickets : w'.tickets = w.tickets)
    (hclock : w'.clock = w.clock) (hserver : w'.server = w.server) : w.Leads w' :=
  leads_of_timed hdelayed htickets hclock fun htimed => hserver ▸ htimed

theorem leads_serve (w : World) (q : Server.Request) :
    w.Leads { w with server := (w.server.serve q).2 } :=
  leads_of_timed rfl rfl rfl fun htimed => htimed.serve (Server.serve_cases w.server q)

/-! ## The background -/

theorem turn_of_step? (h : w.step? = some w') : w.Turn w' := by
  unfold step? at h
  split at h
  · cases h
    exact .other rfl rfl rfl
  · obtain ⟨i, hi, rfl⟩ := Option.map_eq_some_iff.mp h
    obtain ⟨hlt, hdue, -⟩ := List.findIdx?_eq_some_iff_getElem.mp hi
    exact .sent _ ⟨i, List.getElem?_eq_getElem hlt, of_decide_eq_true hdue, rfl⟩

theorem leads_step? (h : w.step? = some w') : w.Leads w' :=
  ⟨.single (turn_of_step? h), fun htimed => timed_step? htimed h⟩

theorem leads_of_ticked (h : Ticked w w') : w.Leads w' := by
  induction h with
  | refl => exact .refl w
  | tail _ hlast ih =>
    refine ih.trans ?_
    cases hlast with
    | step hstep => exact leads_step? hstep
    | time now => exact ⟨.single (.time now), id⟩

theorem leads_settle (w : World) : w.Leads w.settle := leads_of_ticked (ticked_settle w)

theorem leads_wait (ready : World → Bool) (deadline : Option Nat) (w : World) :
    w.Leads (w.wait ready deadline).2 :=
  leads_of_ticked (ticked_wait ready deadline w)

/-- Whoever waits goes on because the condition holds, or because the deadline has passed. -/
def Ends (ready : World → Bool) (deadline : Option Nat) (w : World) : Prop :=
  (w.wait ready deadline).1 = true ∧ ready (w.wait ready deadline).2 = true ∨
    (w.wait ready deadline).1 = false ∧ (w.wait ready deadline).2.isOver deadline = true

theorem ends_of_deadline (ready : World → Bool) (deadline : Nat) (htimed : w.server.Timed) :
    w.Ends ready (some deadline) := by
  obtain ⟨-, hwaited⟩ := wait_cases ready deadline htimed
  unfold Ends
  generalize w.wait ready (some deadline) = x at hwaited
  cases hwaited with
  | met hmet => exact .inl ⟨rfl, hmet⟩
  | expired _ hclock => exact .inr ⟨rfl, decide_eq_true hclock⟩

/-- Waiting for a delayed command ends without a deadline: nothing keeps the command from being sent. -/
theorem ends_of_isSent (ticket : Nat) (htimed : w.server.Timed) :
    w.Ends (fun w => w.isSent ticket) none := by
  unfold Ends
  generalize hd : (none : Option Nat) = deadline
  generalize hr : (fun w : World => w.isSent ticket) = ready
  fun_induction wait ready deadline w with
  | case1 _ w hmet | case3 _ w _ _ rested hmet => exact .inl ⟨rfl, hmet⟩
  | case2 _ w _ hover => exact .inr ⟨rfl, hover⟩
  | case4 w _ rested hunmet hnext =>
    -- a world in which nothing is to come has no delayed commands
    subst hr
    obtain ⟨-, hnone⟩ := List.append_eq_nil_iff.mp (List.min?_eq_none_iff.mp hnext)
    refine absurd ?_ hunmet
    show rested.delayed.all _ = true
    rw [List.map_eq_nil_iff.mp hnone]
    rfl
  | case5 => cases hd
  | case6 _ _ _ _ _ _ _ _ hover => exact .inr ⟨rfl, hover⟩
  | case7 w _ rested _ t _ hnext moved _ hstuck =>
    subst hd
    have hmoved : moved.server.Timed := (leads_settle w).timed htimed
    obtain ⟨w', hstep⟩ := exists_step?_of_nextTime? hmoved hnext (Nat.le_max_right ..)
    cases hstuck.symm.trans hstep
  | case8 w _ _ _ _ _ _ moved _ next hstep _ ih =>
    have hmoved : moved.server.Timed := (leads_settle w).timed htimed
    exact ih (timed_step? hmoved hstep) hd

/-! ## Calls -/

theorem leads_sendCommand (w : World) (p : ProxyController) (c : ProxyCommand) :
    w.Leads (w.sendCommand p c).2 :=
  leads_of_same (w.sendCommand_delayed p c).1 (w.sendCommand_delayed p c).2
    (clock_sendCommand w p c) (server_sendCommand w p c)

theorem leads_openLatch (w : World) (latch : SignalId) : w.Leads (w.openLatch latch) := by
  unfold openLatch
  split
  · exact .refl w
  · exact leads_of_timed rfl rfl rfl fun htimed => htimed.letThrough latch

theorem leads_guarded {α : Type} (point : SdkPoint) {call : World → Except Error α × World}
    (hcall : ∀ w : World, w.Leads (call w).2) (w : World) : w.Leads (guarded point call w).2 := by
  have hentered : w.Leads (w.enter point).2 := leads_of_same rfl rfl rfl rfl
  rcases guarded_cases point call w with hmade | ⟨e, hfailed⟩
  · rw [hmade]
    exact hentered.trans (hcall _)
  · rw [hfailed]
    exact hentered

theorem leads_newFactory (client : Client) (w : World) : w.Leads (newFactory client w).2 :=
  leads_guarded .newWorkerFactory (fun _ => leads_of_same rfl rfl rfl rfl) w

theorem leads_newWorker (factory : FactoryId) (queue : String) (w : World) :
    w.Leads (newWorker factory queue w).2 := by
  refine leads_guarded .newWorker (fun w => ?_) w
  split
  · exact .refl w
  · have hadded := leads_serve w (.addWorker queue)
    exact hadded.trans (leads_of_same rfl rfl rfl rfl)

theorem leads_attachAll (target : String) (ids : List WorkerId) (w : World) :
    w.Leads (w.attachAll target ids) := by
  unfold attachAll
  induction ids generalizing w with
  | nil => exact .refl w
  | cons id ids ih => exact (leads_serve w (.attach target id)).trans (ih _)

theorem leads_detachAll (ids : List WorkerId) (w : World) : w.Leads (w.detachAll ids) := by
  unfold detachAll
  induction ids generalizing w with
  | nil => exact .refl w
  | cons id ids ih => exact (leads_serve w (.detach id)).trans (ih _)

theorem leads_startFactory (id : FactoryId) (w : World) : w.Leads (startFactory id w).2 := by
  have hentered : w.Leads (w.enter .start).2 := leads_of_same rfl rfl rfl rfl
  unfold startFactory
  split
  · rename_i heq
    rw [heq] at hentered
    split <;> exact hentered
  · rename_i w₁ heq
    rw [heq] at hentered
    split
    · exact hentered
    · rename_i f _
      have hrunning : w₁.Leads (w₁.modifyFactory id fun f => { f with running := true }) :=
        leads_of_same rfl rfl rfl rfl
      exact hentered.trans (hrunning.trans (leads_attachAll f.target f.workers _))

theorem leads_shutdownFactory (id : FactoryId) (w : World) :
    w.Leads (shutdownFactory id w).2 := by
  unfold shutdownFactory
  split
  · exact .refl w
  · rename_i f _
    have hstopped : w.Leads (w.modifyFactory id fun f => { f with running := false }) :=
      leads_of_same rfl rfl rfl rfl
    have hdetached := hstopped.trans (leads_detachAll f.workers _)
    exact hdetached.trans (leads_serve _ (.release f.target .shutdownWorkerFactory))

theorem leads_asking {α : Type} (connection : ConnectionId)
    {call : Server → String → Except Error α × Server}
    (hcall : ∀ (w : World) target, w.Leads { w with server := (call w.server target).2 })
    (w : World) : w.Leads (asking connection call w).2 := by
  unfold asking
  dsimp only
  split
  · exact hcall w _
  · exact .refl w

theorem leads_update (client : Client) (workflowId name : String) (w : World) :
    w.Leads (update client workflowId name w).2 := by
  unfold update
  split
  · exact leads_of_same rfl rfl rfl rfl
  · have hserved := leads_serve w (.update (w.server.targetOf client.connection) workflowId name)
    exact hserved.trans (leads_of_same rfl rfl rfl rfl)

end World

/-! ## Programs -/

namespace Program

open World

/-- The actions of the program are turns of a world, one after the other, and its waiting ends. -/
inductive Told {α : Type} : Program α → Prop
  | done (a : α) : Told (.done a)
  | act {change : World → World} {next : World → Program α} (hchange : ∀ w : World, w.Leads (change w))
      (hnext : ∀ w, Told (next w)) : Told (.act change next)
  | await {ready : World → Bool} {deadline : Option Nat} {next : Bool → Program α}
      (hends : ∀ w : World, w.server.Timed → w.Ends ready deadline) (hnext : ∀ met, Told (next met)) :
      Told (.await ready deadline next)

variable {α β : Type}

theorem Told.bind {p : Program α} {f : α → Program β} (hp : p.Told) (hf : ∀ a, (f a).Told) :
    (p >>= f).Told := by
  show (Program.bind p f).Told
  induction hp with
  | done a => exact hf a
  | act hchange _ ih => exact .act hchange ih
  | await hends _ ih => exact .await hends ih

theorem Told.bindT {p : ExceptT Error Program α} {f : α → ExceptT Error Program β}
    (hp : p.run.Told) (hf : ∀ a, (f a).run.Told) : (p >>= f).run.Told := by
  rw [ExceptT.run_bind]
  refine hp.bind fun result => ?_
  cases result with
  | ok a => exact hf a
  | error e => exact .done _

theorem told_lift {action : World → α × World} (h : ∀ w : World, w.Leads (action w).2) :
    (lift action).Told :=
  .act h fun _ => .done _

theorem told_look (view : World → α) : (look view).Told := .act .refl fun _ => .done _

theorem told_change {f : World → World} (h : ∀ w : World, w.Leads (f w)) : (change f).Told :=
  .act h fun _ => .done _

theorem told_waitFor (ready : World → Bool) (limit : Duration) : (waitFor ready limit).Told :=
  .act .refl fun _ => .await (fun _ => ends_of_deadline ready _) .done

theorem told_result (e : Execution) : (Program.result e).Told := by
  refine (told_look _).bind fun subscribed => ?_
  cases subscribed with
  | error e => exact .done _
  | ok sub => exact (told_waitFor _ _).bind fun _ => told_look _

end Program

namespace Runner

open Program World

variable (r : Runner)

theorem told_onWorker {action : WorkerId → World → Except Error Unit × World}
    (h : ∀ id (w : World), w.Leads (action id w).2) : (r.onWorker action).Told := by
  unfold onWorker
  split
  · exact .done _
  · exact told_lift (h _)

theorem told_restartWorker : r.restartWorker.Told := by
  have hbuild : (WorkerManager.build r.workerClient r.feature r.config.taskQueue).run.Told := by
    unfold WorkerManager.build
    refine Told.bindT (told_lift (leads_newFactory _)) fun factory => ?_
    refine Told.bindT (told_lift (leads_newWorker _ _)) fun worker => ?_
    refine Told.bindT (told_lift fun w => leads_serve w (.updateWorker worker _)) fun _ => ?_
    exact Told.bindT (told_lift (leads_startFactory _)) fun _ => .done _
  refine Told.bind (hbuild.bind fun built => ?_) fun _ => .done _
  cases built <;> exact .done _

theorem told_perform (op : RunnerOp) : (r.perform op).Told := by
  cases op with
  | view | loadPast | requests => exact (told_look _).bind fun _ => .done _
  | startWorkflow t options args =>
    exact (told_lift fun w => leads_serve w (.startWorkflow _ _ t options args)).bind fun _ => .done _
  | result e => exact (told_result e).bind fun _ => .done _
  | history e =>
    exact (told_lift (leads_asking _ fun w target => leads_serve w (.fetchHistory target _ e))).bind
      fun _ => .done _
  | describe e =>
    exact (told_lift (leads_asking _ fun w target => leads_serve w (.describe target _ e))).bind
      fun _ => .done _
  | update id name => exact (told_lift (leads_update _ id name)).bind fun _ => .done _
  | startUpdate id name =>
    have hupdate : (lift (World.startUpdate r.initiatorClient id name)).Told :=
      told_lift fun w => leads_update _ id name w
    exact hupdate.bind fun _ => .done _
  | restartWorker => exact r.told_restartWorker
  | shutdownWorker =>
    refine Told.bind ?_ fun _ => .done _
    unfold WorkerManager.shutdown
    split
    · exact told_lift (leads_shutdownFactory _)
    · exact .done _
  | consultWorker check => exact (r.told_onWorker fun _ => .refl).bind fun _ => .done _
  | registerWorkflow f =>
    exact (r.told_onWorker fun id w => leads_serve w (.updateWorker id _)).bind fun _ => .done _
  | storeHistories histories =>
    exact (told_lift fun _ => leads_of_same rfl rfl rfl rfl).bind fun _ => .done _
  | send command => exact (told_lift fun w => leads_sendCommand w _ _).bind fun _ => .done _
  | sendLater delay command =>
    exact (told_lift fun _ => ⟨.single (.delay _ _ _), id⟩).bind fun _ => .done _
  | join ticket => exact .await (fun _ => ends_of_isSent ticket) fun _ => .done _
  | openLatch latch => exact (told_change fun w => leads_openLatch w latch).bind fun _ => .done _
  | awaitLatch latch limit => exact (told_waitFor _ limit).bind fun _ => .done _
  | increment counter | setStatus status =>
    refine Told.bind (told_change fun w => ?_) fun _ => .done _
    exact leads_of_same rfl rfl rfl rfl
  | sleep d => exact (told_waitFor _ d).bind fun _ => .done _
  | settle => exact (told_change leads_settle).bind fun _ => .done _
  | closeService =>
    exact (told_lift fun w => leads_serve w (.closeConnection _)).bind fun _ => .done _

theorem told_exec {α : Type} (script : Script α) (r : Runner) : (exec script r).Told := by
  induction script generalizing r with
  | done result => exact .done _
  | call op next ih => exact (r.told_perform op).bind fun reply => ih reply.1 reply.2

end Runner

/-! ## Chronicles that begin with a run -/

namespace Chronicle

variable {w w' : World}

/-- The chronicle that begins one turn earlier. -/
def after (κ : Chronicle) (hw : w.Ticketed) (h : w.Turn (κ.world 0)) : Chronicle where
  world
    | 0 => w
    | n + 1 => κ.world n
  start := hw
  turn
    | 0 => h
    | n + 1 => κ.turn n

/-- The chronicle of a world in which nothing happens. -/
def still (w : World) (hw : w.Ticketed) : Chronicle where
  world _ := w
  start := hw
  turn _ := .refl w

theorem exists_after (h : Relation.ReflTransGen World.Turn w w') (hw : w.Ticketed) (κ : Chronicle)
    (hκ : κ.world 0 = w') :
    ∃ (κ' : Chronicle) (l : Nat), κ'.world 0 = w ∧ ∀ i, κ'.world (l + i) = κ.world i := by
  induction h using Relation.ReflTransGen.head_induction_on with
  | refl => exact ⟨κ, 0, hκ, fun i => congrArg κ.world (Nat.zero_add i)⟩
  | head hturn _ ih =>
    obtain ⟨κ', l, hstart, hrest⟩ := ih (hturn.ticketed hw)
    refine ⟨κ'.after hw (hstart ▸ hturn), l + 1, rfl, fun i => ?_⟩
    rw [Nat.add_right_comm]
    exact hrest i

/-- What a program does, it does later as well. -/
theorem Goes.later {κ κ' : Chronicle} {l : Nat} (hκ : ∀ i, κ'.world (l + i) = κ.world i) {α : Type}
    {p q : Program α} {n m : Nat} {acts : List (Nat × Nat)} (h : κ.Goes p n acts q m) :
    ∃ acts', κ'.Goes p (l + n) acts' q (l + m) := by
  induction h with
  | here p n => exact ⟨[], .here p (l + n)⟩
  | @act change next n k _ _ _ hle hchange _ ih =>
    obtain ⟨acts', hrest⟩ := ih
    rw [← hκ, ← hκ] at hchange
    rw [← hκ] at hrest
    exact ⟨_, .act (Nat.add_le_add_left hle l) hchange hrest⟩
  | ready hready _ ih =>
    obtain ⟨acts', hrest⟩ := ih
    exact ⟨acts', .ready (by rwa [hκ]) hrest⟩
  | expired hover _ ih =>
    obtain ⟨acts', hrest⟩ := ih
    exact ⟨acts', .expired (by rwa [hκ]) hrest⟩
  | idle _ ih =>
    obtain ⟨acts', hrest⟩ := ih
    exact ⟨acts', .idle hrest⟩

end Chronicle

/-- A program that goes on in the way of a chronicle goes along the one that begins earlier. -/
theorem Chronicle.exists_earlier {w w' : World} (h : w.Leads w') (hw : w.Ticketed) {κ : Chronicle}
    (hκ : κ.world 0 = w') {α : Type} {p q : Program α} {acts : List (Nat × Nat)} {m : Nat}
    (hgoes : κ.Goes p 0 acts q m) :
    ∃ (κ' : Chronicle) (acts' : List (Nat × Nat)) (l : Nat), κ'.world 0 = w ∧ κ'.world l = w' ∧
      κ'.Goes p l acts' q (l + m) ∧ κ'.world (l + m) = κ.world m := by
  obtain ⟨κ', l, hstart, hworlds⟩ := exists_after h.turns hw κ hκ
  obtain ⟨acts', hlater⟩ := hgoes.later hworlds
  exact ⟨κ', acts', l, hstart, (hworlds 0).trans hκ, hlater, hworlds m⟩

/-- A program that is run goes along a chronicle to its end. -/
theorem Program.Told.exists_chronicle {α : Type} {p : Program α} (hp : p.Told) {w : World}
    (htimed : w.server.Timed) (hticketed : w.Ticketed) :
    ∃ (κ : Chronicle) (acts : List (Nat × Nat)) (m : Nat), κ.world 0 = w ∧
      κ.Goes p 0 acts (.done (p.run w).1) m ∧ κ.world m = (p.run w).2 := by
  -- by induction on the program, from its end to its beginning
  induction hp generalizing w with
  | done a => exact ⟨.still w hticketed, [], 0, rfl, .here _ 0, rfl⟩
  | @act change next hchange _ ih =>
    have hleads := hchange w
    obtain ⟨κ, acts, m, hbegin, hgoes, hend⟩ :=
      ih w (hleads.timed htimed) (hleads.ticketed hticketed)
    obtain ⟨κ', acts', l, hstart, hchanged, hrest, hlast⟩ :=
      Chronicle.exists_earlier hleads hticketed hbegin hgoes
    refine ⟨κ', (0, l) :: acts', l + m, hstart, .act (Nat.zero_le l) ?_ ?_, hlast.trans hend⟩
    · rw [hchanged, hstart]
    · rw [hstart]
      exact hrest
  | @await ready deadline next hends _ ih =>
    have hleads := World.leads_wait ready deadline w
    obtain ⟨κ, acts, m, hbegin, hgoes, hend⟩ :=
      ih (w.wait ready deadline).1 (hleads.timed htimed) (hleads.ticketed hticketed)
    obtain ⟨κ', acts', l, hstart, hwaited, hrest, hlast⟩ :=
      Chronicle.exists_earlier hleads hticketed hbegin hgoes
    refine ⟨κ', acts', l + m, hstart, Chronicle.Goes.idle_until ?_ (Nat.zero_le l), hlast.trans hend⟩
    show κ'.Goes _ l acts' (.done ((next (w.wait ready deadline).1).run _).1) _
    rcases hends w htimed with ⟨hmet, hready⟩ | ⟨hmet, hover⟩
    · rw [hmet] at hrest ⊢
      exact .ready (hwaited ▸ hready) hrest
    · rw [hmet] at hrest ⊢
      exact .expired (hwaited ▸ hover) hrest

end Conformance
