import Conformance.Features.NonDurableReject
import Conformance.Proofs.Files.Segments
import Conformance.Proofs.Schedules.Counting

/-!
# Rejected updates in every schedule

The SDK answers the updates of a feature as it likes. The feature sends one to find out whether updates
are supported, starts its workflow then, and sends five more while the activity of the workflow waits. It
passes if all five of them are rejected; the first one that is not ends the run. None of this depends on
the schedule.

## Main definitions

- `NonDurableReject.Fails` — an answer is an error with a code
- `NonDurableReject.Final` — the activity does not end before all updates have been answered
- `NonDurableReject.Ends` — how the run ends

## Main statements

- `NonDurableReject.surely_sendUpdates` — rejected updates one after another
- `NonDurableReject.passes_on_five_rejections` — the run in every schedule
-/

namespace Conformance.Features.NonDurableReject

open World Program

/-- What the workflow of an instance does. -/
def errand (scope : Nat) : Errand where
  method := workflow.method
  activityType := "wait_for_finish"
  started := started scope
  gate := finish scope
  tail := .readCounter (rejected scope) fun n => .done (.ok (.int n))

theorem serves_feature (scope : Nat) : (errand scope).Serves (feature scope) :=
  ⟨fun _ => rfl, rfl, rfl, rfl⟩

/-- The feature as it is registered. -/
def prepared : PreparedFeature := ⟨dir, feature⟩

/-- The run that is started next. -/
def nextRun (config : Config) (w : World) : Run :=
  ⟨workflow.method, Errand.nextRun config.taskQueue w⟩

/-! ## Answers -/

/-- The answer is an error with the code. -/
def Fails (code : RpcCode) : Except RpcError Json → Prop
  | .ok _ => False
  | .error e => e.code = code

instance (code : RpcCode) : DecidablePred (Fails code)
  | .ok _ => inferInstanceAs (Decidable False)
  | .error e => inferInstanceAs (Decidable (e.code = code))

theorem requireRejected_of_fails {answer : Except RpcError Json} (h : Fails .invalidArgument answer)
    (i : Nat) : requireRejected i answer = .ok () := by
  cases answer with
  | ok _ => exact h.elim
  | error e => exact if_pos h

/-- An answer that is no rejection ends the run, with the number of the update. -/
theorem requireRejected_of_not_fails {answer : Except RpcError Json}
    (h : ¬ Fails .invalidArgument answer) (i : Nat) : ∃ reason,
      requireRejected i answer = .error (.assertion ("update " ++ toString i ++ " " ++ reason)) := by
  cases answer with
  | ok result =>
    have hspace : " was accepted with result " = " " ++ "was accepted with result " := by decide
    refine ⟨"was accepted with result " ++ result.compact, ?_⟩
    unfold requireRejected
    rw [hspace]
    simp only [String.append_assoc]
  | error e =>
    have hspace : " failed instead of being rejected: " = " " ++ "failed instead of being rejected: " := by
      decide
    refine ⟨"failed instead of being rejected: " ++ e.text, (if_neg h).trans ?_⟩
    rw [hspace]
    simp only [String.append_assoc]

theorem require_of_fails {answer : Except RpcError Json} (h : Fails .notFound answer) :
    (Capability.classify .update answer).require = .ok () := by
  cases answer with
  | ok _ => exact h.elim
  | error e =>
    have hcode : e.code = .notFound := h
    unfold Capability.classify
    dsimp only
    rw [hcode]
    rfl

theorem require_of_not_fails {answer : Except RpcError Json} (h : ¬ Fails .notFound answer) :
    ∃ reason, (Capability.classify .update answer).require = .error (.skipped reason) := by
  cases answer with
  | ok _ => exact ⟨_, rfl⟩
  | error e =>
    have hcode : e.code ≠ .notFound := h
    unfold Capability.classify
    dsimp only
    split
    · contradiction
    all_goals exact ⟨_, rfl⟩

/-- Of some answers all are rejections, or there is a first one that is not. -/
theorem first_not_rejected (answers : List (Except RpcError Json)) :
    (∀ a ∈ answers, Fails .invalidArgument a) ∨ ∃ before a after, answers = before ++ a :: after ∧
      (∀ b ∈ before, Fails .invalidArgument b) ∧ ¬ Fails .invalidArgument a := by
  cases hfind : answers.find? fun a => !decide (Fails .invalidArgument a) with
  | none => exact .inl (by simpa using hfind)
  | some a =>
    obtain ⟨ha, before, after, heq, hbefore⟩ := List.find?_eq_some_iff_append.mp hfind
    exact .inr ⟨before, a, after, heq, by simpa using hbefore, by simpa using ha⟩

/-! ## What holds all the time, and how the run ends -/

/-- The number that the activity reports is final: once the run has been started, the end of its activity is
on record only if all updates have been answered. -/
def Final (w₀ : World) (queue : String) (later : List (Option (Except RpcError Json))) (w : World) :
    Prop :=
  ∀ r, w₀.server.starts < w.server.starts →
    w.server.executions.get? (Errand.nextRun queue w₀).workflowId = some r →
      r.history.has .activityTaskCompleted = true → w.sdk.updates = later

/-- How a run ends that has begun in the world `w₀`, with an answer to the probe and one to each update, and
others that come later. No update reaches the server. -/
inductive Ends (w₀ : World) (queue : String) (probe : Except RpcError Json)
    (answers : List (Except RpcError Json)) (later : List (Option (Except RpcError Json)))
    (o : Outcome) (w : World) : Prop
  | skipped (reason : String) (hprobe : ¬ Fails .notFound probe) (houtcome : o = .skipped reason)
      (hupdates : w.sdk.updates = answers.map some ++ later) (hserver : w₀.callsSince w .update = 0)
      (hnone : w₀.callsSince w .startWorkflow = 0)
      (hexecutions : w.server.executions = w₀.server.executions)
  | passed (hprobe : Fails .notFound probe) (hall : ∀ a ∈ answers, Fails .invalidArgument a)
      (houtcome : o = .passed) (hupdates : w.sdk.updates = later)
      (hserver : w₀.callsSince w .update = 0) (hone : w₀.callsSince w .startWorkflow = 1)
      (hcompletion : w.server.completions.get? (Errand.nextRun queue w₀).runId = some (.ok (.int count)))
  | failed (before : List (Except RpcError Json)) (a : Except RpcError Json)
      (after : List (Except RpcError Json)) (reason : String) (hprobe : Fails .notFound probe)
      (hanswers : answers = before ++ a :: after) (hbefore : ∀ b ∈ before, Fails .invalidArgument b)
      (ha : ¬ Fails .invalidArgument a)
      (houtcome : o = .failed ("Assertion failed: update " ++ toString before.length ++ " " ++ reason))
      (hupdates : w.sdk.updates = after.map some ++ later) (hserver : w₀.callsSince w .update = 0)
      (hone : w₀.callsSince w .startWorkflow = 1)
      (hrecord : ∃ r, w.server.executions.get? (Errand.nextRun queue w₀).workflowId = some r ∧
        r.status = .running ∧ r.history.events.map (·.eventType) =
          [.workflowExecutionStarted, .activityTaskScheduled])
      (hcompletion : w.server.completions.get? (Errand.nextRun queue w₀).runId = none)
      (hdormant : w.Dormant)

variable {w₀ w : World} {queue : String} {later : List (Option (Except RpcError Json))}

/-- It passes exactly if updates are supported and all of them are rejected. -/
theorem Ends.eq_passed_iff {probe : Except RpcError Json} {answers : List (Except RpcError Json)}
    {o : Outcome} (h : Ends w₀ queue probe answers later o w) :
    o = .passed ↔ Fails .notFound probe ∧ ∀ a ∈ answers, Fails .invalidArgument a := by
  cases h with
  | skipped _ hprobe houtcome =>
    rw [houtcome]
    exact ⟨nofun, fun h => absurd h.1 hprobe⟩
  | passed hprobe hall houtcome => exact ⟨fun _ => ⟨hprobe, hall⟩, fun _ => houtcome⟩
  | failed before a after _ _ hanswers _ ha houtcome =>
    rw [houtcome, hanswers]
    exact ⟨nofun, fun h => absurd (h.2 a (by simp)) ha⟩

theorem final_of_unstarted (hstarts : w.server.starts = w₀.server.starts) : Final w₀ queue later w :=
  fun _ hlt => absurd hlt (by omega)

theorem final_of_open {r : ExecutionRecord}
    (hr : w.server.executions.get? (Errand.nextRun queue w₀).workflowId = some r)
    (hopen : r.history.has .activityTaskCompleted = false) : Final w₀ queue later w := by
  intro r' _ hr' hcompleted
  cases hr.symm.trans hr'
  rw [hopen] at hcompleted
  cases hcompleted

theorem final_of_updates (hupdates : w.sdk.updates = later) : Final w₀ queue later w :=
  fun _ _ _ _ => hupdates

/-! ## Scripted answers -/

/-- The world in which the answers to updates are those. -/
def answering (w : World) (updates : List (Option (Except RpcError Json))) : World :=
  { w with sdk := { w.sdk with updates } }

section

variable {Inv : World → Prop} {answer : Except RpcError Json}
  {rest : List (Option (Except RpcError Json))} {r : Runner}

/-- An update is answered by the SDK if it has an answer. -/
theorem goes_update (hw : w.Dormant) (hinv : Inv w) (hupdates : w.sdk.updates = some answer :: rest)
    (hinv' : Inv (answering w rest)) (id name : String) :
    Goes Inv (r.perform (.update id name)) w (.ok answer, r) (answering w rest) := by
  have hnext : w.sdk.nextUpdate = (some answer, { w.sdk with updates := rest }) := by
    unfold Sdk.nextUpdate
    rw [hupdates]
  have hanswer : World.update r.initiatorClient id name w = (answer, answering w rest) := by
    unfold World.update
    rw [hnext]
    rfl
  exact (goes_lift hw hinv hanswer hinv').bind (goes_pure hinv')

/-- The probe tells what its answer says. -/
theorem goes_skipIfUpdateNotSupported (hw : w.Dormant) (hinv : Inv w)
    (hupdates : w.sdk.updates = some answer :: rest) (hinv' : Inv (answering w rest)) :
    Goes Inv (Runner.exec Script.skipIfUpdateNotSupported r) w
      ((Capability.classify .update answer).require, r) (answering w rest) :=
  Runner.goes_perform_bind _ (goes_update hw hinv hupdates hinv' _ _) (goes_pure hinv')

end

/-! ## While the activity waits -/

variable {config : Config} {rest : List (Option (Except RpcError Json))} {n : Nat}

/-- The activity waits; some updates have been rejected, and the answers to others are left. -/
structure Waits (config : Config) (w₀ : World) (rest : List (Option (Except RpcError Json))) (n : Nat)
    (v : World) : Prop where
  holds : (errand (w₀.instances + 1)).Holds (Errand.nextRun config.taskQueue w₀).workflowId
    w₀.server.workers.length ((errand (w₀.instances + 1)).record config.taskQueue w₀) v
  serving : (Runner.opened config prepared w₀).Serving (errand (w₀.instances + 1)) v
  accepted : (errand (w₀.instances + 1)).Accepted config dir (.int count) v
  tally : w₀.Tally v 1 1 0 0
  updates : v.sdk.updates = rest
  rejections : v.signals.count (rejected (w₀.instances + 1)) = n

theorem Waits.final (h : Waits config w₀ rest n w) : Final w₀ config.taskQueue later w :=
  final_of_open h.holds.record rfl

/-- An update is answered. -/
theorem Waits.answered {a : Option (Except RpcError Json)} (h : Waits config w₀ (a :: rest) n w) :
    Waits config w₀ rest n (answering w rest) where
  holds := h.holds.of_same rfl rfl rfl rfl rfl
  serving := h.serving.of_same rfl rfl rfl rfl
  accepted := h.accepted.of_same rfl rfl rfl
  tally := h.tally.of_same rfl
  updates := rfl
  rejections := h.rejections

/-- A rejection is counted. -/
theorem Waits.counted (h : Waits config w₀ rest n w) : Waits config w₀ rest (n + 1)
    { w with signals := w.signals.increment (rejected (w₀.instances + 1)) } where
  holds := h.holds.of_same rfl rfl rfl rfl rfl
  serving := h.serving.of_same rfl rfl rfl rfl
  accepted := h.accepted.of_same rfl rfl rfl
  tally := h.tally.of_same rfl
  updates := h.updates
  rejections := by
    unfold Signals.count Signals.increment
    rw [Table.get?_insert_self, Option.getD_some, ← h.rejections]

/-- Rejected updates one after another. -/
theorem surely_sendUpdates {Q : Except Error Unit × Runner → World → Prop} {id : String}
    {before : List (Except RpcError Json)} (hbefore : ∀ a ∈ before, Fails .invalidArgument a)
    (h : Waits config w₀ (before.map some ++ rest) n w) (left : Nat)
    (hnext : ∀ v, Waits config w₀ rest (n + before.length) v →
      Surely (Final w₀ config.taskQueue later) Q (Runner.exec
        (sendUpdates (w₀.instances + 1) id (n + before.length) left)
        (Runner.opened config prepared w₀), v)) :
    Surely (Final w₀ config.taskQueue later) Q (Runner.exec
      (sendUpdates (w₀.instances + 1) id n (before.length + left))
      (Runner.opened config prepared w₀), w) := by
  induction before generalizing w n with
  | nil => simpa using hnext w h
  | cons a before ih =>
    have hlength : (a :: before).length + left = (before.length + left) + 1 := by
      simp
      omega
    have hanswered := h.answered
    have hcounted := hanswered.counted
    rw [hlength]
    -- the update is answered and counted, and one answer less is left
    refine Runner.goes_perform_bind (.update id "update")
      (goes_update h.holds.dormant h.final h.updates hanswered.final _ _) ?_
    rw [requireRejected_of_fails (hbefore a List.mem_cons_self) n]
    refine Runner.goes_perform_bind (.increment _)
      ((goes_change _ hanswered.holds.dormant hanswered.final hcounted.final).bind
        (goes_pure hcounted.final)) ?_
    refine ih (fun b hb => hbefore b (List.mem_cons_of_mem a hb)) hcounted ?_
    rw [List.length_cons] at hnext
    rw [Nat.add_right_comm]
    exact hnext

/-- An answer that is no rejection ends the script. -/
theorem goes_sendUpdates_of_not_fails {a : Except RpcError Json} {id reason : String} {left : Nat}
    (h : Waits config w₀ (some a :: rest) n w)
    (ha : requireRejected n a = .error (.assertion reason)) :
    Goes (Final w₀ config.taskQueue later)
      (Runner.exec (sendUpdates (w₀.instances + 1) id n (left + 1)) (Runner.opened config prepared w₀)) w
      (.error (.assertion reason), Runner.opened config prepared w₀) (answering w rest) := by
  have hfinal : Final w₀ config.taskQueue later (answering w rest) := h.answered.final
  refine Runner.goes_perform_bind (.update id "update")
    (goes_update h.holds.dormant h.final h.updates hfinal _ _) ?_
  rw [ha]
  exact goes_pure hfinal

/-! ## Up to the updates -/

section

variable (hvalid : config.validate = .ok ()) (hclear : w₀.Clear config.taskQueue)

/-- The world in which the feature has been launched, and the probe has been answered. -/
def probedWorld (config : Config) (w₀ : World) (rest : List (Option (Except RpcError Json))) : World :=
  answering (Runner.launched config prepared ((errand (w₀.instances + 1)).worker config.taskQueue) w₀)
    rest

/-- The world in which the workflow has been started then. -/
def sentWorld (config : Config) (w₀ : World) (rest : List (Option (Except RpcError Json))) : World :=
  (errand (w₀.instances + 1)).sent (Runner.opened config prepared w₀) w₀.server.workers.length
    (probedWorld config w₀ rest)

theorem tally_probed : w₀.Tally (probedWorld config w₀ rest) 0 1 0 0 :=
  (tally_launched ..).of_same rfl

theorem tally_sent : w₀.Tally (sentWorld config w₀ rest) 1 1 0 0 := tally_probed.sent ..

include hvalid hclear

theorem ready_probed (rest : List (Option (Except RpcError Json))) :
    (errand (w₀.instances + 1)).Ready (Runner.opened config prepared w₀) w₀.factories.length
      w₀.server.workers.length (probedWorld config w₀ rest) := by
  have hready : (errand (w₀.instances + 1)).Ready (Runner.opened config prepared w₀) _ _ _ :=
    Errand.ready_launched hvalid hclear (serves_feature (w₀.instances + 1)) rfl
  exact { hready with idle := { hready.idle with } }

/-- The activity waits, and no update has been sent yet. -/
theorem waits_of_held {v : World} (hv : (errand (w₀.instances + 1)).Held
      (Errand.nextRun config.taskQueue w₀).workflowId w₀.server.workers.length
      ((errand (w₀.instances + 1)).record config.taskQueue w₀)
      (sentWorld config w₀ rest) v)
    (haccepted : (errand (w₀.instances + 1)).Accepted config dir (.int count) w₀) :
    Waits config w₀ rest 0 v := by
  have hserving : (Runner.opened config prepared w₀).Serving (errand (w₀.instances + 1))
      (sentWorld config w₀ rest) :=
    (ready_probed hvalid hclear rest).serving.of_same rfl rfl rfl rfl
  have hbackground := hv.outbound.background
  refine ⟨hv.holds, hserving.background hbackground, ?_, ?_, ?_, ?_⟩
  · apply haccepted.of_same
    · rw [hbackground.world]
      exact Sdk.name_entered ..
    · rw [hbackground.world]
      exact Sdk.version_entered ..
    · rw [hbackground.world]
      rfl
  · apply tally_sent.of_same
    rw [hbackground.server]
  · rw [hbackground.world]
    rfl
  · rw [hv.signals, Signals.count_openLatch]
    exact hclear.uncounted _

/-- Nothing has been started until the feature has been launched. -/
theorem goes_launched (hfaults : w₀.sdk.faults = []) : Goes (Final w₀ config.taskQueue later)
    (Runner.launch config prepared) w₀ (.ok (Runner.opened config prepared w₀))
    (Runner.launched config prepared ((errand (w₀.instances + 1)).worker config.taskQueue) w₀) := by
  refine Errand.goes_launch hvalid hclear (serves_feature _) (Sdk.makes_of_no_faults hfaults _)
    (fun v hv => final_of_unstarted ?_) (final_of_unstarted rfl)
  rw [hv.server]

variable (later) in
omit hvalid in
/-- The probe is answered after the launch. -/
theorem goes_probe {probe : Except RpcError Json} (hupdates : w₀.sdk.updates = some probe :: rest) :
    Goes (Final w₀ config.taskQueue later)
      (Runner.exec Script.skipIfUpdateNotSupported (Runner.opened config prepared w₀))
      (Runner.launched config prepared ((errand (w₀.instances + 1)).worker config.taskQueue) w₀)
      ((Capability.classify .update probe).require, Runner.opened config prepared w₀)
      (probedWorld config w₀ rest) := by
  refine goes_skipIfUpdateNotSupported (dormant_of_no_tasks hclear.tasks hclear.delayed)
    (final_of_unstarted rfl) ?_ (final_of_unstarted rfl)
  show (w₀.sdk.entered Runner.launchCalls).updates = some probe :: rest
  rw [Sdk.entered_eq]
  exact hupdates

/-- Whatever the schedule, the workflow is started if updates are supported, and its activity waits before
the first update is sent. -/
theorem surely_waits {probe : Except RpcError Json} (hprobe : Fails .notFound probe)
    (hupdates : w₀.sdk.updates = some probe :: rest)
    (haccepted : (errand (w₀.instances + 1)).Accepted config dir (.int count) w₀)
    {Q : Except Error (Option Run) × Runner → World → Prop}
    (hnext : ∀ v, Waits config w₀ rest 0 v → Surely (Final w₀ config.taskQueue later) Q
      (Runner.exec (do
        sendUpdates (w₀.instances + 1) (nextRun config w₀).execution.workflowId 0 count
        Script.perform (.openLatch (finish (w₀.instances + 1)))
        return some (nextRun config w₀)) (Runner.opened config prepared w₀), v)) :
    Surely (Final w₀ config.taskQueue later) Q
      (Runner.exec (script (w₀.instances + 1)) (Runner.opened config prepared w₀),
        Runner.launched config prepared ((errand (w₀.instances + 1)).worker config.taskQueue) w₀) := by
  have hready := ready_probed hvalid hclear rest
  have hprobes := goes_probe later hclear hupdates
  rw [require_of_fails hprobe] at hprobes
  refine Runner.goes_exec_bind hprobes ?_
  have hne : (errand (w₀.instances + 1)).started ≠ (errand (w₀.instances + 1)).gate := by
    have hname : "started" ≠ "finish" := by decide
    exact fun heq => hname (congrArg SignalId.name heq)
  refine hready.surely_held startLimit (hclear.closed _) (hclear.closed _) hne
    (final_of_unstarted rfl) (fun v hv => ?_) ?_ (fun v hv => ?_)
  · obtain hr | hr := hv.record
    · exact final_of_open hr rfl
    · exact final_of_open hr rfl
  · rw [startLimit, Duration.ticks_ofSeconds]
    omega
  · exact hnext v (waits_of_held hvalid hclear hv haccepted)

end

/-! ## After the last rejection -/

/-- All updates have been rejected, and the activity may end. -/
structure Released (config : Config) (w₀ : World) (later : List (Option (Except RpcError Json)))
    (v : World) : Prop where
  frees : (errand (w₀.instances + 1)).Frees (Errand.nextRun config.taskQueue w₀).workflowId
    w₀.server.workers.length ((errand (w₀.instances + 1)).record config.taskQueue w₀)
    (.ok (.int count)) v
  serving : (Runner.opened config prepared w₀).Serving (errand (w₀.instances + 1)) v
  accepted : (errand (w₀.instances + 1)).Accepted config dir (.int count) v
  tally : w₀.Tally v 1 1 0 0
  updates : v.sdk.updates = later

/-- The activity is let through when the number of rejections is final. -/
theorem Waits.released (h : Waits config w₀ later count w) :
    Released config w₀ later (w.openLatch (finish (w₀.instances + 1))) := by
  let x := errand (w₀.instances + 1)
  have hopens : w.openLatch (finish (w₀.instances + 1)) = { w with
      signals := w.signals.openLatch x.gate, server := w.server.letThrough x.gate } :=
    h.holds.openLatch_eq
  -- the counter is read when the latch is open, and no rejection comes after that
  have hends : x.tail.Ends (w.signals.openLatch x.gate) (.ok (.int count)) := by
    refine .readCounter ?_
    rw [Signals.count_openLatch, h.rejections]
    exact .done _
  refine ⟨h.holds.frees hends, h.serving.openLatch _, ?_, ?_, ?_⟩
  · rw [hopens]
    exact h.accepted.of_same rfl rfl rfl
  · rw [hopens]
    exact h.tally.of_same rfl
  · rw [hopens]
    exact h.updates

/-- The run has been checked, and can be closed. -/
structure Finished (config : Config) (w₀ : World) (later : List (Option (Except RpcError Json)))
    (v : World) : Prop where
  settled : (errand (w₀.instances + 1)).Settled w₀ (Runner.opened config prepared w₀) (.int count) v
  tally : w₀.Tally v 1 1 0 0
  updates : v.sdk.updates = later

theorem Finished.consults {w' : World} (h : Finished config w₀ later w) (hconsults : w.Consults w') :
    Finished config w₀ later w' where
  settled := h.settled.consults hconsults
  tally := h.tally.consults hconsults
  updates := by
    rw [hconsults.world]
    exact h.updates

/-- The result is accepted, no rejected update is on record, and the histories are accepted. -/
theorem Released.surely_finished (h : Released config w₀ later w) :
    Surely (Final w₀ config.taskQueue later)
      (fun y v => y = (.ok (), Runner.opened config prepared w₀) ∧ Finished config w₀ later v)
      (Runner.exec (do
        Script.checkResult (some (.int count)) (nextRun config w₀)
        Script.requireNoUpdateRejected (nextRun config w₀)
        Script.checkHistories (nextRun config w₀)) (Runner.opened config prepared w₀), w) := by
  have hupdates : ∀ v, w.Background v → v.sdk.updates = later := by
    intro v hv
    rw [hv.world]
    exact h.updates
  have hfinal : ∀ v, v.sdk.updates = later → Final w₀ config.taskQueue later v :=
    fun _ => final_of_updates
  have hchecked := h.frees.surely_checkResult h.serving (fun v hv => hfinal v (hupdates v hv)) rfl rfl
  refine Runner.surely_exec_bind hchecked fun y v hy => ⟨(), _, hy.1, ?_⟩
  obtain ⟨-, hv, hsettled⟩ := hy
  have hfinished : Finished config w₀ later v :=
    ⟨hsettled, h.tally.of_same (by rw [hv.server]), hupdates v hv⟩
  obtain ⟨u, hconsults, hfiles, hrequires⟩ := hsettled.goes_requireNoUpdateRejected
    (fun u hu => hfinal u (hfinished.consults hu).updates)
  refine Runner.goes_exec_bind hrequires ?_
  have hfinished' := hfinished.consults hconsults
  have haccepted : (errand (w₀.instances + 1)).Accepted config dir (.int count) u := by
    apply h.accepted.of_same
    · rw [hconsults.world, hv.world]
    · rw [hconsults.world, hv.world]
    · rw [hfiles, hv.world]
  obtain ⟨u', hconsults', hchecks⟩ := hfinished'.settled.goes_checkHistories haccepted
    (fun u' hu' => hfinal u' (hfinished'.consults hu').updates)
  exact hchecks.mono fun y v hy => ⟨hy.1, hy.2 ▸ hfinished'.consults hconsults'⟩

/-! ## The whole run -/

section

variable {probe : Except RpcError Json} (hvalid : config.validate = .ok ())
  (hclear : w₀.Clear config.taskQueue) (hfaults : w₀.sdk.faults = [])
include hvalid hclear hfaults

/-- If the probe finds no support, nothing is started. -/
theorem surely_skips (hprobe : ¬ Fails .notFound probe) {answers : List (Except RpcError Json)}
    (hupdates : w₀.sdk.updates = some probe :: (answers.map some ++ later)) :
    Surely (Final w₀ config.taskQueue later) (Ends w₀ config.taskQueue probe answers later)
      (runFeature config prepared, w₀) := by
  let r := Runner.opened config prepared w₀
  let w₁ := probedWorld config w₀ (answers.map some ++ later)
  obtain ⟨reason, hreason⟩ := require_of_not_fails hprobe
  have hready := ready_probed hvalid hclear (answers.map some ++ later)
  have hprobes := goes_probe later hclear hupdates
  rw [hreason] at hprobes
  -- nothing is started on the way out either, so there is no activity whose end could be on record
  have hfinal : ∀ v, w₁.Closes v → Final w₀ config.taskQueue later v := by
    intro v hv
    apply final_of_unstarted
    rw [hv.server]
    rfl
  have hscript : Goes (Final w₀ config.taskQueue later) r.run _ (.error (.skipped reason), r) w₁ :=
    Runner.goes_exec_error (Runner.goes_exec_error hprobes (hfinal w₁ (.refl w₁))) (hfinal w₁ (.refl w₁))
  refine surely_runFeature (goes_launched hvalid hclear hfaults) hscript ?_
  rintro result r' v ⟨heq, rfl⟩
  cases heq
  obtain ⟨v, hcloses, hgoes⟩ := hready.serving.toClosable.goes_close
    (dormant_of_no_tasks hready.idle.tasks hready.idle.delayed) hfinal
  obtain ⟨stops, htally⟩ := tally_probed.closes hcloses
  refine ⟨v, hgoes, hfinal v hcloses, .skipped reason hprobe rfl ?_ htally.updates htally.starts ?_⟩
  · rw [hcloses.world]
    rfl
  · rw [hcloses.server]
    rfl

variable (hprobe : Fails .notFound probe)
  (haccepted : (errand (w₀.instances + 1)).Accepted config dir (.int count) w₀)
include hprobe haccepted

/-- If all updates are rejected, the run passes. -/
theorem surely_passes {answers : List (Except RpcError Json)} (hcount : answers.length = count)
    (hall : ∀ a ∈ answers, Fails .invalidArgument a)
    (hupdates : w₀.sdk.updates = some probe :: (answers.map some ++ later)) :
    Surely (Final w₀ config.taskQueue later) (Ends w₀ config.taskQueue probe answers later)
      (runFeature config prepared, w₀) := by
  let r := Runner.opened config prepared w₀
  refine surely_runFeature (R := fun y v => y = (.ok (), r) ∧ Finished config w₀ later v)
    (goes_launched hvalid hclear hfaults) ?_ ?_
  · refine Runner.surely_exec_bind (R := fun y v => y = (.ok (some (nextRun config w₀)), r) ∧
      Released config w₀ later v) ?_ fun y v hy => ⟨_, r, hy.1, hy.2.surely_finished⟩
    refine surely_waits hvalid hclear hprobe hupdates haccepted fun v hv => ?_
    have hsends : Surely (Final w₀ config.taskQueue later)
        (fun y u => y = (.ok (), r) ∧ Waits config w₀ later count u)
        (Runner.exec (sendUpdates (w₀.instances + 1) (nextRun config w₀).execution.workflowId 0 count) r,
          v) := by
      rw [← hcount]
      refine surely_sendUpdates hall hv 0 fun u hu => ?_
      rw [Nat.zero_add] at hu
      exact .done hu.final ⟨rfl, hu⟩
    refine Runner.surely_exec_bind hsends fun y u hy => ⟨(), r, hy.1, ?_⟩
    have hreleased := hy.2.released
    refine Runner.goes_perform_bind (.openLatch _) (Runner.goes_openLatch hy.2.holds.dormant hy.2.final
      (final_of_updates hreleased.updates) r) ?_
    exact .done (final_of_updates hreleased.updates) ⟨rfl, hreleased⟩
  · rintro result r' v ⟨heq, hfinished⟩
    cases heq
    have hupdates' : ∀ u, v.Closes u → u.sdk.updates = later := fun u hu => by
      rw [hu.world]
      exact hfinished.updates
    obtain ⟨v', hcloses, hgoes⟩ := hfinished.settled.serving.toClosable.goes_close
      hfinished.settled.dormant fun u hu => final_of_updates (hupdates' u hu)
    obtain ⟨stops, htally⟩ := hfinished.tally.closes hcloses
    refine ⟨v', hgoes, final_of_updates (hupdates' v' hcloses), .passed hprobe hall rfl
      (hupdates' v' hcloses) htally.updates htally.starts ?_⟩
    rw [hcloses.server]
    exact hfinished.settled.completion

/-- An update that is not rejected ends the run. Its execution goes on, and waits for ever. -/
theorem surely_fails {answers before after : List (Except RpcError Json)} {a : Except RpcError Json}
    (hcount : answers.length = count) (hanswers : answers = before ++ a :: after)
    (hbefore : ∀ b ∈ before, Fails .invalidArgument b) (ha : ¬ Fails .invalidArgument a)
    (hupdates : w₀.sdk.updates = some probe :: (answers.map some ++ later)) :
    Surely (Final w₀ config.taskQueue later) (Ends w₀ config.taskQueue probe answers later)
      (runFeature config prepared, w₀) := by
  let r := Runner.opened config prepared w₀
  obtain ⟨reason, hreason⟩ := requireRejected_of_not_fails ha before.length
  let e := Error.assertion ("update " ++ toString before.length ++ " " ++ reason)
  refine surely_runFeature (R := fun y v => y = (.error e, r) ∧
    Waits config w₀ (after.map some ++ later) before.length v)
    (goes_launched hvalid hclear hfaults) ?_ ?_
  · refine Runner.surely_exec_error (surely_waits hvalid hclear hprobe hupdates haccepted fun v hv => ?_)
      fun v hv => hv.final
    refine Runner.surely_exec_error ?_ fun v hv => hv.final
    -- the updates before the first one that is not rejected, that one, and those that are never sent
    have hlength : count = before.length + (after.length + 1) := by
      rw [← hcount, hanswers, List.length_append, List.length_cons]
    rw [hanswers, List.map_append, List.append_assoc] at hv
    rw [hlength]
    refine surely_sendUpdates hbefore hv (after.length + 1) fun u hu => ?_
    rw [Nat.zero_add] at hu ⊢
    refine (goes_sendUpdates_of_not_fails hu hreason).mono fun y u' hu' => ⟨hu'.1, ?_⟩
    rw [hu'.2]
    exact hu.answered
  · rintro result r' v ⟨heq, hwaits⟩
    cases heq
    have hholds : ∀ u, v.Closes u → _ := fun u hu => hwaits.holds.closes hu
    obtain ⟨v', hcloses, hgoes⟩ := hwaits.serving.toClosable.goes_close hwaits.holds.dormant
      fun u hu => final_of_open (hholds u hu).record rfl
    obtain ⟨stops, htally⟩ := hwaits.tally.closes hcloses
    have hholds' := hholds v' hcloses
    refine ⟨v', hgoes, final_of_open hholds'.record rfl, .failed before a after reason hprobe hanswers
      hbefore ha rfl ?_ htally.updates htally.starts ⟨_, hholds'.record, rfl, rfl⟩ hholds'.unpublished
      hholds'.dormant⟩
    rw [hcloses.world]
    exact hwaits.updates

end

/-- Whatever the schedule: if the answer to the probe is no error that tells that its workflow does not
exist, the feature is skipped after one update, and nothing is started. Otherwise its workflow is started,
and it passes if five updates are all rejected, with their number as the result. The first update that is
not rejected is the last one that is sent: the run has failed and names its number, and the execution goes
on for ever. No update but those that the SDK answers is sent, and the number that the activity reports is
final. -/
theorem passes_on_five_rejections (hvalid : config.validate = .ok ()) (hclear : w₀.Clear config.taskQueue)
    (hfaults : w₀.sdk.faults = []) {probe : Except RpcError Json}
    {answers : List (Except RpcError Json)} (hcount : answers.length = count)
    (hupdates : w₀.sdk.updates = some probe :: (answers.map some ++ later))
    (haccepted : (errand (w₀.instances + 1)).Accepted config dir (.int count) w₀) :
    Surely (Final w₀ config.taskQueue later)
      (fun o w => Ends w₀ config.taskQueue probe answers later o w ∧
        (o = .passed ↔ Fails .notFound probe ∧ ∀ a ∈ answers, Fails .invalidArgument a))
      (runFeature config prepared, w₀) := by
  have hends : Surely (Final w₀ config.taskQueue later) (Ends w₀ config.taskQueue probe answers later)
      (runFeature config prepared, w₀) := by
    by_cases hprobe : Fails .notFound probe
    · obtain hall | ⟨before, a, after, hanswers, hbefore, ha⟩ := first_not_rejected answers
      · exact surely_passes hvalid hclear hfaults hprobe haccepted hcount hall hupdates
      · exact surely_fails hvalid hclear hfaults hprobe haccepted hcount hanswers hbefore ha hupdates
    · exact surely_skips hvalid hclear hfaults hprobe hupdates
  exact hends.mono fun o w h => ⟨h, h.eq_passed_iff⟩

/-- A world in which nothing has happened, without fixtures, and an SDK that answers as a server does which
supports updates. -/
theorem passes_in_fresh_world :
    let config : Config := { server := "host", ns := "default", taskQueue := "queue" }
    let rejection : Except RpcError Json := .error ⟨.invalidArgument, "no handler"⟩
    let answers := List.replicate count rejection
    let missing : Except RpcError Json := .error ⟨.notFound, "workflow not found"⟩
    let w₀ : World := { sdk := { updates := some missing :: answers.map some } }
    Surely (Final w₀ config.taskQueue []) (fun o _ => o = .passed) (runFeature config prepared, w₀) := by
  intro config rejection answers missing w₀
  have hvalid : config.validate = .ok () := by decide
  have haccepted : (errand (w₀.instances + 1)).Accepted config dir (.int count) w₀ := by
    apply FixtureStore.accepts_of_missing
    unfold FixtureStore.forFeature
    rw [Path.segments_eq]
    decide +kernel
  have hcount : answers.length = count := List.length_replicate ..
  have hupdates : w₀.sdk.updates = some missing :: (answers.map some ++ []) := by
    rw [List.append_nil]
  have hall : ∀ a ∈ answers, Fails .invalidArgument a := by
    intro a ha
    rw [List.eq_of_mem_replicate ha]
    rfl
  have hruns := passes_on_five_rejections hvalid (clear_of_fresh rfl rfl rfl _) rfl hcount hupdates
    haccepted
  exact hruns.mono fun o w h => h.2.mpr ⟨rfl, hall⟩

end Conformance.Features.NonDurableReject
