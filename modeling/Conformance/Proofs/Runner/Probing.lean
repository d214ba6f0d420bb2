import Conformance.Proofs.Alone.Scripts
import Conformance.Proofs.Server.Numbering

/-!
# What the probes of optional calls tell

A feature that needs an optional call first sends it for a workflow id that nobody should use, and
concludes from the error whether the server supports it. The conclusion is right as long as no run of
that id is under way; a server does not keep anybody from starting one.

## Main definitions

- `Server.Runs` — a run of a workflow id is under way
- `OptionalRpc.CheckedBy` — the checks that features make, each with its call
- `Server.Request.StartsUnder` — a start under a given id

## Main statements

- `Server.not_runs_of_run` — an id that is not made by the server runs only if it was started under
- `OptionalRpc.check_tells_mode` — what both checks say of a server
- `OptionalRpc.check_of_probe_workflow` — a server that supports updates, and is said not to
-/

namespace Conformance

/-! ## Ids that nobody uses -/

namespace Server

/-- A run of the workflow id is under way. -/
def Runs (s : Server) (workflowId : String) : Prop :=
  (s.executions.get? workflowId).map (·.status) = some .running

instance (s : Server) (workflowId : String) : Decidable (s.Runs workflowId) :=
  inferInstanceAs (Decidable (_ = _))

/-- The request starts a workflow under an id of its own choice. -/
def Request.StartsUnder (workflowId : String) : Request → Prop
  | .startWorkflow _ _ _ options _ => options.workflowId = some workflowId
  | _ => False

/-- The server makes the id from the number of a start. -/
def IsMade (workflowId : String) : Prop := ∃ n : Nat, workflowId = "loopback-workflow-" ++ toString n

theorem nextRun_workflowId_ne {s : Server} {options : WorkflowOptions} {id : String}
    (hmade : ¬ IsMade id) (hgiven : options.workflowId ≠ some id) :
    (s.nextRun options).workflowId ≠ id := by
  intro h
  cases hid : options.workflowId with
  | none => exact hmade ⟨s.starts + 1, by rw [← h, nextRun, hid, Option.getD_none]⟩
  | some given =>
    apply hgiven
    rw [hid, ← h, nextRun, hid, Option.getD_some]

/-- Serving a request makes no record of an id that it does not start. -/
theorem executions_get?_serve_eq_none {s : Server} {q : Request} {id : String}
    (hmade : ¬ IsMade id) (hq : ¬ q.StartsUnder id) (h : s.executions.get? id = none) :
    (s.serve q).2.executions.get? id = none := by
  have hserved := serve_cases s q
  generalize (s.serve q).1 = answer, (s.serve q).2 = s' at hserved ⊢
  cases hserved with
  | quiet _ hquiet => rw [hquiet.executions, h]
  | accept target ns workflowType options args _ =>
    rw [executions_accept, if_neg (nextRun_workflowId_ne hmade hq), h]
  | attach target id' => rw [(executions_attach s target id').1, h]
  | detach id' => rw [detach_eq, h]

/-- An id that the server does not make and nobody has started is not recorded, and so it does not
run. -/
theorem not_runs_of_run {s₀ s : Server} {log : List Exchange} {id : String} (h₀ : Fresh s₀)
    (h : Run s₀ log s) (hmade : ¬ IsMade id) (hlog : ∀ x ∈ log, ¬ x.request.StartsUnder id) :
    ¬ s.Runs id := by
  have hnone : s.executions.get? id = none := by
    induction h with
    | start =>
      obtain ⟨updateSupport, refused, failingShutdown, rfl⟩ := h₀
      rfl
    | serve hrun q ih =>
      have hnone := ih fun x hx => hlog x (List.mem_append_left _ hx)
      have hserved := hlog _ (List.mem_append_right _ (List.mem_singleton_self _))
      exact executions_get?_serve_eq_none hmade hserved hnone
    | task hrun hstep ih =>
      -- a task rewrites the record of its own id, which is there already
      obtain ⟨t, t', r, r', rest, hmove⟩ := (accounted_of_run h₀ hrun).taskMove hstep
      have hne : t.workflowId ≠ id := by
        intro heq
        have hfound := hmove.found
        rw [heq, ih hlog] at hfound
        cases hfound
      rw [hmove.rewrites, if_neg hne]
      exact ih hlog
    | letThrough _ latch ih => exact ih hlog
  simp [Runs, hnone]

/-- The code with which an update ends. -/
theorem code_updateError (s : Server) (workflowId name : String) :
    (s.updateError workflowId name).code = match s.updateSupport with
      | .disabled => .permissionDenied
      | .unimplemented => .unimplemented
      | .enabled => if s.Runs workflowId then .invalidArgument else .notFound := by
  unfold updateError
  cases s.updateSupport with
  | disabled | unimplemented => rfl
  | enabled =>
    cases hrecord : s.executions.get? workflowId with
    | none => simp [Runs, hrecord]
    | some r => by_cases hrunning : r.status = .running <;> simp [Runs, hrecord, hrunning]

end Server

/-! ## The checks -/

namespace OptionalRpc

/-- What a feature is told that is skipped because the call is disabled. -/
def disabledReason (rpc : OptionalRpc) : String :=
  "server support for " ++ rpc.name ++ " is disabled; set " ++ rpc.flag ++
    "=true in dynamic config to enable"

/-- What a feature is told that is skipped because the server does not know the call. -/
def tooOldReason (rpc : OptionalRpc) : String :=
  "server version too old to support " ++ rpc.minimum

/-- The checks that features make, each with the call that it is about. -/
inductive CheckedBy : OptionalRpc → Script Unit → Prop
  | update : CheckedBy .update Script.skipIfUpdateNotSupported
  | asyncAcceptedUpdate : CheckedBy .asyncAcceptedUpdate Script.skipIfAsyncUpdateNotSupported

theorem not_isMade_probeWorkflow : ¬ Server.IsMade probeWorkflow := by
  rintro ⟨n, h⟩
  have hlength := congrArg String.length h
  rw [String.length_append] at hlength
  have hshort : probeWorkflow.length = 4 := rfl
  have hlong : "loopback-workflow-".length = 18 := rfl
  omega

/-- What a check concludes from the answer of the server. -/
def conclusion (rpc : OptionalRpc) (s : Server) : Except Error Unit :=
  match s.updateSupport with
  | .disabled => .error (.skipped rpc.disabledReason)
  | .unimplemented => .error (.skipped rpc.tooOldReason)
  | .enabled => if s.Runs probeWorkflow then .error (.skipped "unknown") else .ok ()

theorem classify_updateError {α : Type} (rpc : OptionalRpc) (s : Server) (name : String) :
    (Capability.classify (α := α) rpc (.error (s.updateError probeWorkflow name))).require =
      rpc.conclusion s := by
  have hcode := s.code_updateError probeWorkflow name
  unfold Capability.classify conclusion
  dsimp only
  rw [hcode]
  cases s.updateSupport with
  | disabled | unimplemented => rfl
  | enabled => by_cases hruns : s.Runs probeWorkflow <;> simp [hruns, Capability.require]

/-- The probe is taken notice of, at the address of initiating calls. -/
def probed (r : Runner) (w : World) : World :=
  { w with
    sdk := w.sdk.nextUpdate.2
    server := w.server.record (w.server.targetOf r.initiatorClient.connection) .update }

variable {rpc : OptionalRpc} {check : Script Unit} {w : World}

theorem update_probe (r : Runner) (hunscripted : w.sdk.nextUpdate.1 = none) :
    World.update r.initiatorClient probeWorkflow probeUpdate w =
      (.error (w.server.updateError probeWorkflow probeUpdate), probed r w) := by
  cases hnext : w.sdk.nextUpdate with
  | mk answer sdk =>
    rw [hnext] at hunscripted
    cases hunscripted
    unfold World.update probed
    rw [hnext]
    rfl

/-- A check draws the conclusion and leaves everything but the record of calls as it was. -/
theorem run_check (hcheck : CheckedBy rpc check) (r : Runner)
    (hunscripted : w.sdk.nextUpdate.1 = none) :
    (r.exec check).run w = ((rpc.conclusion w.server, r), probed r w) := by
  have hprobe := update_probe r hunscripted
  cases hcheck with
  | update =>
    have hperform : (r.perform (.update probeWorkflow probeUpdate)).run w =
        ((.ok (.error (w.server.updateError probeWorkflow probeUpdate)), r), probed r w) := by
      rw [Runner.perform, Program.run_bind', Program.run_lift, hprobe]
      rfl
    rw [Script.skipIfUpdateNotSupported, Runner.run_exec_perform_of_ok hperform,
      classify_updateError]
    rfl
  | asyncAcceptedUpdate =>
    have hperform : (r.perform (.startUpdate probeWorkflow probeUpdate)).run w =
        ((.ok (.error (w.server.updateError probeWorkflow probeUpdate)), r), probed r w) := by
      rw [Runner.perform, Program.run_bind', Program.run_lift, World.startUpdate, hprobe]
      rfl
    rw [Script.skipIfAsyncUpdateNotSupported, Runner.run_exec_perform_of_ok hperform,
      classify_updateError]
    rfl

/-- The three reasons for a skip differ. -/
theorem reasons_differ (hcheck : CheckedBy rpc check) :
    rpc.disabledReason ≠ rpc.tooOldReason ∧ rpc.disabledReason ≠ "unknown" ∧
      rpc.tooOldReason ≠ "unknown" := by
  cases hcheck <;> decide

section

variable (hcheck : CheckedBy rpc check) (s : Server)
include hcheck

theorem conclusion_eq_disabled_iff :
    rpc.conclusion s = .error (.skipped rpc.disabledReason) ↔ s.updateSupport = .disabled := by
  obtain ⟨hne, hne', -⟩ := reasons_differ hcheck
  unfold conclusion
  cases s.updateSupport with
  | disabled => simp
  | unimplemented => simp [hne.symm]
  | enabled => by_cases hruns : s.Runs probeWorkflow <;> simp [hruns, hne'.symm]

theorem conclusion_eq_tooOld_iff :
    rpc.conclusion s = .error (.skipped rpc.tooOldReason) ↔ s.updateSupport = .unimplemented := by
  obtain ⟨hne, -, hne'⟩ := reasons_differ hcheck
  unfold conclusion
  cases s.updateSupport with
  | disabled => simp [hne]
  | unimplemented => simp
  | enabled => by_cases hruns : s.Runs probeWorkflow <;> simp [hruns, hne'.symm]

theorem conclusion_eq_unknown_iff :
    rpc.conclusion s = .error (.skipped "unknown") ↔
      s.updateSupport = .enabled ∧ s.Runs probeWorkflow := by
  obtain ⟨-, hne, hne'⟩ := reasons_differ hcheck
  unfold conclusion
  cases s.updateSupport with
  | disabled => simp [hne]
  | unimplemented => simp [hne']
  | enabled => by_cases hruns : s.Runs probeWorkflow <;> simp [hruns]

end

theorem conclusion_eq_ok_iff (rpc : OptionalRpc) (s : Server) :
    rpc.conclusion s = .ok () ↔ s.updateSupport = .enabled ∧ ¬ s.Runs probeWorkflow := by
  unfold conclusion
  cases s.updateSupport with
  | disabled | unimplemented => simp
  | enabled => by_cases hruns : s.Runs probeWorkflow <;> simp [hruns]

/-- What a check says: it passes if the server supports updates and no run of the workflow that it
addresses is under way. If updates are disabled or not known, it skips the feature with a reason that
names the setting or the age of the server. If the workflow runs after all, the feature is skipped for
an unknown reason although updates are supported; but then somebody has started it under its id. The
check changes nothing at the server but the record of calls. -/
theorem check_tells_mode (hcheck : CheckedBy rpc check) (r : Runner)
    (hunscripted : w.sdk.nextUpdate.1 = none) :
    let result := ((r.exec check).run w).1.1
    let after := ((r.exec check).run w).2
    (result = .ok () ↔ w.server.updateSupport = .enabled ∧ ¬ w.server.Runs probeWorkflow) ∧
    (result = .error (.skipped rpc.disabledReason) ↔ w.server.updateSupport = .disabled) ∧
    (result = .error (.skipped rpc.tooOldReason) ↔ w.server.updateSupport = .unimplemented) ∧
    (result = .error (.skipped "unknown") ↔
      w.server.updateSupport = .enabled ∧ w.server.Runs probeWorkflow) ∧
    (∀ s₀ log, Server.Fresh s₀ → Server.Run s₀ log w.server →
      (∀ x ∈ log, ¬ x.request.StartsUnder probeWorkflow) →
      (result = .ok () ↔ w.server.updateSupport = .enabled)) ∧
    after.server = w.server.record (w.server.targetOf r.initiatorClient.connection) .update := by
  intro result after
  have hrun := run_check hcheck r hunscripted
  have hresult : result = rpc.conclusion w.server := congrArg (·.1.1) hrun
  have hok := conclusion_eq_ok_iff rpc w.server
  rw [hresult]
  refine ⟨hok, conclusion_eq_disabled_iff hcheck _, conclusion_eq_tooOld_iff hcheck _,
    conclusion_eq_unknown_iff hcheck _, fun s₀ log h₀ hreached hlog => ?_, ?_⟩
  -- no id that the server makes is that of the probe, and nobody else has used it
  · have hidle := Server.not_runs_of_run h₀ hreached not_isMade_probeWorkflow hlog
    simp [hok, hidle]
  · exact congrArg (·.2.server) hrun

/-- The check of a runner whose feature has started nothing. -/
theorem check_tells_mode_of_fresh_server :
    let service : Client := ⟨0, "default"⟩
    let r : Runner :=
      { config := { server := "server:1", ns := "default", taskQueue := "queue" }
        dir := "", methods := [], feature := { workflows := [] }, service := 0, directService := 0
        client := service, directClient := service, proxy := ⟨none⟩ }
    let w : World := {}
    CheckedBy .update Script.skipIfUpdateNotSupported ∧ w.sdk.nextUpdate.1 = none ∧
      ((r.exec Script.skipIfUpdateNotSupported).run w).1.1 = .ok () := by
  intro service r w
  have htells := check_tells_mode CheckedBy.update r (w := w) rfl
  exact ⟨.update, rfl, htells.1.mpr ⟨rfl, by decide⟩⟩

/-- Updates are supported, and a run has been started under the id of the probe. Both checks take this
for missing support. -/
theorem check_of_probe_workflow :
    let start : Server.Request :=
      .startWorkflow "server:1" (some "default") "Flow"
        { workflowId := some "fake", taskQueue := "queue" } []
    let s := (({} : Server).serve start).2
    Server.Run {} [⟨start, (({} : Server).serve start).1⟩] s ∧ s.updateSupport = .enabled ∧
      ∀ rpc check, CheckedBy rpc check → ∀ (r : Runner) (w : World), w.server = s →
        w.sdk.updates = [] → ((r.exec check).run w).1.1 = .error (.skipped "unknown") := by
  intro start s
  refine ⟨Server.Run.start.serve start, rfl, fun rpc check hcheck r w hserver hupdates => ?_⟩
  have hunscripted : w.sdk.nextUpdate.1 = none := by rw [Sdk.nextUpdate, hupdates]
  rw [run_check hcheck r hunscripted, hserver, conclusion_eq_unknown_iff hcheck]
  exact ⟨rfl, by decide⟩

end OptionalRpc

end Conformance
