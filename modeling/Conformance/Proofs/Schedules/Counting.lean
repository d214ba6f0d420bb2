import Conformance.Proofs.Schedules.Running

/-!
# Counting calls

How many calls of a kind a server has been asked for since an earlier moment. A worker that is started
polls once, so that its polls tell how many workers have been started.

## Main definitions

- `World.callsSince` — how many calls of an operation have been made since another world
- `World.Tally` — how many workflows and workers have been started since then, and so on

## Main statements

- `World.Tally.append` — what calls add to a tally
- `World.Tally.consults`, `World.Tally.closes` — what a check of histories and a release add to it
-/

namespace Conformance

namespace World

/-- How many calls of an operation have been made since the world was `w₀`. -/
def callsSince (w₀ w : World) (operation : Operation) : Nat :=
  ((w.server.calls.drop w₀.server.calls.length).filter (·.operation = operation)).length

/-- How many workflows and workers have been started since the world was `w₀`, how often a worker has been
stopped, and how many updates have reached the server: a worker that is started polls. -/
structure Tally (w₀ w : World) (starts polls stops updates : Nat) : Prop where
  le : w₀.server.calls.length ≤ w.server.calls.length
  starts : w₀.callsSince w .startWorkflow = starts
  polls : w₀.callsSince w .pollTaskQueue = polls
  stops : w₀.callsSince w .shutdownWorkerFactory = stops
  updates : w₀.callsSince w .update = updates

variable {w₀ w w' : World} {starts polls stops updates : Nat}

theorem tally_self (w : World) : w.Tally w 0 0 0 0 := by
  refine ⟨Nat.le_refl _, ?_, ?_, ?_, ?_⟩ <;> simp [callsSince]

theorem callsSince_append (hle : w₀.server.calls.length ≤ w.server.calls.length) {log : List Call}
    (h : w'.server.calls = w.server.calls ++ log) (operation : Operation) :
    w₀.callsSince w' operation =
      w₀.callsSince w operation + (log.filter (·.operation = operation)).length := by
  unfold callsSince
  rw [h, List.drop_append_of_le_length hle, List.filter_append, List.length_append]

/-- What calls add to a tally. -/
theorem Tally.append (h : w₀.Tally w starts polls stops updates) (log : List Call)
    (hcalls : w'.server.calls = w.server.calls ++ log) :
    w₀.Tally w' (starts + (log.filter (·.operation = .startWorkflow)).length)
      (polls + (log.filter (·.operation = .pollTaskQueue)).length)
      (stops + (log.filter (·.operation = .shutdownWorkerFactory)).length)
      (updates + (log.filter (·.operation = .update)).length) where
  le := by
    rw [hcalls, List.length_append]
    exact Nat.le_trans h.le (Nat.le_add_right ..)
  starts := by rw [callsSince_append h.le hcalls, h.starts]
  polls := by rw [callsSince_append h.le hcalls, h.polls]
  stops := by rw [callsSince_append h.le hcalls, h.stops]
  updates := by rw [callsSince_append h.le hcalls, h.updates]

/-- Without a call the tally stays. -/
theorem Tally.of_same (h : w₀.Tally w starts polls stops updates)
    (hcalls : w'.server.calls = w.server.calls) : w₀.Tally w' starts polls stops updates :=
  h.append [] (hcalls.trans (List.append_nil _).symm)

theorem length_filter_of_none {log : List Call} {operation : Operation}
    (h : ∀ c ∈ log, c.operation ≠ operation) :
    (log.filter (·.operation = operation)).length = 0 := by
  rw [List.length_eq_zero_iff, List.filter_eq_nil_iff]
  intro c hc
  simpa using h c hc

/-- Histories that are asked for do not count. -/
theorem Tally.consults (h : w₀.Tally w starts polls stops updates) (hconsults : w.Consults w') :
    w₀.Tally w' starts polls stops updates := by
  obtain ⟨log, hcalls, hfetches⟩ := hconsults.calls
  have hnone : ∀ operation, operation ≠ .fetchHistory →
      (log.filter (·.operation = operation)).length = 0 := by
    intro operation hne
    refine length_filter_of_none fun c hc heq => hne ?_
    rw [← heq, hfetches c hc]
  have happended := h.append log hcalls
  rwa [hnone .startWorkflow nofun, hnone .pollTaskQueue nofun, hnone .shutdownWorkerFactory nofun,
    hnone .update nofun] at happended

/-- Releases count as such only. -/
theorem Tally.closes (h : w₀.Tally w starts polls stops updates) (hcloses : w.Closes w') :
    ∃ stops', w₀.Tally w' starts polls stops' updates := by
  obtain ⟨log, hcalls, hreleases⟩ := hcloses.calls
  have hnone : ∀ operation, operation ≠ .shutdownWorkerFactory → operation ≠ .shutdownService →
      (log.filter (·.operation = operation)).length = 0 := by
    intro operation hfactory hservice
    refine length_filter_of_none fun c hc heq => ?_
    exact (hreleases c hc).elim (fun h' => hfactory (heq ▸ h')) fun h' => hservice (heq ▸ h')
  have happended := h.append log hcalls
  rw [hnone .startWorkflow nofun nofun, hnone .pollTaskQueue nofun nofun, hnone .update nofun nofun]
    at happended
  exact ⟨_, happended⟩

/-- The worker of a launch polls. -/
theorem tally_launched (config : Config) (prepared : PreparedFeature) (x : Worker) (w : World) :
    w.Tally (Runner.launched config prepared x w) 0 1 0 0 :=
  (tally_self w).append [⟨_, .pollTaskQueue, none⟩] rfl

/-- Sending an errand starts its workflow. -/
theorem Tally.sent (h : w₀.Tally w starts polls stops updates) (x : Errand) (r : Runner)
    (worker : WorkerId) : w₀.Tally (x.sent r worker w) (starts + 1) polls stops updates :=
  h.append [⟨_, .startWorkflow, _⟩] rfl

end World

end Conformance
