import Conformance.Program
import Conformance.Proofs.Delivery.Completions

/-!
# Timelines

What happens in a world is one thing after another: requests are served, tasks make steps, latches
are opened, and time passes, in any order. A program that runs meanwhile makes its own actions at
some of the moments and waits at the others.

## Main definitions

- `World.Next` — one thing that happens in a world
- `Timeline` — everything that happens from the start of a server on
- `Timeline.Recorded` — an end that has been recorded of a run
- `Timeline.Plays` — a program runs along a timeline

## Main statements

- `Timeline.persists` — a completion stays
- `Timeline.tracked` — a run is the latest of its workflow id until its completion is published
- `Timeline.recorded_of_completion` — the completion of a run has been recorded

## Design notes

A timeline is tied to no scheduler. Any task may be the next one, any request may come at any moment,
and a program may be left waiting after what it waits for has come or its deadline has passed. The
order in which a world runs its background is one of all these.
-/

namespace Conformance

/-- One thing that happens in a world: a request is served, a task makes a step, a latch is opened,
time passes, or something happens away from the server. -/
inductive World.Next (w : World) : World → Prop
  | request (q : Server.Request) : Next w { w with server := (w.server.serve q).2 }
  | task {i : Nat} {server : Server} {signals : Signals}
      (h : w.server.step? w.clock w.signals i = some (server, signals)) :
      Next w { w with server, signals }
  | latch (latch : SignalId) : Next w (w.openLatch latch)
  | time (t : Nat) : Next w (w.advanceTo t)
  | elsewhere {w' : World} (hserver : w'.server = w.server) (hclock : w'.clock = w.clock) : Next w w'

namespace World

/-- What happens one thing after another: `w` leads to the worlds of the list, the last of which is
`w'`. -/
inductive Path : World → List World → World → Prop
  | nil (w : World) : Path w [] w
  | cons {w w₁ w' : World} {ws : List World} (h : w.Next w₁) (hrest : Path w₁ ws w') :
      Path w (w₁ :: ws) w'

/-- The world at a place of a path. After the path nothing happens any more. -/
def along (w : World) : List World → Nat → World
  | _, 0 => w
  | [], _ + 1 => w
  | w₁ :: ws, n + 1 => along w₁ ws n

@[simp] theorem along_zero (w : World) (ws : List World) : along w ws 0 = w := by
  cases ws <;> rfl

theorem Path.next_along {w w' : World} {ws : List World} (h : Path w ws w') (n : Nat) :
    (along w ws n).Next (along w ws (n + 1)) := by
  induction h generalizing n with
  | nil w => cases n <;> exact .elsewhere rfl rfl
  | @cons w w₁ w' ws hnext _ ih =>
    cases n with
    | zero =>
      show (along w (w₁ :: ws) 0).Next (along w₁ ws 0)
      rw [along_zero, along_zero]
      exact hnext
    | succ n => exact ih n

end World

/-- Everything that happens from the start of a server on, moment by moment. -/
structure Timeline where
  world : Nat → World
  fresh : (world 0).server.Fresh
  next : ∀ n, (world n).Next (world (n + 1))

namespace Timeline

variable (τ : Timeline)

/-- The timeline on which the worlds of a path follow each other. -/
def ofPath {w w' : World} (hfresh : w.server.Fresh) {ws : List World} (h : w.Path ws w') : Timeline where
  world := w.along ws
  fresh := by
    rw [World.along_zero]
    exact hfresh
  next := h.next_along

/-- The server at a moment. -/
def server (n : Nat) : Server := (τ.world n).server

/-! ## The server of a timeline -/

theorem run_next {s₀ : Server} {log : List Server.Exchange} {w w' : World}
    (h : Server.Run s₀ log w.server) (hnext : w.Next w') :
    ∃ log', Server.Run s₀ log' w'.server := by
  cases hnext with
  | request q => exact ⟨_, h.serve q⟩
  | task hstep => exact ⟨_, h.task hstep⟩
  | latch latch =>
    unfold World.openLatch
    split
    · exact ⟨_, h⟩
    · exact ⟨_, h.letThrough latch⟩
  | time t => exact ⟨_, h⟩
  | elsewhere hserver _ =>
    rw [hserver]
    exact ⟨_, h⟩

theorem run (n : Nat) : ∃ log, Server.Run (τ.server 0) log (τ.server n) := by
  induction n with
  | zero => exact ⟨[], .start⟩
  | succ n ih =>
    obtain ⟨log, hrun⟩ := ih
    exact run_next hrun (τ.next n)

theorem published (n : Nat) : (τ.server n).Published := by
  obtain ⟨log, hrun⟩ := τ.run n
  exact Server.published_of_run τ.fresh hrun

theorem named (n : Nat) {id : String} {r : ExecutionRecord}
    (hr : (τ.server n).executions.get? id = some r) : r.execution.workflowId = id := by
  obtain ⟨log, hrun⟩ := τ.run n
  exact (Server.numbered_of_run τ.fresh hrun).named id r hr

theorem effect (n : Nat) : Server.Effect (τ.server n) (τ.server (n + 1)) := by
  obtain ⟨log, hrun⟩ := τ.run n
  have haccounted := Server.accounted_of_run τ.fresh hrun
  have hnext := τ.next n
  unfold server
  generalize τ.world (n + 1) = w' at hnext
  cases hnext with
  | request q => exact (Server.serve_cases _ q).effect
  | task hstep => exact Server.effect_step? haccounted hstep
  | latch latch =>
    unfold World.openLatch
    split
    · exact .nothing rfl rfl (Nat.le_refl _)
    · exact Server.effect_letThrough _ latch
  | time t => exact .nothing rfl rfl (Nat.le_refl _)
  | elsewhere hserver _ =>
    rw [hserver]
    exact .nothing rfl rfl (Nat.le_refl _)

theorem clock_next (n : Nat) : (τ.world n).clock ≤ (τ.world (n + 1)).clock := by
  have hnext := τ.next n
  generalize τ.world (n + 1) = w' at hnext
  cases hnext with
  | request _ | task _ => exact Nat.le_refl _
  | latch latch =>
    unfold World.openLatch
    split <;> exact Nat.le_refl _
  | time t => exact Nat.le_max_left ..
  | elsewhere _ hclock => exact Nat.le_of_eq hclock.symm

theorem clock_mono {n m : Nat} (h : n ≤ m) : (τ.world n).clock ≤ (τ.world m).clock := by
  induction h with
  | refl => exact Nat.le_refl _
  | step _ ih => exact Nat.le_trans ih (τ.clock_next _)

/-! ## Runs and their ends -/

theorem persists {n m : Nat} (h : n ≤ m) {key : String} {c : Completion}
    (hc : (τ.server n).completions.get? key = some c) :
    (τ.server m).completions.get? key = some c := by
  induction h with
  | refl => exact hc
  | step _ ih => exact (τ.effect _).persists (τ.published _) ih

/-- The run is the latest one of its workflow id. -/
def Current (x : Execution) (n : Nat) : Prop :=
  ∃ r, (τ.server n).executions.get? x.workflowId = some r ∧ r.execution = x

/-- An end of the run has been recorded by then. -/
def Recorded (x : Execution) (n : Nat) (c : Completion) : Prop :=
  ∃ m, m ≤ n ∧ ∃ r, (τ.server m).executions.get? x.workflowId = some r ∧ r.execution = x ∧ r.Ended c

variable {τ}

/-- A run stays the latest one of its workflow id as long as it goes on. -/
theorem Current.next {x : Execution} {n : Nat} (h : τ.Current x n) :
    τ.Current x (n + 1) ∨ ∃ c, (τ.server n).completions.get? x.runId = some c := by
  obtain ⟨r, hr, rfl⟩ := h
  have hkeep : ∀ {id : String} {r₁ r₁' : ExecutionRecord},
      (τ.server n).executions.get? id = some r₁ → r₁'.execution = r₁.execution →
      Server.Rewrites (τ.server n) (τ.server (n + 1)) id r₁' → τ.Current r.execution (n + 1) := by
    intro id r₁ r₁' hr₁ hsame hrewrites
    by_cases hid : id = r.execution.workflowId
    · subst hid
      cases hr.symm.trans hr₁
      refine ⟨r₁', ?_, hsame⟩
      rw [hrewrites, if_pos rfl]
    · refine ⟨r, ?_, rfl⟩
      rw [hrewrites, if_neg hid]
      exact hr
  cases τ.effect n with
  | nothing hexecutions _ _ =>
    rw [← hexecutions] at hr
    exact .inl ⟨r, hr, rfl⟩
  | started r₁ _ _ hidle hrewrites _ _ =>
    by_cases hid : r₁.execution.workflowId = r.execution.workflowId
    · -- only a run that has ended is replaced
      have hended := hidle r (hid ▸ hr)
      obtain ⟨_, c, -, hc⟩ := (τ.published n).ended _ r hr hended
      exact .inr ⟨c, hc⟩
    · refine .inl ⟨r, ?_, rfl⟩
      rw [hrewrites, if_neg hid]
      exact hr
  | moved hr₁ _ hsame _ hrewrites _ _ => exact .inl (hkeep hr₁ hsame hrewrites)
  | ended c hr₁ _ hrewrites _ _ =>
    exact .inl (hkeep hr₁ (Server.sameRun_finish _ c).execution hrewrites)

/-- A run is the latest one of its workflow id until its completion is published. -/
theorem tracked {x : Execution} {n m : Nat} (h : τ.Current x n) (hle : n ≤ m) :
    τ.Current x m ∨ ∃ c, (τ.server m).completions.get? x.runId = some c := by
  induction hle with
  | refl => exact .inl h
  | @step m _ ih =>
    rcases ih with hcurrent | ⟨c, hc⟩
    · rcases hcurrent.next with hcurrent | ⟨c, hc⟩
      · exact .inl hcurrent
      · exact .inr ⟨c, τ.persists (Nat.le_succ m) hc⟩
    · exact .inr ⟨c, τ.persists (Nat.le_succ m) hc⟩

theorem ended_iff {n : Nat} {id : String} {r : ExecutionRecord}
    (hr : (τ.server n).executions.get? id = some r) {c : Completion} :
    r.Ended c ↔ (τ.server n).completions.get? r.execution.runId = some c := by
  obtain ⟨log, hrun⟩ := τ.run n
  exact Server.ended_iff τ.fresh hrun hr

theorem Recorded.completion {x : Execution} {n : Nat} {c : Completion} (h : τ.Recorded x n c) :
    (τ.server n).completions.get? x.runId = some c := by
  obtain ⟨m, hle, r, hr, rfl, hended⟩ := h
  exact τ.persists hle ((ended_iff hr).mp hended)

theorem Recorded.mono {x : Execution} {n m : Nat} {c : Completion} (h : τ.Recorded x n c)
    (hle : n ≤ m) : τ.Recorded x m c := by
  obtain ⟨j, hj, hrest⟩ := h
  exact ⟨j, Nat.le_trans hj hle, hrest⟩

/-- The completion of a run is recorded in the step that publishes it. -/
theorem recorded_of_completion {x : Execution} {n m : Nat} (hx : τ.Current x n) (hle : n ≤ m)
    {c : Completion} (hc : (τ.server m).completions.get? x.runId = some c) :
    τ.Recorded x m c := by
  induction hle with
  | refl =>
    obtain ⟨r, hr, rfl⟩ := hx
    exact ⟨n, Nat.le_refl n, r, hr, rfl, (ended_iff hr).mpr hc⟩
  | @step m hle ih =>
    cases hbefore : (τ.server m).completions.get? x.runId with
    | some c' =>
      have hc' := τ.persists (Nat.le_succ m) hbefore
      cases hc.symm.trans hc'
      exact (ih hbefore).mono (Nat.le_succ m)
    | none =>
      -- the run has gone on, so that it still is the latest one
      have hcurrent : τ.Current x (m + 1) := by
        rcases tracked hx hle with hcurrent | ⟨c', hc'⟩
        · rcases hcurrent.next with hcurrent | ⟨c', hc'⟩
          · exact hcurrent
          · exact nomatch hbefore.symm.trans hc'
        · exact nomatch hbefore.symm.trans hc'
      obtain ⟨r, hr, rfl⟩ := hcurrent
      exact ⟨m + 1, Nat.le_refl _, r, hr, rfl, (ended_iff hr).mpr hc⟩

/-- A run has one end. -/
theorem Recorded.unique {x : Execution} {n m : Nat} {c c' : Completion} (h : τ.Recorded x n c)
    (h' : τ.Recorded x m c') : c = c' := by
  have hc := (h.mono (Nat.le_max_left n m)).completion
  have hc' := (h'.mono (Nat.le_max_right n m)).completion
  exact Option.some.inj (hc.symm.trans hc')

/-! ## Programs along a timeline -/

/-- `τ.Plays p n a m` says that the program `p` runs along the timeline from the moment `n` on, and
has ended with the value `a` at the moment `m`. What it does itself is part of the timeline. -/
inductive Plays (τ : Timeline) {α : Type} : Program α → Nat → α → Nat → Prop
  | done (a : α) (n : Nat) : Plays τ (.done a) n a n
  | act {change : World → World} {next : World → Program α} {n m : Nat} {a : α}
      (h : τ.world (n + 1) = change (τ.world n)) (hrest : Plays τ (next (τ.world n)) (n + 1) a m) :
      Plays τ (.act change next) n a m
  | ready {ready : World → Bool} {deadline : Option Nat} {next : Bool → Program α} {n m : Nat} {a : α}
      (h : ready (τ.world n) = true) (hrest : Plays τ (next true) n a m) :
      Plays τ (.await ready deadline next) n a m
  | expired {ready : World → Bool} {deadline : Option Nat} {next : Bool → Program α} {n m : Nat}
      {a : α} (h : (τ.world n).isOver deadline = true) (hrest : Plays τ (next false) n a m) :
      Plays τ (.await ready deadline next) n a m
  | idle {p : Program α} {n m : Nat} {a : α} (hrest : Plays τ p (n + 1) a m) : Plays τ p n a m

section

variable {α β : Type} {n m : Nat}

theorem Plays.le {p : Program α} {a : α} (h : τ.Plays p n a m) : n ≤ m := by
  induction h with
  | done _ _ => exact Nat.le_refl _
  | act _ _ ih | idle _ ih => exact Nat.le_of_succ_le ih
  | ready _ _ ih | expired _ _ ih => exact ih

theorem Plays.idle_until {p : Program α} {a : α} {j : Nat} (h : τ.Plays p j a m) (hle : n ≤ j) :
    τ.Plays p n a m := by
  induction hle with
  | refl => exact h
  | step _ ih => exact ih h.idle

theorem Plays.of_done {a b : α} (h : τ.Plays (.done a) n b m) : b = a := by
  generalize hp : Program.done a = p at h
  induction h with
  | done _ _ =>
    cases hp
    rfl
  | act _ _ _ | ready _ _ _ | expired _ _ _ => cases hp
  | idle _ ih => exact ih hp

theorem Plays.of_act {change : World → World} {next : World → Program α} {a : α}
    (h : τ.Plays (.act change next) n a m) :
    ∃ j, n ≤ j ∧ τ.world (j + 1) = change (τ.world j) ∧ τ.Plays (next (τ.world j)) (j + 1) a m := by
  generalize hp : Program.act change next = p at h
  induction h with
  | @act _ _ j _ _ hchange hrest _ =>
    cases hp
    exact ⟨j, Nat.le_refl j, hchange, hrest⟩
  | done _ _ | ready _ _ _ | expired _ _ _ => cases hp
  | idle _ ih =>
    obtain ⟨j, hj, hrest⟩ := ih hp
    exact ⟨j, Nat.le_of_succ_le hj, hrest⟩

theorem Plays.of_await {ready : World → Bool} {deadline : Option Nat} {next : Bool → Program α}
    {a : α} (h : τ.Plays (.await ready deadline next) n a m) :
    ∃ j met, n ≤ j ∧ (met = true ∧ ready (τ.world j) = true ∨
      met = false ∧ (τ.world j).isOver deadline = true) ∧ τ.Plays (next met) j a m := by
  generalize hp : Program.await ready deadline next = p at h
  induction h with
  | @ready _ _ _ j _ _ hready hrest _ =>
    cases hp
    exact ⟨j, true, Nat.le_refl j, .inl ⟨rfl, hready⟩, hrest⟩
  | @expired _ _ _ j _ _ hover hrest _ =>
    cases hp
    exact ⟨j, false, Nat.le_refl j, .inr ⟨rfl, hover⟩, hrest⟩
  | done _ _ | act _ _ _ => cases hp
  | idle _ ih =>
    obtain ⟨j, met, hj, hrest⟩ := ih hp
    exact ⟨j, met, Nat.le_of_succ_le hj, hrest⟩

theorem Plays.of_bind {p : Program α} {f : α → Program β} {b : β}
    (h : τ.Plays (p >>= f) n b m) : ∃ a j, τ.Plays p n a j ∧ τ.Plays (f a) j b m := by
  change τ.Plays (Program.bind p f) n b m at h
  induction p generalizing n with
  | done a => exact ⟨a, n, .done a n, h⟩
  | act change next ih =>
    obtain ⟨j, hj, hchange, hrest⟩ := h.of_act
    obtain ⟨a, k, hplays, hthen⟩ := ih _ hrest
    exact ⟨a, k, (Plays.act hchange hplays).idle_until hj, hthen⟩
  | await ready deadline next ih =>
    obtain ⟨j, met, hj, hwaited, hrest⟩ := h.of_await
    obtain ⟨a, k, hplays, hthen⟩ := ih _ hrest
    refine ⟨a, k, ?_, hthen⟩
    rcases hwaited with ⟨rfl, hready⟩ | ⟨rfl, hover⟩
    · exact (Plays.ready hready hplays).idle_until hj
    · exact (Plays.expired hover hplays).idle_until hj

theorem Plays.of_pure {a b : α} (h : τ.Plays (pure a : Program α) n b m) : b = a := h.of_done

/-- What is looked at is the world of some moment. -/
theorem Plays.of_look {view : World → α} {a : α} (h : τ.Plays (Program.look view) n a m) :
    ∃ j, n ≤ j ∧ j ≤ m ∧ a = view (τ.world j) := by
  obtain ⟨j, hj, -, hrest⟩ := h.of_act
  exact ⟨j, hj, Nat.le_of_succ_le hrest.le, hrest.of_done⟩

theorem Plays.of_lift {action : World → α × World} {a : α}
    (h : τ.Plays (Program.lift action) n a m) :
    ∃ j, n ≤ j ∧ j ≤ m ∧ a = (action (τ.world j)).1 := by
  obtain ⟨j, hj, -, hrest⟩ := h.of_act
  exact ⟨j, hj, Nat.le_of_succ_le hrest.le, hrest.of_done⟩

/-- Waiting for a given time ends when the condition holds, or when the time has passed. -/
theorem Plays.of_waitFor {ready : World → Bool} {limit : Duration} {met : Bool}
    (h : τ.Plays (Program.waitFor ready limit) n met m) :
    ∃ j, n ≤ j ∧ j ≤ m ∧
      (ready (τ.world j) = true ∨ (τ.world n).clock + limit.ticks ≤ (τ.world j).clock) := by
  obtain ⟨i, hi, -, hawait⟩ := h.of_act
  obtain ⟨j, met', hj, hwaited, hrest⟩ := hawait.of_await
  refine ⟨j, by omega, hrest.le, ?_⟩
  rcases hwaited with ⟨-, hready⟩ | ⟨-, hover⟩
  · exact .inl hready
  · have hdeadline : (τ.world i).clock + limit.ticks ≤ (τ.world j).clock := of_decide_eq_true hover
    have hclock := τ.clock_mono hi
    exact .inr (by omega)

end

end Timeline

end Conformance
