import Conformance.Proofs.Schedules.Moves

/-!
# Rules for programs in every schedule

How to show that a program ends surely, along its structure. Between two steps of the program the
background may do anything, so that a step may rely only on what the background keeps. Where the
background is dormant, nothing happens in between.

## Main definitions

- `World.Steady` — what no step in the background changes
- `World.Dormant` — every task waits for the foreground to open a latch
- `Program.Goes` — in every schedule a program goes to one world with one value

## Main statements

- `Program.Surely.bind` — programs one after another
- `Program.surely_act`, `Program.surely_await` — a step, and a wait that the background ends
- `Program.goes_lift`, `Program.goes_sleep` — a step and a wait in a dormant world
-/

namespace Conformance

/-! ## Worlds in which nothing happens -/

/-- The task waits for a latch that is closed. -/
structure WorkflowTask.Stuck (signals : Signals) (t : WorkflowTask) : Prop where
  awake : t.wake = none
  waits : ∃ latch, t.waitsFor latch = true ∧ signals.isOpen latch = false

namespace WorkflowTask

variable {signals signals' : Signals} {t : WorkflowTask}

theorem Stuck.stepTask (h : t.Stuck signals) {now : Nat} {s : Server} :
    s.stepTask now signals t = none := by
  obtain ⟨-, latch, hwaits, hclosed⟩ := h
  obtain ⟨id, worker, phase, wake⟩ := t
  unfold waitsFor at hwaits
  unfold Server.stepTask
  dsimp only at hwaits ⊢
  split at hwaits
  · obtain rfl := of_decide_eq_true hwaits
    simp [hclosed]
  · obtain rfl := of_decide_eq_true hwaits
    simp [hclosed]
  · cases hwaits

theorem Stuck.of_same (h : t.Stuck signals) (hopen : signals'.opened = signals.opened) :
    t.Stuck signals' := by
  obtain ⟨hawake, latch, hwaits, hclosed⟩ := h
  refine ⟨hawake, latch, hwaits, ?_⟩
  unfold Signals.isOpen at hclosed ⊢
  rw [hopen]
  exact hclosed

end WorkflowTask

namespace World

/-- No step in the background makes the condition false. -/
def Steady (P : World → Prop) : Prop := ∀ w w', P w → Stirs w w' → P w'

/-- Every task waits for a latch that is closed, and no command is delayed. -/
structure Dormant (w : World) : Prop where
  stuck : ∀ t ∈ w.server.tasks, t.Stuck w.signals
  delayed : w.delayed = []

variable {w w' : World}

theorem Dormant.rests (h : w.Dormant) : w.Rests := by
  rintro w' (⟨hstep⟩ | ⟨hget, -⟩)
  · unfold Server.step? at hstep
    split at hstep
    · cases hstep
    · rename_i t ht
      rw [(h.stuck t (List.mem_of_getElem? ht)).stepTask] at hstep
      cases hstep
  · rw [h.delayed] at hget
    cases hget

/-- Dormancy is a matter of tasks, latches and delayed commands. -/
theorem Dormant.of_same (h : w.Dormant) (htasks : w'.server.tasks = w.server.tasks)
    (hopen : w'.signals.opened = w.signals.opened) (hdelayed : w'.delayed = w.delayed) :
    w'.Dormant where
  stuck t ht := (h.stuck t (htasks ▸ ht)).of_same hopen
  delayed := hdelayed.trans h.delayed

theorem Dormant.advanceTo (h : w.Dormant) (now : Nat) : (w.advanceTo now).Dormant :=
  h.of_same rfl rfl rfl

theorem dormant_of_no_tasks (htasks : w.server.tasks = []) (hdelayed : w.delayed = []) :
    w.Dormant where
  stuck t ht := by
    rw [htasks] at ht
    cases ht
  delayed := hdelayed

theorem Dormant.wakes (h : w.Dormant) : w.server.wakes = [] := by
  refine List.filterMap_eq_nil_iff.mpr fun t ht => ?_
  exact (h.stuck t ht).awake

/-- With nobody to wake up, the clock moves to the deadline. -/
theorem Dormant.nextMoment? (h : w.Dormant) (deadline : Option Nat) :
    w.nextMoment? deadline = deadline := by
  apply nextMoment?_of_none
  unfold nextTime?
  rw [h.wakes, h.delayed]
  rfl

end World

namespace Program

open World

variable {α β : Type} {Inv P : World → Prop} {Q Q' : α → World → Prop} {R : β → World → Prop}
  {w w' : World}

/-! ## Structural rules -/

/-- Consequence: less is ensured of the end. -/
theorem Surely.mono {c : Program α × World} (h : Surely Inv Q c) (hQ : ∀ a w, Q a w → Q' a w) :
    Surely Inv Q' c := by
  induction h with
  | done hinv h => exact .done hinv (hQ _ _ h)
  | goes_on hinv hmoves _ ih => exact .goes_on hinv hmoves ih

/-- What follows a program moves as soon as the program has ended. -/
theorem moves_bind {p : Program α} {f : α → Program β} {c : Program β × World}
    (hp : ∀ a, p ≠ .done a) (h : Moves (p.bind f, w) c) :
    ∃ p' w', Moves (p, w) (p', w') ∧ c = (p'.bind f, w') := by
  cases p with
  | done a => exact absurd rfl (hp a)
  | act change next =>
    cases h with
    | act _ _ _ => exact ⟨_, _, .act _ _ _, rfl⟩
    | stirs _ hstirs => exact ⟨_, _, .stirs nofun hstirs, rfl⟩
  | await ready deadline next =>
    cases h with
    | met hmet _ _ => exact ⟨_, _, .met hmet _ _, rfl⟩
    | expired hover _ _ => exact ⟨_, _, .expired hover _ _, rfl⟩
    | stirs _ hstirs => exact ⟨_, _, .stirs nofun hstirs, rfl⟩
    | time hunmet hrests hnext hlater _ => exact ⟨_, _, .time hunmet hrests hnext hlater _, rfl⟩

theorem Moves.bind {c : Program α × World} {p : Program α} (f : α → Program β)
    (h : Moves (p, w) c) : Moves (p.bind f, w) (c.1.bind f, c.2) := by
  cases h with
  | act _ _ _ => exact .act _ _ _
  | met hmet _ _ => exact .met hmet _ _
  | expired hover _ _ => exact .expired hover _ _
  | stirs hp hstirs =>
    refine .stirs (fun b heq => ?_) hstirs
    cases p with
    | done a => exact hp a rfl
    | act _ _ | await _ _ _ => cases heq
  | time hunmet hrests hnext hlater _ => exact .time hunmet hrests hnext hlater _

/-- Programs one after another. -/
theorem Surely.bind {c : Program α × World} (h : Surely Inv Q c) {f : α → Program β}
    (hf : ∀ a w, Q a w → Surely Inv R (f a, w)) : Surely Inv R (c.1.bind f, c.2) := by
  induction h with
  | done _ hQ => exact hf _ _ hQ
  | @goes_on c hinv hmoves _ ih =>
    obtain ⟨p, w⟩ := c
    obtain ⟨c', hc'⟩ := hmoves
    have hp : ∀ a, p ≠ .done a := by
      rintro a rfl
      exact not_moves_done hc'
    refine .goes_on hinv ⟨_, hc'.bind f⟩ fun c'' hc'' => ?_
    obtain ⟨p', w', hmoves, rfl⟩ := moves_bind hp hc''
    exact ih _ hmoves

/-! ## Steps and waits -/

/-- A step of the program, which relies only on what the background keeps. -/
theorem surely_act {change : World → World} {next : World → Program α} (hsteady : Steady P)
    (hinv : ∀ w, P w → Inv w) (h : ∀ w, P w → Surely Inv Q (next w, change w)) (hw : P w) :
    Surely Inv Q (.act change next, w) := by
  -- the background can delay the step only finitely often
  induction w using wellFounded_calmer.induction with
  | h w ih =>
    refine .goes_on (hinv w hw) ⟨_, .act _ _ _⟩ fun c hc => ?_
    cases hc with
    | act _ _ _ => exact h w hw
    | stirs _ hstirs => exact ih _ hstirs.calmer (hsteady _ _ hw hstirs)

/-- A wait that the background ends: as long as the condition does not hold, there is a step in the
background, so that the clock does not move. -/
theorem surely_await {ready : World → Bool} {deadline : Option Nat} {next : Bool → Program α}
    (hsteady : Steady P) (hinv : ∀ w, P w → Inv w) (hopen : ∀ w, P w → w.isOver deadline = false)
    (hprogress : ∀ w, P w → ready w = false → ∃ w', w.Stirs w')
    (h : ∀ w, P w → ready w = true → Surely Inv Q (next true, w)) (hw : P w) :
    Surely Inv Q (.await ready deadline next, w) := by
  induction w using wellFounded_calmer.induction with
  | h w ih =>
    have hmoves : ∃ c, Moves (.await ready deadline next, w) c := by
      cases hready : ready w with
      | true => exact ⟨_, .met hready _ _⟩
      | false =>
        obtain ⟨w', hstirs⟩ := hprogress w hw hready
        exact ⟨_, .stirs nofun hstirs⟩
    refine .goes_on (hinv w hw) hmoves fun c hc => ?_
    cases hc with
    | met hmet _ _ => exact h w hw hmet
    | expired hover _ _ => exact nomatch (hopen w hw).symm.trans hover
    | stirs _ hstirs => exact ih _ hstirs.calmer (hsteady _ _ hw hstirs)
    | time hunmet hrests _ _ _ =>
      obtain ⟨w', hstirs⟩ := hprogress w hw hunmet
      exact absurd hstirs (hrests w')

/-- The same for a time: the clock stands still, so that it is not over. -/
theorem surely_waitFor {ready : World → Bool} {limit : Duration} {now : Nat} {Q : Bool → World → Prop}
    (hsteady : Steady P) (hinv : ∀ w, P w → Inv w) (hclock : ∀ w, P w → w.clock = now)
    (hlimit : 0 < limit.ticks) (hprogress : ∀ w, P w → ready w = false → ∃ w', w.Stirs w')
    (h : ∀ w, P w → ready w = true → Q true w) (hw : P w) :
    Surely Inv Q (waitFor ready limit, w) := by
  refine surely_act hsteady hinv (fun v hv => ?_) hw
  refine surely_await hsteady hinv (fun v' hv' => ?_) hprogress
    (fun v' hv' hready => .done (hinv v' hv') (h v' hv' hready)) hv
  apply decide_eq_false
  rw [hclock v hv, hclock v' hv']
  omega

/-! ## Dormant worlds -/

/-- In every schedule the program goes to one world with one value. -/
def Goes (Inv : World → Prop) (p : Program α) (w : World) (a : α) (w' : World) : Prop :=
  Surely Inv (fun b v => b = a ∧ v = w') (p, w)

variable {p : Program α} {a : α}

theorem goes_pure (hinv : Inv w) : Goes Inv (pure a) w a w := .done hinv ⟨rfl, rfl⟩

/-- What follows a program that goes to one world starts there. -/
theorem Goes.surely (h : Goes Inv p w a w') {f : α → Program β}
    (hf : Surely Inv R (f a, w')) : Surely Inv R (p >>= f, w) := by
  refine Surely.bind h fun b v hv => ?_
  rw [hv.1, hv.2]
  exact hf

theorem Goes.bind {f : α → Program β} {b : β} {w'' : World} (h : Goes Inv p w a w')
    (hf : Goes Inv (f a) w' b w'') : Goes Inv (p >>= f) w b w'' :=
  h.surely hf

theorem surely_act_of_dormant {change : World → World} {next : World → Program α} (hw : w.Dormant)
    (hinv : Inv w) (h : Surely Inv Q (next w, change w)) : Surely Inv Q (.act change next, w) := by
  refine surely_act (P := (· = w)) ?_ ?_ ?_ rfl
  · rintro v v' rfl hstirs
    exact absurd hstirs (hw.rests v')
  · rintro v rfl
    exact hinv
  · rintro v rfl
    exact h

theorem goes_lift {action : World → α × World} (hw : w.Dormant) (hinv : Inv w)
    (h : action w = (a, w')) (hinv' : Inv w') : Goes Inv (lift action) w a w' := by
  refine surely_act_of_dormant hw hinv (.done ?_ ?_)
  · rw [h]
    exact hinv'
  · rw [h]
    exact ⟨rfl, rfl⟩

theorem goes_look (view : World → α) (hw : w.Dormant) (hinv : Inv w) :
    Goes Inv (look view) w (view w) w :=
  surely_act_of_dormant hw hinv (.done hinv ⟨rfl, rfl⟩)

theorem goes_change (f : World → World) (hw : w.Dormant) (hinv : Inv w) (hinv' : Inv (f w)) :
    Goes Inv (change f) w () (f w) :=
  surely_act_of_dormant hw hinv (.done hinv' ⟨rfl, rfl⟩)

/-- A pause of the foreground in a dormant world lasts until its deadline. -/
theorem goes_sleep {d : Duration} (hw : w.Dormant) (hinv : ∀ now, Inv (w.advanceTo now)) :
    Goes Inv (sleep d) w () (w.advanceTo (w.clock + d.ticks)) := by
  have hinv₀ : Inv w := by
    have hzero := hinv 0
    rwa [advanceTo_zero] at hzero
  refine surely_act_of_dormant hw hinv₀ ?_
  let deadline := w.clock + d.ticks
  -- at the deadline only the end of the pause is left
  have hover : ∀ v : World, deadline ≤ v.clock → v.Dormant → Inv v → v = w.advanceTo deadline →
      Surely Inv (fun b v => b = () ∧ v = w.advanceTo deadline)
        (.await (fun _ => false) (some deadline) fun _ => .done (), v) := by
    intro v hclock hv hinv heq
    have hexpired : v.isOver (some deadline) = true := decide_eq_true hclock
    refine .goes_on hinv ⟨_, .expired hexpired _ _⟩ fun c hc => ?_
    cases hc with
    | met hmet _ _ => cases hmet
    | expired _ _ _ => exact .done hinv ⟨rfl, heq⟩
    | stirs _ hstirs => exact absurd hstirs (hv.rests _)
    | time _ _ hnext hlater _ =>
      obtain rfl := Option.some.inj ((hv.nextMoment? _).symm.trans hnext)
      exact absurd hclock (Nat.not_le_of_lt hlater)
  -- a pause of no length is over at once; in any other nothing moves but the clock
  by_cases hzero : deadline ≤ w.clock
  · refine hover w hzero hw hinv₀ ?_
    unfold advanceTo
    rw [Nat.max_eq_left hzero]
  · have hopen : w.isOver (some deadline) = false := decide_eq_false hzero
    refine .goes_on hinv₀ ⟨_, .time rfl hw.rests (hw.nextMoment? _) (Nat.lt_of_not_le hzero) _⟩
      fun c hc => ?_
    obtain ⟨now, hnow, -, rfl⟩ := time_of_moves rfl hopen hw.rests hc
    obtain rfl := Option.some.inj ((hw.nextMoment? _).symm.trans hnow)
    exact hover _ (Nat.le_max_right ..) (hw.advanceTo _) (hinv _) rfl

end Program

end Conformance
