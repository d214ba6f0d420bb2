import Conformance.Proofs.Background.Sleeping
import Conformance.Proofs.Runner.Frame
import Mathlib.Logic.Relation

/-!
# Waiting until a deadline

Whoever waits lets the background run and the clock move, until a condition holds or a deadline has
passed. No moment is skipped at which something could happen, and nothing else ends the waiting.

## Main definitions

- `World.Drifts` — what happens while somebody waits

## Main statements

- `World.exists_step?_of_nextTime?` — at the next time something happens
- `World.wait_cases` — waiting ends when the condition holds or the deadline has passed
-/

namespace Conformance.World

variable {w w' : World}

/-! ## The background -/

theorem clock_sendCommand (w : World) (p : ProxyController) (c : ProxyCommand) :
    (w.sendCommand p c).2.clock = w.clock := by
  unfold sendCommand sendRequest
  split
  · rfl
  · dsimp only
    split
    · rfl
    · split <;> rfl

theorem clock_sendDelayed (w : World) (i : Nat) : (w.sendDelayed i).clock = w.clock := by
  unfold sendDelayed
  split
  · rfl
  · exact clock_sendCommand ..

theorem server_sendDelayed (w : World) (i : Nat) : (w.sendDelayed i).server = w.server := by
  unfold sendDelayed
  split
  · rfl
  · exact server_sendCommand ..

/-- A step in the background is one of a task, or a command is sent. -/
theorem step?_cases (h : w.step? = some w') :
    (∃ i server signals, w.server.step? w.clock w.signals i = some (server, signals) ∧
      w' = { w with server, signals }) ∨ ∃ i, w' = w.sendDelayed i := by
  unfold step? at h
  split at h
  · rename_i server signals hstep
    cases h
    obtain ⟨i, hi⟩ := exists_step?_of_stepFrom? hstep
    exact .inl ⟨i, server, signals, hi, rfl⟩
  · obtain ⟨i, -, rfl⟩ := Option.map_eq_some_iff.mp h
    exact .inr ⟨i, rfl⟩

theorem clock_step? (h : w.step? = some w') : w'.clock = w.clock := by
  rcases step?_cases h with ⟨i, server, signals, -, rfl⟩ | ⟨i, rfl⟩
  · rfl
  · exact clock_sendDelayed w i

theorem timed_step? (htimed : w.server.Timed) (h : w.step? = some w') : w'.server.Timed := by
  rcases step?_cases h with ⟨i, server, signals, hstep, rfl⟩ | ⟨i, rfl⟩
  · exact htimed.step? hstep
  · rw [server_sendDelayed]
    exact htimed

/-- When the clock has moved to the next time at which something happens, there is a step. -/
theorem exists_step?_of_nextTime? (htimed : w.server.Timed) {time : Nat}
    (hnext : w.nextTime? = some time) (hclock : time ≤ w.clock) : ∃ w', w.step? = some w' := by
  have hmem : time ∈ w.server.wakes ++ w.delayed.map (·.due) := List.min?_mem hnext
  unfold step?
  cases hfirst : w.server.stepFirst? w.clock w.signals with
  | some x => exact ⟨_, rfl⟩
  | none =>
    rcases List.mem_append.mp hmem with hwake | hdue
    · have hlt := htimed.lt_of_stepFirst?_eq_none hfirst hwake
      omega
    · obtain ⟨d, hd, rfl⟩ := List.mem_map.mp hdue
      cases hindex : w.dueIndex? with
      | some i => exact ⟨_, rfl⟩
      | none =>
        have hnot := List.findIdx?_eq_none_iff.mp hindex d hd
        exact absurd hclock (of_decide_eq_false hnot)

/-! ## What happens while somebody waits -/

/-- One thing that happens while somebody waits for a condition until a deadline: the background makes
a step; or it rests, the condition does not hold, and the clock moves, at most to the next time at
which something happens and to the deadline. -/
inductive Drifts (ready : World → Bool) (deadline : Nat) (w : World) : World → Prop
  | step {w' : World} (hopen : w.clock < deadline) (h : w.step? = some w') : Drifts ready deadline w w'
  | time {now : Nat} (hopen : w.clock < deadline) (hrest : w.step? = none) (hunmet : ready w = false)
      (hnow : now ≤ deadline) (hnext : ∀ time, w.nextTime? = some time → now ≤ time) :
      Drifts ready deadline w (w.advanceTo now)

/-- What happens while somebody waits, one thing after another. -/
abbrev Drifted (ready : World → Bool) (deadline : Nat) : World → World → Prop :=
  Relation.ReflTransGen (Drifts ready deadline)

variable {ready : World → Bool} {deadline : Nat}

theorem Drifts.timed (h : Drifts ready deadline w w') (htimed : w.server.Timed) :
    w'.server.Timed := by
  cases h with
  | step _ hstep => exact timed_step? htimed hstep
  | time _ _ _ _ _ => exact htimed

theorem timed_of_drifted (h : Drifted ready deadline w w') (htimed : w.server.Timed) :
    w'.server.Timed := by
  induction h with
  | refl => exact htimed
  | tail _ hdrifts ih => exact hdrifts.timed ih

theorem drifted_settle (hopen : w.clock < deadline) :
    Drifted ready deadline w w.settle ∧ w.settle.clock = w.clock := by
  fun_induction settle w with
  | case1 w _ => exact ⟨.refl, rfl⟩
  | case2 w w' hstep ih =>
    have hclock := clock_step? hstep
    obtain ⟨hdrifted, hrested⟩ := ih (hclock ▸ hopen)
    exact ⟨.head (.step hopen hstep) hdrifted, hrested.trans hclock⟩

/-- How waiting for a condition until a deadline ends: the condition holds, or the deadline has passed
and the condition has not held before the clock moved last. -/
inductive Waited (ready : World → Bool) (deadline : Nat) : Bool × World → Prop
  | met {w : World} (h : ready w = true) : Waited ready deadline (true, w)
  | expired {w : World} {now : Nat} (hunmet : ready w = false)
      (hclock : deadline ≤ (w.advanceTo now).clock) : Waited ready deadline (false, w.advanceTo now)

theorem advanceTo_zero (w : World) : w.advanceTo 0 = w := by
  unfold advanceTo
  rw [Nat.max_zero]

/-- Before the deadline, the background comes to rest, and then the clock moves. -/
theorem drifted_advanceTo {now : Nat} (hopen : w.clock < deadline) (hunmet : ready w.settle = false)
    (hnow : now ≤ deadline) (hnext : ∀ time, w.settle.nextTime? = some time → now ≤ time) :
    Drifted ready deadline w (w.settle.advanceTo now) := by
  obtain ⟨hrested, hclock⟩ : Drifted ready deadline w w.settle ∧ _ := drifted_settle hopen
  exact hrested.tail (.time (hclock ▸ hopen) (step?_settle w) hunmet hnow hnext)

/-- Waiting ends when the condition holds or the deadline has passed. -/
theorem wait_cases (ready : World → Bool) (deadline : Nat) (htimed : w.server.Timed) :
    Drifted ready deadline w (w.wait ready (some deadline)).2 ∧
      Waited ready deadline (w.wait ready (some deadline)) := by
  generalize hd : some deadline = d
  have hover : ∀ {w : World}, w.isOver d = true ↔ deadline ≤ w.clock := by
    intro w
    rw [← hd]
    exact decide_eq_true_iff
  have hbefore : ∀ {w : World}, ¬ w.isOver d = true → w.clock < deadline :=
    fun hopen => Nat.lt_of_not_le (mt hover.mpr hopen)
  fun_induction wait ready d w with
  | case1 d w hmet => exact ⟨.refl, .met hmet⟩
  | case2 d w hunmet hexpired =>
    have hwaited : Waited ready deadline (false, w.advanceTo 0) :=
      .expired (Bool.eq_false_iff.mpr hunmet) (by rw [advanceTo_zero]; exact hover.mp hexpired)
    rw [advanceTo_zero] at hwaited
    exact ⟨.refl, hwaited⟩
  | case3 d w _ hopen rested hmet => exact ⟨(drifted_settle (hbefore hopen)).1, .met hmet⟩
  | case4 => cases hd
  | case5 w _ rested hunmet d hnext hopen =>
    cases hd
    have hunmet : ready w.settle = false := Bool.eq_false_iff.mpr hunmet
    refine ⟨drifted_advanceTo (hbefore hopen) hunmet (Nat.le_refl _) fun time htime => ?_,
      .expired hunmet (Nat.le_max_right ..)⟩
    cases hnext.symm.trans htime
  | case6 w _ rested hunmet t d hnext moved hexpired hopen =>
    subst hd
    have hunmet : ready w.settle = false := Bool.eq_false_iff.mpr hunmet
    refine ⟨drifted_advanceTo (hbefore hopen) hunmet (Nat.min_le_left ..) fun time htime => ?_,
      .expired hunmet (hover.mp hexpired)⟩
    cases hnext.symm.trans htime
    exact Nat.min_le_right ..
  | case7 w _ rested hunmet t d hnext moved hmoves hstuck hopen =>
    subst hd
    -- the clock has moved to the next time, so that the background is not at rest
    have hclock : moved.clock = max rested.clock (min deadline t) := rfl
    have hlt := hbefore hmoves
    have hrested : Drifted ready deadline w rested := (drifted_settle (hbefore hopen)).1
    have htimed' : rested.server.Timed := timed_of_drifted hrested htimed
    obtain ⟨w', hstep⟩ := exists_step?_of_nextTime? (w := moved) htimed' hnext (by omega)
    cases hstuck.symm.trans hstep
  | case8 w _ rested hunmet t d hnext moved hmoves next hstep hopen ih =>
    subst hd
    have hunmet : ready w.settle = false := Bool.eq_false_iff.mpr hunmet
    have hmoved : Drifted ready deadline w moved := by
      refine drifted_advanceTo (hbefore hopen) hunmet (Nat.min_le_left ..) fun time htime => ?_
      cases hnext.symm.trans htime
      exact Nat.min_le_right ..
    have hnext := hmoved.tail (.step (hbefore hmoves) hstep)
    obtain ⟨hdrifted, hwaited⟩ := ih (timed_of_drifted hnext htimed) rfl hover hbefore
    exact ⟨hnext.trans hdrifted, hwaited⟩

end Conformance.World
