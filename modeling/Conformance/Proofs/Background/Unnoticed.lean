import Conformance.Calls

/-!
# Changes that nobody notices

A part of the world that no step in the background looks at can be changed without anybody who waits
noticing it: the same steps are made at the same times, and the change is still there afterwards.

## Main definitions

- `World.Overlooks` — an action that goes the same way in the changed world
- `World.Unnoticed` — a change of the world that no step in the background looks at

## Main statements

- `World.Unnoticed.wait` — whoever waits does not notice such a change
- `World.Unnoticed.result` — nor does whoever waits for the result of a run
-/

namespace Conformance.World

variable {α β : Type} {f : World → World}

/-- The action goes the same way in the changed world, and leaves the change alone. -/
def Overlooks (f : World → World) (action : World → α × World) : Prop :=
  ∀ w, action (f w) = ((action w).1, f (action w).2)

/-! ## The background -/

/-- A change of the world that no step in the background looks at. -/
structure Unnoticed (f : World → World) : Prop where
  step? : ∀ w, (f w).step? = w.step?.map f
  clock : ∀ w, (f w).clock = w.clock
  nextTime? : ∀ w, (f w).nextTime? = w.nextTime?
  advanceTo : ∀ w time, (f w).advanceTo time = f (w.advanceTo time)

namespace Unnoticed

variable (h : Unnoticed f)
include h

theorem isOver (w : World) (deadline : Option Nat) : (f w).isOver deadline = w.isOver deadline := by
  cases deadline with
  | none => rfl
  | some d => simp only [World.isOver, h.clock]

theorem settle (w : World) : (f w).settle = f w.settle := by
  fun_induction World.settle w with
  | case1 w hrests =>
    have hrests' : (f w).step? = none := by rw [h.step?, hrests, Option.map_none]
    rw [World.settle]
    split <;> simp_all
  | case2 w w' hstep ih =>
    have hstep' : (f w).step? = some (f w') := by rw [h.step?, hstep, Option.map_some]
    rw [World.settle]
    split <;> simp_all

/-- Whoever waits for something that the change does not touch waits the same way. -/
theorem wait {ready : World → Bool} (hready : ∀ w, ready (f w) = ready w) (deadline : Option Nat) :
    Overlooks f fun w => w.wait ready deadline := by
  intro w
  dsimp only
  -- the changed world takes the same branches, up to the first step after the clock has moved
  fun_induction World.wait ready deadline w with
  | case1 _ w hmet => simp [World.wait, hready, hmet]
  | case2 _ w hunmet hover => simp [World.wait, hready, hunmet, h.isOver, hover]
  | case3 | case4 | case5 | case6 =>
    rw [World.wait]
    simp_all +zetaDelta [h.isOver, h.settle, h.nextTime?, h.advanceTo]
  | case7 w hunmet rested hunmet' t deadline hnext moved hmoved hstep hover =>
    have hstep' : (f moved).step? = none := by rw [h.step?, hstep, Option.map_none]
    rw [World.wait]
    simp_all +zetaDelta [h.isOver, h.settle, h.nextTime?, h.advanceTo]
    split <;> simp_all [h.settle, h.advanceTo]
  | case8 w hunmet rested hunmet' t deadline hnext moved hmoved next hstep hover ih =>
    have hstep' : (f moved).step? = some (f next) := by rw [h.step?, hstep, Option.map_some]
    rw [World.wait]
    simp_all +zetaDelta [h.isOver, h.settle, h.nextTime?, h.advanceTo]
    split <;> simp_all [h.settle, h.advanceTo]

end Unnoticed

/-! ## Programs -/

theorem overlooks_pure (f : World → World) (a : α) : Overlooks f (pure a : Program α).run :=
  fun _ => rfl

theorem Overlooks.bind {p : Program α} (h : Overlooks f p.run) {next : α → Program β}
    (hnext : ∀ a, Overlooks f (next a).run) : Overlooks f (p >>= next).run := by
  intro w
  rw [Program.run_bind', Program.run_bind', h w]
  exact hnext _ _

theorem overlooks_look {view : World → α} (h : ∀ w, view (f w) = view w) :
    Overlooks f (Program.look view).run :=
  fun w => congrArg (fun a => (a, f w)) (h w)

namespace Unnoticed

variable (h : Unnoticed f)
include h

theorem waitFor {ready : World → Bool} (hready : ∀ w, ready (f w) = ready w) (limit : Duration) :
    Overlooks f (Program.waitFor ready limit).run := by
  intro w
  show World.wait ready (some ((f w).clock + limit.ticks)) (f w) = _
  rw [h.clock]
  exact h.wait hready _ w

/-- Whoever waits for the result of a run does not notice a change that leaves records and
completions alone. -/
theorem result (hexecutions : ∀ w, (f w).server.executions = w.server.executions)
    (hcompletions : ∀ w, (f w).server.completions = w.server.completions) (e : Execution) :
    Overlooks f (Program.result e).run := by
  have hreplaced : ∀ w found, (f w).server.isReplaced found = w.server.isReplaced found :=
    fun w found => by simp only [Server.isReplaced, hexecutions]
  refine (overlooks_look fun w => ?_).bind fun subscribed => ?_
  · simp only [Server.subscribe, Server.addressed, hexecutions]
  · cases subscribed with
    | error error => exact overlooks_pure f _
    | ok sub =>
      refine (h.waitFor (fun w => ?_) _).bind fun _ => overlooks_look fun w => ?_
      · simp only [Server.isSettled, hreplaced, hcompletions]
      · simp only [Server.answer, hreplaced, hcompletions]

end Unnoticed

end Conformance.World
