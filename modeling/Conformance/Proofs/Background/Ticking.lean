import Conformance.Proofs.Background.Deadline

/-!
# What goes on while somebody waits

Whatever is waited for, and whether there is a deadline or not, only two things happen meanwhile: the
background makes a step, or the clock moves. What both of them keep is kept by waiting.

## Main definitions

- `World.Ticks` — a step in the background, or a move of the clock
- `World.Ticked` — any number of them

## Main statements

- `World.ticked_wait` — waiting is nothing else
-/

namespace Conformance.World

/-- One thing that goes on in a world whatever the foreground does. -/
inductive Ticks (w : World) : World → Prop
  | step {w' : World} (h : w.step? = some w') : Ticks w w'
  | time (now : Nat) : Ticks w (w.advanceTo now)

/-- What goes on in a world, one thing after another. -/
abbrev Ticked : World → World → Prop := Relation.ReflTransGen Ticks

theorem ticked_settle (w : World) : Ticked w w.settle := by
  fun_induction settle w with
  | case1 w _ => exact .refl
  | case2 w w' hstep ih => exact .head (.step hstep) ih

theorem ticked_wait (ready : World → Bool) (deadline : Option Nat) (w : World) :
    Ticked w (w.wait ready deadline).2 := by
  -- as in the definition: nothing happens, the background rests, and then the clock moves as well
  fun_induction wait ready deadline w with
  | case1 | case2 => exact .refl
  | case3 | case4 => exact ticked_settle _
  | case5 | case6 | case7 => exact (ticked_settle _).tail (.time _)
  | case8 w _ _ _ _ _ _ _ _ next hstep _ ih =>
    exact (((ticked_settle w).tail (.time _)).tail (.step hstep)).trans ih

end Conformance.World
