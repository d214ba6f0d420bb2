import Conformance.Program

/-!
# Triples for programs

What a program ensures: from every world in which a condition holds it goes to a world, and to a
value, of which something is known. Programs that may fail have two such conditions.

## Main definitions

- `Program.Ensures` — a condition before a program and one after it
- `OnResult` — a condition for each of the two ways in which a program may end
- `Program.SameAnswer` — programs that differ in what they do, but not in what they answer

## Main statements

- `Program.Ensures.bind`, `Program.Ensures.bindT` — programs one after another
- `Program.sameAnswer_bind` — what is done after a failure does not matter to the answer
-/

namespace Conformance

/-- One condition for success and one for failure. -/
def OnResult {α : Type} (ok : α → World → Prop) (error : World → Prop) :
    Except Error α → World → Prop
  | .ok a, w => ok a w
  | .error _, w => error w

namespace Program

variable {α β : Type} {P P' : World → Prop} {Q Q' : α → World → Prop} {R : β → World → Prop}
  {E : World → Prop}

/-- Where `P` holds before the program, `Q` holds of its value and of the world after it. -/
def Ensures (P : World → Prop) (p : Program α) (Q : α → World → Prop) : Prop :=
  ∀ w, P w → Q (p.run w).1 (p.run w).2

theorem ensures_pure (a : α) (h : ∀ w, P w → Q a w) : Ensures P (pure a) Q := h

theorem ensures_lift {action : World → α × World}
    (h : ∀ w, P w → Q (action w).1 (action w).2) : Ensures P (lift action) Q := h

/-- Programs one after another. -/
theorem Ensures.bind {p : Program α} {f : α → Program β} (h : Ensures P p Q)
    (hf : ∀ a, Ensures (Q a) (f a) R) : Ensures P (p >>= f) R := by
  intro w hw
  rw [run_bind']
  exact hf _ _ (h w hw)

/-- Consequence: less may hold before, and more is ensured after. -/
theorem Ensures.consequence {p : Program α} (h : Ensures P p Q) (hP : ∀ w, P' w → P w)
    (hQ : ∀ a w, Q a w → Q' a w) : Ensures P' p Q' :=
  fun w hw => hQ _ _ (h w (hP w hw))

/-- Programs one after another, up to the first failure. -/
theorem Ensures.bindT {p : ExceptT Error Program α} {f : α → ExceptT Error Program β}
    (h : Ensures P p.run (OnResult Q E)) (hf : ∀ a, Ensures (Q a) (f a).run (OnResult R E)) :
    Ensures P (p >>= f).run (OnResult R E) := by
  rw [ExceptT.run_bind]
  refine h.bind fun result => ?_
  cases result with
  | ok a => exact hf a
  | error e => exact ensures_pure _ fun w hw => hw

/-! ## Programs with the same answers -/

/-- The programs end with the same answers, whatever else they do on their way to it. -/
def SameAnswer (p : Program (Except Error α)) (q : ExceptT Error Program α) : Prop :=
  ∀ w, (p.run w).1 = (q.run.run w).1

/-- What is done after a failure does not matter, if it ends with the error of the failure. -/
theorem sameAnswer_bind (q : ExceptT Error Program α) {f : Except Error α → Program (Except Error β)}
    {g : α → ExceptT Error Program β} (hok : ∀ a, SameAnswer (f (.ok a)) (g a))
    (herror : ∀ e w, ((f (.error e)).run w).1 = .error e) :
    SameAnswer (q.run >>= f) (q >>= g) := by
  intro w
  rw [ExceptT.run_bind, run_bind', run_bind']
  cases (q.run.run w).1 with
  | ok a => exact hok a _
  | error e => exact herror e _

theorem sameAnswer_lift (p : Program α) {f : α → Program (Except Error β)}
    {g : α → ExceptT Error Program β} (h : ∀ a, SameAnswer (f a) (g a)) :
    SameAnswer (p >>= f) (ExceptT.lift p >>= g) := by
  intro w
  have hlift : (ExceptT.lift p : ExceptT Error Program α).run = p >>= fun a => pure (.ok a) := rfl
  rw [ExceptT.run_bind, hlift, run_bind', run_bind', run_bind']
  exact h _ _

end Program

end Conformance
