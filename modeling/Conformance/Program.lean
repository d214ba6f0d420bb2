import Conformance.World

/-!
# Programs

What a feature run does in the foreground: atomic actions on the world, and waiting. Programs
are trees, so that they can be run to their end, be run side by side, and be reasoned about step
by step.

## Main definitions

- `Program` — a program that ends with a value
- `Program.run` — runs a program in a world
- `Program.both`, `Program.all` — programs side by side as one program
- `Program.waitFor`, `Program.sleep` — waiting
-/

namespace Conformance

/-- A program: it ends with a value, changes the world in one action, or waits until a condition
holds or a deadline has passed, and learns which. -/
inductive Program (α : Type) where
  | done (value : α)
  | act (change : World → World) (next : World → Program α)
  | await (ready : World → Bool) (deadline : Option Nat) (next : Bool → Program α)

namespace Program

variable {α β : Type}

/-- A program followed by another one that depends on its value. -/
def bind : Program α → (α → Program β) → Program β
  | done a, f => f a
  | act change next, f => act change fun w => bind (next w) f
  | await ready deadline next, f => await ready deadline fun met => bind (next met) f

instance : Monad Program where
  pure := done
  bind := bind

/-- One action with an answer. -/
def lift (action : World → α × World) : Program α :=
  act (fun w => (action w).2) fun w => done (action w).1

/-- Looks at the world. -/
def look (view : World → α) : Program α := act id fun w => done (view w)

/-- Changes the world. -/
def change (f : World → World) : Program Unit := act f fun _ => done ()

/-- Runs a program to its end, and tells its value and the world it leaves behind. -/
def run : Program α → World → α × World
  | done a, w => (a, w)
  | act change next, w => run (next w) (change w)
  | await ready deadline next, w =>
    let (met, w) := w.wait ready deadline
    run (next met) w

/-- Waits until a condition holds, for a given time at most, and tells whether it held. -/
def waitFor (ready : World → Bool) (limit : Duration) : Program Bool :=
  act id fun w => await ready (some (w.clock + limit.ticks)) done

/-- Waits until a condition holds. -/
def waitUntil (ready : World → Bool) : Program Unit := await ready none fun _ => done ()

/-- Waits for a given time. -/
def sleep (d : Duration) : Program Unit := do
  let _ ← waitFor (fun _ => false) d

/-- Lets the background come to rest. -/
def settle : Program Unit := change World.settle

/-! ## Programs side by side -/

/-- The earlier of two deadlines. -/
def earlier : Option Nat → Option Nat → Option Nat
  | none, d => d
  | d, none => d
  | some a, some b => some (min a b)

/-- The first program waits; the second one goes on until it waits too. Then both wait, and the
first one goes on if it can. -/
def race (ready : World → Bool) (deadline : Option Nat) (first : Bool → Program β → Program (α × β)) :
    Program β → Program (α × β)
  | done b => await ready deadline fun met => first met (done b)
  | act change next => act change fun w => race ready deadline first (next w)
  | await ready' deadline' next =>
    await (fun w => ready w || ready' w) (earlier deadline deadline') fun _ =>
      act id fun w =>
        if ready w then first true (await ready' deadline' next)
        else if ready' w then race ready deadline first (next true)
        else if w.isOver deadline then first false (await ready' deadline' next)
        else race ready deadline first (next false)

/-- Two programs side by side: one goes on until it waits, then the other. -/
def both : Program α → Program β → Program (α × β)
  | done a, q => bind q fun b => done (a, b)
  | act change next, q => act change fun w => both (next w) q
  | await ready deadline next, q => race ready deadline (fun met => both (next met)) q

/-- Any number of programs side by side. -/
def all : List (Program α) → Program (List α)
  | [] => done []
  | p :: rest => bind (both p (all rest)) fun r => done (r.1 :: r.2)

/-! ## Laws -/

theorem run_bind (p : Program α) (f : α → Program β) (w : World) :
    (bind p f).run w = (f (p.run w).1).run (p.run w).2 := by
  induction p generalizing w with
  | done a => rfl
  | act change next ih => exact ih w (change w)
  | await ready deadline next ih => exact ih _ _

@[simp] theorem run_pure (a : α) (w : World) : (pure a : Program α).run w = (a, w) := rfl

@[simp] theorem run_bind' (p : Program α) (f : α → Program β) (w : World) :
    (p >>= f).run w = (f (p.run w).1).run (p.run w).2 := run_bind p f w

@[simp] theorem run_lift (action : World → α × World) (w : World) :
    (lift action).run w = action w := rfl

end Program

end Conformance
