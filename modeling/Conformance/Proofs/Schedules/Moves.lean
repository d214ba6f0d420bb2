import Conformance.Proofs.Background.Ticking

/-!
# Programs in every schedule

A program shares the world with workflow tasks and delayed commands. A scheduler may let any of them
make the next step. Only the clock has to wait: it moves when nothing else can, and then to the next
moment for which somebody waits.

## Main definitions

- `World.Stirs` — a step in the background, of whatever task or command
- `Program.Moves` — what can happen while a program runs
- `Program.Surely` — in every schedule a program ends, with a condition that holds on its way and one
  that holds at its end

## Main statements

- `Program.Surely.holds` — the first condition holds whenever the program has got somewhere
- `Program.Surely.terminates` — no schedule goes on for ever
- `Program.Surely.run` — running a program is one of its schedules

## Design notes

`Surely` is a least fixed point, so that it says that the program ends: there is no schedule in which it
goes on for ever or gets stuck. A program that has ended makes no moves; what happens in the background
afterwards is a matter of the condition at its end.
-/

namespace Conformance

namespace World

/-- A step in the background: of any task that has one, or of any delayed command that is due. -/
inductive Stirs (w : World) : World → Prop
  | task {i : Nat} {server : Server} {signals : Signals}
      (h : w.server.step? w.clock w.signals i = some (server, signals)) :
      Stirs w { w with server, signals }
  | command {i : Nat} {d : DelayedCommand} (hget : w.delayed[i]? = some d) (hdue : d.due ≤ w.clock) :
      Stirs w (w.sendDelayed i)

/-- Nothing can be done in the background. -/
def Rests (w : World) : Prop := ∀ w', ¬ w.Stirs w'

/-- The moment to which the clock moves when everybody waits: the deadline of the foreground, the time
at which a task wakes up, or that at which a command is due, whichever comes first. -/
def nextMoment? (w : World) (deadline : Option Nat) : Option Nat :=
  (deadline.toList ++ (w.server.wakes ++ w.delayed.map (·.due))).min?

variable {w w' : World}

theorem nextMoment?_of_none (hnext : w.nextTime? = none) (deadline : Option Nat) :
    w.nextMoment? deadline = deadline := by
  have hnil : w.server.wakes ++ w.delayed.map (·.due) = [] := List.min?_eq_none_iff.mp hnext
  unfold nextMoment?
  rw [hnil]
  cases deadline <;> rfl

/-- The deadline and the next time of the background together. -/
theorem nextMoment?_of_some {time : Nat} (hnext : w.nextTime? = some time) (deadline : Option Nat) :
    w.nextMoment? deadline = some (match deadline with | some d => min d time | none => time) := by
  unfold nextTime? at hnext
  unfold nextMoment?
  cases deadline with
  | none => exact hnext
  | some d =>
    rw [Option.toList_some, List.singleton_append, List.min?_cons, hnext]
    rfl

/-- Every step in the background leaves less to do. -/
theorem Stirs.calmer (h : w.Stirs w') : Calmer w' w := by
  cases h with
  | task hstep => exact Prod.Lex.left _ _ (Server.step?_descent hstep)
  | @command i d hget _ =>
    have hlt : i < w.delayed.length := (List.getElem?_eq_some_iff.mp hget).1
    have hlength : (w.sendDelayed i).delayed.length < w.delayed.length := by
      unfold sendDelayed
      rw [hget]
      show (w.delayed.eraseIdx i).length < _
      rw [List.length_eraseIdx, if_pos hlt]
      omega
    unfold Calmer
    rw [server_sendDelayed]
    exact Prod.Lex.right _ hlength

/-- The step that the background of a run makes is one that a scheduler may choose. -/
theorem stirs_of_step? (h : w.step? = some w') : w.Stirs w' := by
  unfold step? at h
  split at h
  · rename_i server signals hstep
    cases h
    obtain ⟨i, hi⟩ := exists_step?_of_stepFrom? hstep
    exact .task hi
  · obtain ⟨i, hi, rfl⟩ := Option.map_eq_some_iff.mp h
    obtain ⟨hlt, hdue, -⟩ := List.findIdx?_eq_some_iff_getElem.mp hi
    exact .command (List.getElem?_eq_getElem hlt) (of_decide_eq_true hdue)

theorem clock_settle (w : World) : w.settle.clock = w.clock := by
  fun_induction settle w with
  | case1 w _ => rfl
  | case2 w w' hstep ih => exact ih.trans (clock_step? hstep)

/-- If any task has a step, then the first task that has one is found. -/
theorem stepFrom?_ne_none {now i j count : Nat} {s : Server} {signals : Signals}
    (hfrom : i ≤ j) (hto : j < i + count) (h : s.step? now signals j ≠ none) :
    s.stepFrom? now signals i count ≠ none := by
  induction count generalizing i with
  | zero => omega
  | succ count ih =>
    unfold Server.stepFrom?
    split
    · exact nofun
    · rename_i hnone
      have hne : i ≠ j := by
        rintro rfl
        exact h hnone
      exact ih (by omega) (by omega)

theorem rests_of_step?_eq_none (h : w.step? = none) : w.Rests := by
  unfold step? at h
  split at h
  · cases h
  · rename_i hfirst
    rintro w' (⟨hstep⟩ | ⟨hget, hdue⟩)
    · rename_i i server signals
      have hlt : i < w.server.tasks.length := by
        unfold Server.step? at hstep
        split at hstep
        · cases hstep
        · rename_i ht
          exact (List.getElem?_eq_some_iff.mp ht).1
      exact stepFrom?_ne_none (Nat.zero_le i) (by omega) (by rw [hstep]; exact nofun) hfirst
    · have hnone := List.findIdx?_eq_none_iff.mp (Option.map_eq_none_iff.mp h)
      exact absurd hdue (of_decide_eq_false (hnone _ (List.mem_of_getElem? hget)))

end World

namespace Program

open World

variable {α β : Type}

/-- What can happen while a program runs that has not ended: the program goes on, the background makes
a step, or everybody waits and the clock moves. -/
inductive Moves : Program α × World → Program α × World → Prop
  | act (change : World → World) (next : World → Program α) (w : World) :
      Moves (.act change next, w) (next w, change w)
  | met {ready : World → Bool} {w : World} (h : ready w = true) (deadline : Option Nat)
      (next : Bool → Program α) : Moves (.await ready deadline next, w) (next true, w)
  | expired {deadline : Option Nat} {w : World} (h : w.isOver deadline = true)
      (ready : World → Bool) (next : Bool → Program α) :
      Moves (.await ready deadline next, w) (next false, w)
  | stirs {p : Program α} {w w' : World} (hp : ∀ a, p ≠ .done a) (h : w.Stirs w') :
      Moves (p, w) (p, w')
  | time {ready : World → Bool} {deadline : Option Nat} {w : World} {now : Nat}
      (hunmet : ready w = false) (hrests : w.Rests) (hnext : w.nextMoment? deadline = some now)
      (hlater : w.clock < now) (next : Bool → Program α) :
      Moves (.await ready deadline next, w) (.await ready deadline next, w.advanceTo now)

/-- In every schedule the program ends; `Inv` holds at every moment until then, and `Q` holds of its
value and of the world in which it ends. -/
inductive Surely (Inv : World → Prop) (Q : α → World → Prop) : Program α × World → Prop
  | done {a : α} {w : World} (hinv : Inv w) (h : Q a w) : Surely Inv Q (.done a, w)
  | goes_on {c : Program α × World} (hinv : Inv c.2) (hmoves : ∃ c', Moves c c')
      (h : ∀ c', Moves c c' → Surely Inv Q c') : Surely Inv Q c

variable {Inv : World → Prop} {Q Q' : α → World → Prop} {R : β → World → Prop}
  {c c' : Program α × World}

theorem not_moves_done {a : α} {w : World} : ¬ Moves (.done a, w) c := by
  rintro ⟨⟩
  rename_i hp _
  exact hp a rfl

theorem Surely.inv (h : Surely Inv Q c) : Inv c.2 := by
  cases h with
  | done hinv _ => exact hinv
  | goes_on hinv _ _ => exact hinv

theorem Surely.moves (h : Surely Inv Q c) (hmoves : Moves c c') : Surely Inv Q c' := by
  cases h with
  | done _ _ => exact absurd hmoves not_moves_done
  | goes_on _ _ hnext => exact hnext c' hmoves

/-- Wherever a schedule has led, the first condition holds, and the program still ends as it should. -/
theorem Surely.holds (h : Surely Inv Q c) (hmoves : Relation.ReflTransGen Moves c c') :
    Inv c'.2 ∧ Surely Inv Q c' := by
  induction hmoves with
  | refl => exact ⟨h.inv, h⟩
  | tail _ hlast ih =>
    have hnext := ih.2.moves hlast
    exact ⟨hnext.inv, hnext⟩

/-- Where a program has ended, the second condition holds. -/
theorem Surely.ends {a : α} {w : World} (h : Surely Inv Q (.done a, w)) : Q a w := by
  cases h with
  | done _ hQ => exact hQ
  | goes_on _ hmoves _ =>
    obtain ⟨c', hc'⟩ := hmoves
    exact absurd hc' not_moves_done

/-- No schedule goes on for ever. -/
theorem Surely.terminates (h : Surely Inv Q c) : Acc (fun c' c => Moves c c') c := by
  induction h with
  | done _ _ => exact Acc.intro _ fun c' hc' => absurd hc' not_moves_done
  | goes_on _ _ _ ih => exact Acc.intro _ fun c' hc' => ih c' hc'

/-! ## Running a program -/

/-- What the program waits for does not depend on the clock. -/
def Timeless : Program α → Prop
  | done _ => True
  | act _ next => ∀ w, (next w).Timeless
  | await ready _ next =>
    (∀ w now, ready (World.advanceTo w now) = ready w) ∧ ∀ met, (next met).Timeless

variable {ready : World → Bool} {deadline : Option Nat} {next : Bool → Program α} {w : World}

theorem await_ne_done (a : α) : await ready deadline next ≠ done a := by
  intro h
  cases h

theorem surely_settle (h : Surely Inv Q (.await ready deadline next, w)) :
    Surely Inv Q (.await ready deadline next, w.settle) := by
  fun_induction World.settle w with
  | case1 w _ => exact h
  | case2 w w' hstep ih => exact ih (h.moves (.stirs await_ne_done (stirs_of_step? hstep)))

/-- Somebody who waits at rest for what does not hold goes on only when the clock moves. -/
theorem time_of_moves (hunmet : ready w = false) (hopen : w.isOver deadline = false) (hrests : w.Rests)
    (hmoves : Moves (.await ready deadline next, w) c) :
    ∃ now, w.nextMoment? deadline = some now ∧ w.clock < now ∧
      c = (.await ready deadline next, w.advanceTo now) := by
  cases hmoves with
  | met h _ _ => exact nomatch hunmet.symm.trans h
  | expired h _ _ => exact nomatch hopen.symm.trans h
  | stirs _ h => exact absurd h (hrests _)
  | time _ _ hnext hlater _ => exact ⟨_, hnext, hlater, rfl⟩

/-- So it does not end surely if the clock does not move. -/
theorem exists_later_of_surely (h : Surely Inv Q (.await ready deadline next, w))
    (hunmet : ready w = false) (hopen : w.isOver deadline = false) (hrests : w.Rests) :
    ∃ now, w.nextMoment? deadline = some now ∧ w.clock < now ∧
      Surely Inv Q (.await ready deadline next, w.advanceTo now) := by
  cases h with
  | goes_on _ hmoves hnext =>
    obtain ⟨c, hc⟩ := hmoves
    obtain ⟨now, hnow, hlater, rfl⟩ := time_of_moves hunmet hopen hrests hc
    exact ⟨now, hnow, hlater, hnext _ hc⟩

/-- Waiting ends as one of the schedules does. -/
theorem surely_wait (htimeless : ∀ w now, ready (World.advanceTo w now) = ready w)
    (h : Surely Inv Q (.await ready deadline next, w)) :
    Surely Inv Q (next (w.wait ready deadline).1, (w.wait ready deadline).2) := by
  -- at rest, and before the deadline, the clock moves to the next moment
  have hlater : ∀ {w : World}, Surely Inv Q (.await ready deadline next, w) →
      ¬ w.isOver deadline = true → ¬ ready w.settle = true →
      ∃ now, w.settle.nextMoment? deadline = some now ∧ w.settle.clock < now ∧
        Surely Inv Q (.await ready deadline next, w.settle.advanceTo now) := by
    intro w h hopen hunmet
    refine exists_later_of_surely (surely_settle h) (Bool.eq_false_iff.mpr hunmet) ?_
      (rests_of_step?_eq_none (step?_settle w))
    have hover : w.settle.isOver deadline = w.isOver deadline := by
      cases deadline with
      | none => rfl
      | some d => rw [isOver, isOver, clock_settle]
    rw [hover]
    exact Bool.eq_false_iff.mpr hopen
  fun_induction World.wait ready deadline w with
  | case1 deadline w hmet => exact h.moves (.met hmet _ _)
  | case2 deadline w _ hover => exact h.moves (.expired hover _ _)
  | case3 deadline w _ _ rested hmet => exact (surely_settle h).moves (.met hmet _ _)
  | case4 w _ rested hunmet hnext hopen =>
    obtain ⟨now, hnow, -, -⟩ := hlater h hopen hunmet
    cases (nextMoment?_of_none hnext none).symm.trans hnow
  | case5 w _ rested hunmet d hnext hopen =>
    obtain ⟨now, hnow, -, hmoved⟩ := hlater h hopen hunmet
    obtain rfl : d = now := Option.some.inj ((nextMoment?_of_none hnext (some d)).symm.trans hnow)
    have hover : (rested.advanceTo d).isOver (some d) = true := decide_eq_true (Nat.le_max_right ..)
    exact hmoved.moves (.expired hover _ _)
  | case6 w _ rested hunmet t d hnext moved hexpired hopen =>
    obtain ⟨now, hnow, -, hmoved⟩ := hlater h hopen hunmet
    obtain rfl := Option.some.inj ((nextMoment?_of_some hnext d).symm.trans hnow)
    exact hmoved.moves (.expired hexpired _ _)
  | case7 w _ rested hunmet t d hnext moved hmoves hstuck hopen =>
    obtain ⟨now, hnow, hlt, hmoved⟩ := hlater h hopen hunmet
    obtain rfl := Option.some.inj ((nextMoment?_of_some hnext d).symm.trans hnow)
    -- the clock has moved, and nothing has come of it
    have hunmet' : ready moved = false := (htimeless _ _).trans (Bool.eq_false_iff.mpr hunmet)
    obtain ⟨now', hnow', hlt', -⟩ := exists_later_of_surely hmoved hunmet'
      (Bool.eq_false_iff.mpr hmoves) (rests_of_step?_eq_none hstuck)
    cases (nextMoment?_of_some (w := moved) hnext d).symm.trans hnow'
    exact absurd (Nat.le_max_right rested.clock _) (Nat.not_le_of_lt hlt')
  | case8 w _ rested hunmet t d hnext moved hmoves next' hstep hopen ih =>
    obtain ⟨now, hnow, -, hmoved⟩ := hlater h hopen hunmet
    obtain rfl := Option.some.inj ((nextMoment?_of_some hnext d).symm.trans hnow)
    exact ih (hmoved.moves (.stirs await_ne_done (stirs_of_step? hstep))) hlater

/-- Running a program is one of its schedules: what holds at the end of all of them holds at the end of
this one. -/
theorem Surely.run {p : Program α} (htimeless : p.Timeless) (h : Surely Inv Q (p, w)) :
    Q (p.run w).1 (p.run w).2 := by
  induction p generalizing w with
  | done a => exact h.ends
  | act change next ih => exact ih w (htimeless w) (h.moves (.act _ _ _))
  | await ready deadline next ih => exact ih _ (htimeless.2 _) (surely_wait htimeless.1 h)

end Program

end Conformance
