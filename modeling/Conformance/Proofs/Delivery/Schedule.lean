import Conformance.Proofs.Background.Deadline
import Conformance.Proofs.Delivery.Timeline
import Conformance.Runner.Basic

/-!
# The schedule of a world

A world runs its background in an order of its own, and lets time pass only when nothing else can
happen. This is one of the orders of a timeline: a program that is run in a world plays along a
timeline, and ends with the same value.

## Main definitions

- `Timeline.followedBy` — a timeline that goes on in another way from a moment on
- `Program.Timely` — a program whose actions are things that happen, and that waits with deadlines

## Main statements

- `World.exists_path_wait` — what happens while a program waits
- `Program.Timely.exists_path` — what happens while a program runs
- `Timeline.exists_plays` — a program that is run plays along a timeline
- `timely_result`, `timely_resultPayload` — the programs that ask for a result
-/

namespace Conformance

namespace World

variable {w w' w'' : World}

/-! ## Paths -/

theorem Path.trans {ws ws' : List World} (h : Path w ws w') (h' : Path w' ws' w'') :
    Path w (ws ++ ws') w'' := by
  induction h with
  | nil _ => exact h'
  | cons hnext _ ih => exact .cons hnext (ih h')

/-- Behind a path, the one that follows it goes on. -/
theorem Path.along_append {ws : List World} (h : Path w ws w') (ws' : List World) (n : Nat) :
    along w (ws ++ ws') (ws.length + n) = along w' ws' n := by
  induction h with
  | nil _ => rw [List.length_nil, List.nil_append, Nat.zero_add]
  | @cons w w₁ w' ws _ _ ih =>
    rw [List.length_cons, Nat.add_right_comm]
    exact ih

theorem Path.along_length {ws : List World} (h : Path w ws w') : along w ws ws.length = w' := by
  have hend := h.along_append [] 0
  rwa [List.append_nil, Nat.add_zero, along_zero] at hend

/-! ## The background -/

theorem Next.timed (h : w.Next w') (htimed : w.server.Timed) : w'.server.Timed := by
  cases h with
  | request q => exact htimed.serve (Server.serve_cases _ q)
  | task hstep => exact htimed.step? hstep
  | latch latch =>
    unfold openLatch
    split
    · exact htimed
    · exact htimed.letThrough latch
  | time t => exact htimed
  | elsewhere hserver _ =>
    rw [hserver]
    exact htimed

theorem Path.timed {ws : List World} (h : Path w ws w') (htimed : w.server.Timed) :
    w'.server.Timed := by
  induction h with
  | nil _ => exact htimed
  | cons hnext _ ih => exact ih (hnext.timed htimed)

theorem next_of_step? (h : w.step? = some w') : w.Next w' := by
  rcases step?_cases h with ⟨i, server, signals, hstep, rfl⟩ | ⟨i, rfl⟩
  · exact .task hstep
  · exact .elsewhere (server_sendDelayed w i) (clock_sendDelayed w i)

theorem Drifts.next {ready : World → Bool} {deadline : Nat} (h : Drifts ready deadline w w') :
    w.Next w' := by
  cases h with
  | step _ hstep => exact next_of_step? hstep
  | time _ _ _ _ _ => exact .time _

theorem exists_path_of_drifted {ready : World → Bool} {deadline : Nat}
    (h : Drifted ready deadline w w') : ∃ ws, Path w ws w' := by
  induction h with
  | refl => exact ⟨[], .nil w⟩
  | tail _ hdrifts ih =>
    obtain ⟨ws, hpath⟩ := ih
    exact ⟨_, hpath.trans (.cons hdrifts.next (.nil _))⟩

/-- While a program waits, one thing happens after another until the condition holds or the deadline
has passed. -/
theorem exists_path_wait (ready : World → Bool) (deadline : Nat) (htimed : w.server.Timed) :
    ∃ ws, Path w ws (w.wait ready (some deadline)).2 ∧
      ((w.wait ready (some deadline)).1 = true ∧ ready (w.wait ready (some deadline)).2 = true ∨
        (w.wait ready (some deadline)).1 = false ∧
          (w.wait ready (some deadline)).2.isOver (some deadline) = true) := by
  obtain ⟨hdrifted, hwaited⟩ := wait_cases ready deadline htimed
  obtain ⟨ws, hpath⟩ := exists_path_of_drifted hdrifted
  refine ⟨ws, hpath, ?_⟩
  generalize w.wait ready (some deadline) = x at hwaited
  cases hwaited with
  | met hmet => exact .inl ⟨rfl, hmet⟩
  | expired _ hclock => exact .inr ⟨rfl, decide_eq_true hclock⟩

end World

/-! ## Programs that are run -/

namespace Program

/-- The actions of a program are things that happen in a world, and the program waits with deadlines
only. -/
inductive Timely {α : Type} : Program α → Prop
  | done (a : α) : Timely (.done a)
  | act {change : World → World} {next : World → Program α} (hchange : ∀ w : World, w.Next (change w))
      (hnext : ∀ w, Timely (next w)) : Timely (.act change next)
  | await {ready : World → Bool} {deadline : Nat} {next : Bool → Program α}
      (hnext : ∀ met, Timely (next met)) : Timely (.await ready (some deadline) next)

variable {α β : Type}

theorem Timely.bind {p : Program α} {f : α → Program β} (hp : p.Timely) (hf : ∀ a, (f a).Timely) :
    (p >>= f).Timely := by
  show (Program.bind p f).Timely
  induction hp with
  | done a => exact hf a
  | act hchange _ ih => exact .act hchange ih
  | await _ ih => exact .await ih

theorem timely_look (view : World → α) : (look view).Timely :=
  .act (fun _ => .elsewhere rfl rfl) fun _ => .done _

theorem timely_waitFor (ready : World → Bool) (limit : Duration) : (waitFor ready limit).Timely :=
  .act (fun _ => .elsewhere rfl rfl) fun _ => .await .done

theorem timely_lift {action : World → α × World} (h : ∀ w : World, w.Next (action w).2) :
    (lift action).Timely :=
  .act h fun _ => .done _

/-- While a program runs, one thing happens after another. On every timeline on which the same things
happen it plays, and ends with the same value. -/
theorem Timely.exists_path {p : Program α} (hp : p.Timely) {w : World} (htimed : w.server.Timed) :
    ∃ ws, w.Path ws (p.run w).2 ∧ ∀ (τ : Timeline) n,
      (∀ j ≤ ws.length, τ.world (n + j) = w.along ws j) →
        τ.Plays p n (p.run w).1 (n + ws.length) := by
  induction hp generalizing w with
  | done a => exact ⟨[], .nil w, fun τ n _ => .done a n⟩
  | @act change next hchange _ ih =>
    obtain ⟨ws, hpath, hplays⟩ := ih w ((hchange w).timed htimed)
    refine ⟨change w :: ws, .cons (hchange w) hpath, fun τ n hworlds => ?_⟩
    have hnow : τ.world n = w := by simpa using hworlds 0 (Nat.zero_le _)
    have hthen : ∀ j ≤ ws.length, τ.world (n + 1 + j) = (change w).along ws j := by
      intro j hj
      rw [Nat.add_right_comm]
      exact hworlds (j + 1) (Nat.succ_le_succ hj)
    have hnext := hthen 0 (Nat.zero_le _)
    rw [World.along_zero, Nat.add_zero] at hnext
    have hrest := hplays τ (n + 1) hthen
    rw [Nat.add_right_comm] at hrest
    refine .act ?_ ?_
    · rw [hnow]
      exact hnext
    · rw [hnow]
      exact hrest
  | @await ready deadline next _ ih =>
    -- first what happens while the program waits, then what happens while the rest of it runs
    obtain ⟨ws, hpath, hended⟩ := World.exists_path_wait ready deadline htimed
    obtain ⟨ws', hpath', hplays⟩ := ih (w.wait ready (some deadline)).1 (hpath.timed htimed)
    refine ⟨ws ++ ws', hpath.trans hpath', fun τ n hworlds => ?_⟩
    have hthen : ∀ j ≤ ws'.length, τ.world (n + ws.length + j) =
        (w.wait ready (some deadline)).2.along ws' j := by
      intro j hj
      rw [Nat.add_assoc, hworlds _ (by rw [List.length_append]; omega)]
      exact hpath.along_append ws' j
    have hnow := hthen 0 (Nat.zero_le _)
    rw [World.along_zero, Nat.add_zero] at hnow
    have hrest := hplays τ (n + ws.length) hthen
    rw [List.length_append, ← Nat.add_assoc]
    refine Timeline.Plays.idle_until ?_ (Nat.le_add_right n ws.length)
    show τ.Plays _ _ ((next (w.wait ready (some deadline)).1).run _).1 _
    rcases hended with ⟨hmet, hready⟩ | ⟨hmet, hover⟩
    · rw [hmet] at hrest ⊢
      exact .ready (hnow ▸ hready) hrest
    · rw [hmet] at hrest ⊢
      exact .expired (hnow ▸ hover) hrest

end Program

namespace Timeline

variable (τ : Timeline)

/-- The timeline that is the same up to a moment, and on which the worlds of a path follow then. -/
def followedBy (n : Nat) {ws : List World} {w' : World} (h : (τ.world n).Path ws w') : Timeline where
  world i := if i ≤ n then τ.world i else (τ.world n).along ws (i - n)
  fresh := by
    rw [if_pos (Nat.zero_le n)]
    exact τ.fresh
  next i := by
    by_cases hbefore : i + 1 ≤ n
    · rw [if_pos (Nat.le_of_succ_le hbefore), if_pos hbefore]
      exact τ.next i
    · have hnext := h.next_along (i - n)
      rw [if_neg hbefore, show i + 1 - n = i - n + 1 by omega]
      by_cases hi : i ≤ n
      · obtain rfl : i = n := by omega
        rw [Nat.sub_self, World.along_zero] at hnext
        rw [if_pos hi, Nat.sub_self]
        exact hnext
      · rw [if_neg hi]
        exact hnext

theorem world_followedBy (n : Nat) {ws : List World} {w' : World} (h : (τ.world n).Path ws w')
    (j : Nat) : (τ.followedBy n h).world (n + j) = (τ.world n).along ws j := by
  show (if n + j ≤ n then τ.world (n + j) else (τ.world n).along ws (n + j - n)) = _
  by_cases hj : j = 0
  · subst hj
    rw [Nat.add_zero, if_pos (Nat.le_refl n), World.along_zero]
  · rw [if_neg (by omega), Nat.add_sub_cancel_left]

theorem timed (n : Nat) : (τ.server n).Timed := by
  obtain ⟨log, hrun⟩ := τ.run n
  exact Server.timed_of_run τ.fresh hrun

/-- A program that is run at some moment plays along a timeline that has been the same up to this
moment, and ends with the same value and in the same world. -/
theorem exists_plays {α : Type} {p : Program α} (hp : p.Timely) (n : Nat) :
    ∃ (τ' : Timeline) (m : Nat), (∀ i ≤ n, τ'.world i = τ.world i) ∧
      τ'.Plays p n (p.run (τ.world n)).1 m ∧ τ'.world m = (p.run (τ.world n)).2 := by
  obtain ⟨ws, hpath, hplays⟩ := hp.exists_path (τ.timed n)
  refine ⟨τ.followedBy n hpath, n + ws.length, fun i hi => if_pos hi, ?_, ?_⟩
  · exact hplays _ n fun j _ => τ.world_followedBy n hpath j
  · rw [τ.world_followedBy n hpath, hpath.along_length]

end Timeline

/-! ## Asking for a result -/

theorem timely_result (e : Execution) : (Program.result e).Timely := by
  unfold Program.result
  refine (Program.timely_look _).bind fun found => ?_
  cases found with
  | error e => exact .done _
  | ok sub => exact (Program.timely_waitFor _ _).bind fun _ => Program.timely_look _

theorem World.next_fetchHistory (connection : ConnectionId) (ns : String) (e : Execution)
    (w : World) : w.Next (World.fetchHistory connection ns e w).2 := by
  unfold World.fetchHistory World.asking
  dsimp only
  split
  · exact .request (.fetchHistory _ ns e)
  · exact .elsewhere rfl rfl

theorem timely_resultPayload (r : Runner) (run : Run) :
    (r.exec (Script.resultPayload run)).Timely := by
  have hperform : (r.perform (.history run.execution)).Timely :=
    (Program.timely_lift fun w => World.next_fetchHistory _ _ _ w).bind fun _ => .done _
  show ((r.perform (.history run.execution)) >>= _).Timely
  refine hperform.bind fun ⟨reply, r⟩ => ?_
  cases reply with
  | error e => exact .done _
  | ok history =>
    dsimp only [Script.bind]
    split <;> exact .done _

end Conformance
