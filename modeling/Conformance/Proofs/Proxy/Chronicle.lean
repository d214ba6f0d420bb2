import Conformance.Proofs.Background.Deadline

/-!
# Chronicles

What happens in a world, as far as delayed commands are concerned: a command is sent once it is due,
another one is put off, the clock moves, or something happens that has to do with neither. Programs
that run meanwhile make their own actions at some of the moments.

## Main definitions

- `World.Turn` — one thing that happens in a world
- `Chronicle` — everything that happens in a world, moment by moment
- `Chronicle.Sends` — a delayed command is sent at a moment
- `Chronicle.Goes` — how far a program has got, and when it has made its actions

## Main statements

- `Chronicle.Sends.unique` — a delayed command is sent once
- `Chronicle.kept_or_sent` — a delayed command is not lost
- `Chronicle.Goes.of_bind` — a program that is followed by another one

## Design notes

A chronicle is tied to no scheduler: a command that is due may be sent at any later moment, and a program
may be kept waiting at any moment. A program need not end, so that `Goes` speaks about beginnings of runs.
An action may take several moments, such as one that lets the background come to rest.
-/

namespace Conformance

namespace World

/-! ## What happens in a world -/

/-- A delayed command is sent, which must be due. -/
def Sends (w : World) (d : DelayedCommand) (w' : World) : Prop :=
  ∃ i, w.delayed[i]? = some d ∧ d.due ≤ w.clock ∧ w' = w.sendDelayed i

/-- One thing that happens in a world: a delayed command is sent, the clock moves, a command is put off,
or something else happens. -/
inductive Turn (w : World) : World → Prop
  | sent {w' : World} (d : DelayedCommand) (h : w.Sends d w') : Turn w w'
  | time (now : Nat) : Turn w (w.advanceTo now)
  | delay (p : ProxyController) (sleep : Duration) (c : ProxyCommand) :
      Turn w (w.sendLater p sleep c).2
  | other {w' : World} (hdelayed : w'.delayed = w.delayed) (htickets : w'.tickets = w.tickets)
      (hclock : w'.clock = w.clock) : Turn w w'

theorem Turn.refl (w : World) : Turn w w := .other rfl rfl rfl

theorem sendCommand_delayed (w : World) (p : ProxyController) (c : ProxyCommand) :
    (w.sendCommand p c).2.delayed = w.delayed ∧ (w.sendCommand p c).2.tickets = w.tickets := by
  unfold sendCommand sendRequest
  split
  · exact ⟨rfl, rfl⟩
  · dsimp only
    split
    · exact ⟨rfl, rfl⟩
    · split <;> exact ⟨rfl, rfl⟩

section

variable {w w' : World} {d : DelayedCommand}

/-- A command that is sent is taken off the list, and nothing else about time changes. -/
theorem Sends.effect (h : w.Sends d w') :
    ∃ i, w.delayed[i]? = some d ∧ w'.delayed = w.delayed.eraseIdx i ∧ w'.tickets = w.tickets ∧
      w'.clock = w.clock := by
  obtain ⟨i, hi, -, rfl⟩ := h
  refine ⟨i, hi, ?_, ?_, clock_sendDelayed w i⟩
  · unfold sendDelayed
    rw [hi]
  · unfold sendDelayed
    rw [hi]
    exact (sendCommand_delayed w _ _).2

theorem Turn.clock_le (h : w.Turn w') : w.clock ≤ w'.clock := by
  cases h with
  | sent d h =>
    obtain ⟨-, -, -, -, hclock⟩ := h.effect
    exact Nat.le_of_eq hclock.symm
  | time now => exact Nat.le_max_left ..
  | delay _ _ _ => exact Nat.le_refl _
  | other _ _ hclock => exact Nat.le_of_eq hclock.symm

theorem Turn.tickets_le (h : w.Turn w') : w.tickets ≤ w'.tickets := by
  cases h with
  | sent d h =>
    obtain ⟨-, -, -, htickets, -⟩ := h.effect
    exact Nat.le_of_eq htickets.symm
  | time _ => exact Nat.le_refl _
  | delay _ _ _ => exact Nat.le_succ _
  | other _ htickets _ => exact Nat.le_of_eq htickets.symm

/-- A command that is put off gets a ticket that has not been given out. -/
theorem Turn.old_or_new (h : w.Turn w') (hd : d ∈ w'.delayed) :
    d ∈ w.delayed ∨ w.tickets ≤ d.ticket := by
  cases h with
  | sent d' h =>
    obtain ⟨i, -, hdelayed, -, -⟩ := h.effect
    rw [hdelayed] at hd
    exact .inl (List.mem_of_mem_eraseIdx hd)
  | time _ => exact .inl hd
  | delay p sleep c =>
    refine (List.mem_append.mp hd).imp id fun hnew => ?_
    exact Nat.le_of_eq (congrArg DelayedCommand.ticket (List.mem_singleton.mp hnew)).symm
  | other hdelayed _ _ => exact .inl (hdelayed ▸ hd)

/-- A delayed command stays until it is sent. -/
theorem Turn.kept_or_sent (h : w.Turn w') (hd : d ∈ w.delayed) : d ∈ w'.delayed ∨ w.Sends d w' := by
  cases h with
  | sent d' h =>
    obtain ⟨i, hi, hdelayed, -, -⟩ := h.effect
    by_cases heq : d' = d
    · exact .inr (heq ▸ h)
    · obtain ⟨j, hj⟩ := List.mem_iff_getElem?.mp hd
      refine .inl (hdelayed ▸ List.mem_eraseIdx_iff_getElem?.mpr ⟨j, ?_, hj⟩)
      rintro rfl
      exact heq (Option.some.inj (hi.symm.trans hj))
  | time _ => exact .inl hd
  | delay _ _ _ => exact .inl (List.mem_append_left _ hd)
  | other hdelayed _ _ => exact .inl (hdelayed ▸ hd)

end

/-- Delayed commands have tickets that have been given out, and each its own. -/
structure Ticketed (w : World) : Prop where
  given : ∀ d ∈ w.delayed, d.ticket < w.tickets
  distinct : (w.delayed.map (·.ticket)).Nodup

section

variable {w w' : World} {d : DelayedCommand}

theorem Turn.ticketed (h : w.Turn w') (hw : w.Ticketed) : w'.Ticketed := by
  cases h with
  | sent d' h =>
    obtain ⟨i, -, hdelayed, htickets, -⟩ := h.effect
    refine ⟨fun d hd => ?_, ?_⟩
    · rw [hdelayed] at hd
      rw [htickets]
      exact hw.given d (List.mem_of_mem_eraseIdx hd)
    · rw [hdelayed]
      exact hw.distinct.sublist ((List.eraseIdx_sublist _ _).map _)
  | time _ => exact ⟨hw.given, hw.distinct⟩
  | delay p sleep c =>
    refine ⟨fun d hd => ?_, ?_⟩
    · rcases List.mem_append.mp hd with hd | hd
      · exact Nat.lt_succ_of_lt (hw.given d hd)
      · rw [List.mem_singleton.mp hd]
        exact Nat.lt_succ_self _
    · show ((w.delayed ++ [_]).map _).Nodup
      rw [List.map_append, List.nodup_append]
      refine ⟨hw.distinct, List.nodup_singleton _, ?_⟩
      rintro t ht _ hnew rfl
      obtain ⟨d, hd, rfl⟩ := List.mem_map.mp ht
      exact Nat.ne_of_lt (hw.given d hd) (List.mem_singleton.mp hnew)
  | other hdelayed htickets _ =>
    refine ⟨fun d hd => ?_, hdelayed ▸ hw.distinct⟩
    rw [htickets]
    exact hw.given d (hdelayed ▸ hd)

/-- A command that has been sent is not delayed any more. -/
theorem Sends.gone (h : w.Sends d w') (hw : w.Ticketed) : d ∉ w'.delayed := by
  obtain ⟨i, hi, hdelayed, -, -⟩ := h.effect
  rw [hdelayed, List.mem_eraseIdx_iff_getElem?]
  rintro ⟨j, hne, hj⟩
  have hi' : (w.delayed.map (·.ticket))[i]? = some d.ticket := by rw [List.getElem?_map, hi]; rfl
  have hj' : (w.delayed.map (·.ticket))[j]? = some d.ticket := by rw [List.getElem?_map, hj]; rfl
  obtain ⟨hlt, -⟩ := List.getElem?_eq_some_iff.mp hi'
  exact hne ((List.getElem?_inj hlt hw.distinct).mp (hi'.trans hj'.symm)).symm

theorem Sends.mem (h : w.Sends d w') : d ∈ w.delayed := by
  obtain ⟨i, hi, -, -⟩ := h
  exact List.mem_of_getElem? hi

end

end World

/-- Everything that happens in a world, moment by moment. -/
structure Chronicle where
  world : Nat → World
  start : (world 0).Ticketed
  turn : ∀ n, (world n).Turn (world (n + 1))

namespace Chronicle

variable (κ : Chronicle)

/-- A delayed command is sent at a moment. -/
def Sends (n : Nat) (d : DelayedCommand) : Prop := (κ.world n).Sends d (κ.world (n + 1))

theorem ticketed (n : Nat) : (κ.world n).Ticketed := by
  induction n with
  | zero => exact κ.start
  | succ n ih => exact (κ.turn n).ticketed ih

theorem clock_mono {n m : Nat} (h : n ≤ m) : (κ.world n).clock ≤ (κ.world m).clock := by
  induction h with
  | refl => exact Nat.le_refl _
  | step _ ih => exact Nat.le_trans ih (κ.turn _).clock_le

theorem tickets_mono {n m : Nat} (h : n ≤ m) : (κ.world n).tickets ≤ (κ.world m).tickets := by
  induction h with
  | refl => exact Nat.le_refl _
  | step _ ih => exact Nat.le_trans ih (κ.turn _).tickets_le

variable {κ} {n m : Nat} {d : DelayedCommand}

/-- A command that is not delayed although its ticket has been given out will not be again. -/
theorem gone_of_gone (hgiven : d.ticket < (κ.world n).tickets) (hgone : d ∉ (κ.world n).delayed)
    (h : n ≤ m) : d ∉ (κ.world m).delayed := by
  induction h with
  | refl => exact hgone
  | @step m hle ih =>
    intro hd
    rcases (κ.turn m).old_or_new hd with hold | hnew
    · exact ih hold
    · have := κ.tickets_mono hle
      omega

/-- After it has been sent, a command is gone. -/
theorem Sends.gone (h : κ.Sends n d) (hm : n < m) : d ∉ (κ.world m).delayed := by
  have hgiven := (κ.ticketed n).given d (World.Sends.mem h)
  have hlater := κ.tickets_mono (Nat.le_succ n)
  exact gone_of_gone (Nat.lt_of_lt_of_le hgiven hlater) (World.Sends.gone h (κ.ticketed n)) hm

/-- A delayed command is sent once. -/
theorem Sends.unique (h : κ.Sends n d) (h' : κ.Sends m d) : n = m := by
  rcases Nat.lt_trichotomy n m with hlt | heq | hlt
  · exact absurd (World.Sends.mem h') (h.gone hlt)
  · exact heq
  · exact absurd (World.Sends.mem h) (h'.gone hlt)

/-- A delayed command is not lost: it is delayed still, or it has been sent. -/
theorem kept_or_sent (hd : d ∈ (κ.world n).delayed) (h : n ≤ m) :
    d ∈ (κ.world m).delayed ∨ ∃ i, n ≤ i ∧ i < m ∧ κ.Sends i d := by
  induction h with
  | refl => exact .inl hd
  | @step m hle ih =>
    rcases ih with hkept | ⟨i, hi, him, hsent⟩
    · exact ((κ.turn m).kept_or_sent hkept).imp id fun hsent => ⟨m, hle, Nat.lt_succ_self m, hsent⟩
    · exact .inr ⟨i, hi, Nat.lt_succ_of_lt him, hsent⟩

/-! ## Programs -/

/-- `κ.Goes p n acts q m` says that the program `p` runs from the moment `n` on, and that at the moment
`m` the program `q` is left of it. Meanwhile it has made the actions of `acts`, each of which has begun at
one moment and has been done by another. -/
inductive Goes (κ : Chronicle) {α : Type} :
    Program α → Nat → List (Nat × Nat) → Program α → Nat → Prop
  | here (p : Program α) (n : Nat) : Goes κ p n [] p n
  | act {change : World → World} {next : World → Program α} {n k m : Nat} {acts : List (Nat × Nat)}
      {q : Program α} (hle : n ≤ k) (h : κ.world k = change (κ.world n))
      (hrest : Goes κ (next (κ.world n)) k acts q m) :
      Goes κ (.act change next) n ((n, k) :: acts) q m
  | ready {ready : World → Bool} {deadline : Option Nat} {next : Bool → Program α} {n m : Nat}
      {acts : List (Nat × Nat)} {q : Program α} (h : ready (κ.world n) = true)
      (hrest : Goes κ (next true) n acts q m) : Goes κ (.await ready deadline next) n acts q m
  | expired {ready : World → Bool} {deadline : Option Nat} {next : Bool → Program α} {n m : Nat}
      {acts : List (Nat × Nat)} {q : Program α} (h : (κ.world n).isOver deadline = true)
      (hrest : Goes κ (next false) n acts q m) : Goes κ (.await ready deadline next) n acts q m
  | idle {p q : Program α} {n m : Nat} {acts : List (Nat × Nat)} (hrest : Goes κ p (n + 1) acts q m) :
      Goes κ p n acts q m

section

variable {α β : Type} {acts : List (Nat × Nat)}

theorem Goes.le {p q : Program α} (h : κ.Goes p n acts q m) : n ≤ m := by
  induction h with
  | here _ _ => exact Nat.le_refl _
  | act hle _ _ ih => exact Nat.le_trans hle ih
  | ready _ _ ih | expired _ _ ih => exact ih
  | idle _ ih => exact Nat.le_of_succ_le ih

theorem Goes.idle_until {p q : Program α} {j : Nat} (h : κ.Goes p j acts q m) (hle : n ≤ j) :
    κ.Goes p n acts q m := by
  induction hle with
  | refl => exact h
  | step _ ih => exact ih h.idle

/-- A program may be kept waiting where it has got to. -/
theorem Goes.rest_until {p q : Program α} {j : Nat} (h : κ.Goes p n acts q m) (hle : m ≤ j) :
    κ.Goes p n acts q j := by
  induction h with
  | here p _ => exact (Goes.here p j).idle_until hle
  | act hk hchange _ ih => exact .act hk hchange (ih hle)
  | ready hready _ ih => exact .ready hready (ih hle)
  | expired hover _ ih => exact .expired hover (ih hle)
  | idle _ ih => exact .idle (ih hle)

theorem Goes.of_done {a : α} {q : Program α} (h : κ.Goes (.done a) n acts q m) :
    acts = [] ∧ q = .done a := by
  generalize hp : Program.done a = p at h
  induction h with
  | here _ _ => exact ⟨rfl, rfl⟩
  | act _ _ _ _ | ready _ _ _ | expired _ _ _ => cases hp
  | idle _ ih => exact ih hp

/-- A program that begins with an action has not got there, or it has made the action. -/
theorem Goes.of_act {change : World → World} {next : World → Program α} {q : Program α}
    (h : κ.Goes (.act change next) n acts q m) :
    (acts = [] ∧ q = .act change next) ∨ ∃ k k' acts', n ≤ k ∧ k ≤ k' ∧
      κ.world k' = change (κ.world k) ∧ acts = (k, k') :: acts' ∧
        κ.Goes (next (κ.world k)) k' acts' q m := by
  generalize hp : Program.act change next = p at h
  induction h with
  | here _ _ => exact .inl ⟨rfl, rfl⟩
  | @act _ _ j j' _ _ _ hle hchange hrest _ =>
    cases hp
    exact .inr ⟨j, j', _, Nat.le_refl j, hle, hchange, rfl, hrest⟩
  | ready _ _ _ | expired _ _ _ => cases hp
  | idle _ ih =>
    rcases ih hp with hnone | ⟨k, k', acts', hk, hrest⟩
    · exact .inl hnone
    · exact .inr ⟨k, k', acts', Nat.le_of_succ_le hk, hrest⟩

/-- A program that waits has not got further, or it has gone on. -/
theorem Goes.of_await {ready : World → Bool} {deadline : Option Nat} {next : Bool → Program α}
    {q : Program α} (h : κ.Goes (.await ready deadline next) n acts q m) :
    (acts = [] ∧ q = .await ready deadline next) ∨ ∃ k met, n ≤ k ∧
      (met = true ∧ ready (κ.world k) = true ∨
        met = false ∧ (κ.world k).isOver deadline = true) ∧ κ.Goes (next met) k acts q m := by
  generalize hp : Program.await ready deadline next = p at h
  induction h with
  | here _ _ => exact .inl ⟨rfl, rfl⟩
  | act _ _ _ _ => cases hp
  | @ready _ _ _ j _ _ _ hready hrest _ =>
    cases hp
    exact .inr ⟨j, true, Nat.le_refl j, .inl ⟨rfl, hready⟩, hrest⟩
  | @expired _ _ _ j _ _ _ hover hrest _ =>
    cases hp
    exact .inr ⟨j, false, Nat.le_refl j, .inr ⟨rfl, hover⟩, hrest⟩
  | idle _ ih =>
    rcases ih hp with hnone | ⟨k, met, hk, hrest⟩
    · exact .inl hnone
    · exact .inr ⟨k, met, Nat.le_of_succ_le hk, hrest⟩

/-- Of a program that is followed by another one, the first has not ended, or the second has begun. -/
theorem Goes.of_bind {p : Program α} {f : α → Program β} {q : Program β}
    (h : κ.Goes (p.bind f) n acts q m) :
    (∃ p', κ.Goes p n acts p' m ∧ q = p'.bind f) ∨ ∃ a j acts₁ acts₂, acts = acts₁ ++ acts₂ ∧
      κ.Goes p n acts₁ (.done a) j ∧ κ.Goes (f a) j acts₂ q m := by
  induction p generalizing n acts with
  | done a => exact .inr ⟨a, n, [], acts, rfl, .here _ n, h⟩
  | act change next ih =>
    have hle := h.le
    rcases h.of_act with ⟨rfl, rfl⟩ | ⟨k, k', acts', hk, hk', hchange, rfl, hrest⟩
    · exact .inl ⟨.act change next, (Goes.here _ m).idle_until hle, rfl⟩
    · rcases ih _ hrest with ⟨p', hgoes, rfl⟩ | ⟨a, j, acts₁, acts₂, rfl, hgoes, hthen⟩
      · exact .inl ⟨p', (Goes.act hk' hchange hgoes).idle_until hk, rfl⟩
      · exact .inr ⟨a, j, _, acts₂, rfl, (Goes.act hk' hchange hgoes).idle_until hk, hthen⟩
  | await ready deadline next ih =>
    have hle := h.le
    rcases h.of_await with ⟨rfl, rfl⟩ | ⟨k, met, hk, hwaited, hrest⟩
    · exact .inl ⟨.await ready deadline next, (Goes.here _ m).idle_until hle, rfl⟩
    · have hon : ∀ {acts p'} {j : Nat}, κ.Goes (next met) k acts p' j →
          κ.Goes (.await ready deadline next) n acts p' j := by
        intro acts p' j hgoes
        rcases hwaited with ⟨rfl, hready⟩ | ⟨rfl, hover⟩
        · exact (Goes.ready hready hgoes).idle_until hk
        · exact (Goes.expired hover hgoes).idle_until hk
      rcases ih _ hrest with ⟨p', hgoes, rfl⟩ | ⟨a, j, acts₁, acts₂, rfl, hgoes, hthen⟩
      · exact .inl ⟨p', hon hgoes, rfl⟩
      · exact .inr ⟨a, j, acts₁, acts₂, rfl, hon hgoes, hthen⟩

end

end Chronicle

end Conformance
