import Conformance.Proofs.Proxy.Chronicle
import Conformance.Runner.Basic

/-!
# What a bracket does

A bracket sends one command, puts another one off, and runs some work meanwhile. Whatever else happens,
however long the work takes and however it ends, the second command is sent once and not too early, and the
bracket waits for that. If the first command is refused, nothing else is done.

## Main definitions

- `World.Accepts`, `World.Refuses` — how the control endpoint takes a command, and why it does not
- `Program.bracketing` — a bracket whose work may end with any value
- `Chronicle.PutOff` — what is known of a command that has been put off
- `Chronicle.Bracketed` — how far a bracket has got

## Main statements

- `World.sendCommand_cases` — a command is accepted or refused
- `Chronicle.PutOff.of_later` — a command that is put off is sent once and in time
- `Chronicle.bracketed_of_goes` — a bracket has got as far as it may
-/

namespace Conformance

/-! ## Commands -/

/-- Whether a segment can be added does not depend on the segment. -/
theorem Url.pushSegment?_eq_none_iff (u : Url) (segment : String) :
    u.pushSegment? segment = none ↔ ∀ other, u.pushSegment? other = none := by
  have hpath : ∀ segment, u.pushSegment? segment = none ↔ ∃ text, u.path = .plain text := by
    intro segment
    unfold pushSegment?
    cases hpath : u.path with
    | plain text => exact iff_of_true rfl ⟨text, rfl⟩
    | segments list =>
      refine iff_of_false ?_ nofun
      dsimp only
      split <;> exact Option.some_ne_none _
  exact ⟨fun h other => (hpath other).mpr ((hpath segment).mp h), fun h => h segment⟩

namespace World

/-- The control endpoint answers a command with a status below 400. -/
structure Accepts (w : World) (p : ProxyController) (c : ProxyCommand) : Prop where
  answered : ∃ url status, p.commandUrl c.method c.params = .ok url ∧
    (w.network.post url).1 = some status ∧ status < 400

/-- Why a command fails: there is no control endpoint, it cannot have commands, it does not answer, or it
answers with an error. -/
inductive Refuses (w : World) (p : ProxyController) (c : ProxyCommand) : Error → Prop
  | unavailable (h : p.control = none) : Refuses w p c .proxyUnavailable
  | unusable (base : Url) (h : p.control = some base) (hpush : base.pushSegment? c.method = none) :
      Refuses w p c (.config ("proxy control URI cannot be a base: " ++ base.text))
  | unanswered (url : Url) (h : p.commandUrl c.method c.params = .ok url)
      (hpost : (w.network.post url).1 = none) :
      Refuses w p c (.http ("error sending request for url (" ++ url.text ++ ")"))
  | status (url : Url) (status : Nat) (h : p.commandUrl c.method c.params = .ok url)
      (hpost : (w.network.post url).1 = some status) (hstatus : 400 ≤ status) :
      Refuses w p c (.proxyCommandFailed c.method status)

/-- A command is accepted, or it is refused with the reason. -/
theorem sendCommand_cases (w : World) (p : ProxyController) (c : ProxyCommand) :
    ((w.sendCommand p c).1 = .ok () ∧ w.Accepts p c) ∨
      ∃ e, (w.sendCommand p c).1 = .error e ∧ w.Refuses p c e := by
  unfold sendCommand sendRequest
  split
  · rename_i e hurl
    refine .inr ⟨e, rfl, ?_⟩
    unfold ProxyController.commandUrl at hurl
    split at hurl
    · rename_i hnone
      cases hurl
      exact .unavailable hnone
    · rename_i base hbase
      split at hurl <;> cases hurl
      rename_i hpush
      exact .unusable base hbase hpush
  · rename_i url hurl
    dsimp only
    split
    · rename_i hpost
      exact .inr ⟨_, rfl, .unanswered url hurl hpost⟩
    · rename_i status hpost
      split
      · rename_i hstatus
        exact .inr ⟨_, rfl, .status url status hurl hpost hstatus⟩
      · rename_i hstatus
        exact .inl ⟨rfl, url, status, hurl, hpost, Nat.lt_of_not_le hstatus⟩

/-- An endpoint that has accepted one command can be asked for every other one. -/
theorem Accepts.commandUrl {w : World} {p : ProxyController} {c : ProxyCommand} (h : w.Accepts p c)
    (c' : ProxyCommand) : ∃ url, p.commandUrl c'.method c'.params = .ok url := by
  obtain ⟨url, -, hurl, -⟩ := h.answered
  unfold ProxyController.commandUrl at hurl ⊢
  cases hbase : p.control with
  | none =>
    rw [hbase] at hurl
    cases hurl
  | some base =>
    rw [hbase] at hurl
    dsimp only at hurl ⊢
    cases hpush : base.pushSegment? c'.method with
    | some u => exact ⟨_, rfl⟩
    | none =>
      rw [(Url.pushSegment?_eq_none_iff base c'.method).mp hpush c.method] at hurl
      cases hurl

end World

/-! ## Brackets -/

namespace Program

variable {β : Type}

/-- Waits until a delayed command has been sent, and ends with a value. -/
def joining (ticket : Nat) (b : β) : Program β :=
  (waitUntil fun w => w.isSent ticket).bind fun _ => .done b

/-- Puts a command off, runs some work, and waits until the command has been sent. -/
def meanwhile (p : ProxyController) (sleep : Duration) (second : ProxyCommand) (work : Program β) :
    Program β :=
  (lift fun w => w.sendLater p sleep second).bind fun ticket => work.bind (joining ticket)

/-- A bracket whose work may end with any value, as may the bracket if its first command is refused. -/
def bracketing (p : ProxyController) (sleep : Duration) (first second : ProxyCommand)
    (refused : Error → β) (work : Program β) : Program β :=
  (lift fun w => w.sendCommand p first).bind fun
    | .error e => .done (refused e)
    | .ok () => meanwhile p sleep second work

/-- The brackets of programs are of this kind. -/
theorem bracket_eq {α : Type} (p : ProxyController) (sleep : Duration) (first second : ProxyCommand)
    (work : Program (Except Error α)) :
    (Program.proxy p).bracket sleep first second work =
      bracketing p sleep first second .error work := by
  show (lift fun w => w.sendCommand p first).bind _ = (lift fun w => w.sendCommand p first).bind _
  congr 1

theorem bind_assoc {α γ : Type} (p : Program α) (f : α → Program β) (g : β → Program γ) :
    (p.bind f).bind g = p.bind fun a => (f a).bind g := by
  induction p with
  | done a => rfl
  | act change next ih => exact congrArg (act change) (funext fun w => ih w)
  | await ready deadline next ih => exact congrArg (await ready deadline) (funext fun met => ih met)

end Program

namespace Runner

variable {α β : Type}

/-- A script goes on with the runner that the one before it has left, unless that one failed. -/
theorem exec_bind (script : Script α) (next : α → Script β) (r : Runner) :
    exec (script.bind next) r = (exec script r).bind fun
      | (.ok a, r) => exec (next a) r
      | (.error e, r) => .done (.error e, r) := by
  induction script generalizing r with
  | done result => cases result <;> rfl
  | call op step ih =>
    show (r.perform op).bind _ = ((r.perform op).bind _).bind _
    rw [Program.bind_assoc]
    exact congrArg _ (funext fun reply => ih reply.1 reply.2)

theorem exec_attempt (script : Script α) (r : Runner) :
    exec script.attempt r = (exec script r).bind fun (result, r) => .done (.ok result, r) := by
  induction script generalizing r with
  | done result => rfl
  | call op step ih =>
    show (r.perform op).bind _ = ((r.perform op).bind _).bind _
    rw [Program.bind_assoc]
    exact congrArg _ (funext fun reply => ih reply.1 reply.2)

/-- So are the brackets of scripts, which leave the runner that the work has left. -/
theorem exec_bracket_eq (sleep : Duration) (first second : ProxyCommand) (work : Script α)
    (r : Runner) :
    exec (Script.bracket sleep first second work) r =
      Program.bracketing r.proxy sleep first second (fun e => (.error e, r)) (exec work r) := by
  let working (ticket : Nat) : Script (Except Error α) := work.attempt.bind fun result =>
    (Script.proxy.join ticket).bind fun _ => .done (.ok result)
  have hworking : ∀ ticket, exec ((working ticket).bind Script.ofExcept) r =
      (exec work r).bind (Program.joining ticket) := by
    intro ticket
    rw [exec_bind, exec_bind, exec_attempt, Program.bind_assoc, Program.bind_assoc]
    refine congrArg _ (funext fun ended => ?_)
    obtain ⟨result, r'⟩ := ended
    rfl
  have hmeanwhile : exec (((Script.proxy.later sleep second).bind working).bind Script.ofExcept) r =
      Program.meanwhile r.proxy sleep second (exec work r) :=
    congrArg (Program.act _) (funext fun w => hworking w.tickets)
  let sent (answer : Except Error Unit) : Script (Except Error α) :=
    match answer with
    | .error e => .done (.ok (.error e))
    | .ok () => (Script.proxy.later sleep second).bind working
  have hsent : exec (((Script.proxy.send first).bind sent).bind Script.ofExcept) r =
      (Program.lift fun w => w.sendCommand r.proxy first).bind fun answer =>
        exec ((sent answer).bind Script.ofExcept) r := rfl
  refine hsent.trans (congrArg _ (funext fun answer => ?_))
  cases answer with
  | error e => rfl
  | ok _ => exact hmeanwhile

end Runner

/-! ## A command that is put off -/

namespace Chronicle

/-- The clock does not stop, and a command that is due is not left for ever. -/
structure Fair (κ : Chronicle) : Prop where
  time : ∀ t, ∃ n, t ≤ (κ.world n).clock
  due : ∀ n, ∀ d ∈ (κ.world n).delayed, d.due ≤ (κ.world n).clock →
    ∃ m, n ≤ m ∧ d ∉ (κ.world m).delayed

/-- What is known at the moment `m` of a command that was put off for some time by the moment `since`,
after the moment `answered`. -/
structure PutOff (κ : Chronicle) (answered since : Nat) (sleep : Duration) (d : DelayedCommand)
    (m : Nat) : Prop where
  /-- it is sent once -/
  once : ∀ i i', κ.Sends i d → κ.Sends i' d → i = i'
  /-- it is not sent before the time has passed -/
  in_time : ∀ i, κ.Sends i d → since ≤ i ∧
    (κ.world answered).clock * 1000000 + sleep.nanos ≤ (κ.world i).clock * 1000000
  /-- when it is sent, the control endpoint is asked for it, and it is delayed no longer -/
  asked : ∀ i, κ.Sends i d → ∃ url,
    d.controller.commandUrl d.command.method d.command.params = .ok url ∧
    (κ.world (i + 1)).network = ((κ.world i).network.post url).2 ∧ d ∉ (κ.world (i + 1)).delayed
  /-- it is not lost -/
  kept : d ∈ (κ.world m).delayed ∨ ∃ i, i < m ∧ κ.Sends i d
  /-- it is sent some time, also if nobody waits for it -/
  sent : κ.Fair → ∃ i, κ.Sends i d

variable {κ : Chronicle} {p : ProxyController} {sleep : Duration} {first second : ProxyCommand}

/-- Where commands can be asked for, a delayed command that is sent is asked for. -/
theorem Sends.asked {d : DelayedCommand} {i : Nat} (h : κ.Sends i d) {url : Url}
    (hurl : d.controller.commandUrl d.command.method d.command.params = .ok url) :
    (κ.world (i + 1)).network = ((κ.world i).network.post url).2 := by
  obtain ⟨j, hj, -, hnext⟩ := h
  rw [hnext]
  unfold World.sendDelayed
  rw [hj]
  dsimp only
  unfold World.sendCommand World.sendRequest
  rw [hurl]
  dsimp only
  split
  · rfl
  · split <;> rfl

theorem PutOff.of_delayed {answered since m : Nat} {d : DelayedCommand}
    (hd : d ∈ (κ.world since).delayed) (hm : since ≤ m)
    (hdue : (κ.world answered).clock * 1000000 + sleep.nanos ≤ d.due * 1000000)
    (hurl : ∃ url, d.controller.commandUrl d.command.method d.command.params = .ok url) :
    κ.PutOff answered since sleep d m where
  once i i' h h' := h.unique h'
  in_time i h := by
    obtain ⟨-, -, hclock, -⟩ := id h
    exact ⟨Nat.le_of_not_lt fun hlt => h.gone hlt hd,
      Nat.le_trans hdue (Nat.mul_le_mul_right 1000000 hclock)⟩
  asked i h := by
    obtain ⟨url, hurl⟩ := hurl
    exact ⟨url, hurl, h.asked hurl, h.gone (Nat.lt_succ_self i)⟩
  kept := (kept_or_sent hd hm).imp id fun ⟨i, _, him, h⟩ => ⟨i, him, h⟩
  sent hfair := by
    obtain ⟨n, hn⟩ := hfair.time d.due
    have hclock := κ.clock_mono (Nat.le_max_left n since)
    rcases kept_or_sent hd (Nat.le_max_right n since) with hkept | ⟨i, -, -, h⟩
    · obtain ⟨m', hm', hgone⟩ := hfair.due _ d hkept (Nat.le_trans hn hclock)
      rcases kept_or_sent hkept hm' with hkept | ⟨i, -, -, h⟩
      · exact absurd hkept hgone
      · exact ⟨i, h⟩
    · exact ⟨i, h⟩

/-- The command that a bracket puts off at a moment. -/
def putOffAt (κ : Chronicle) (j : Nat) (p : ProxyController) (sleep : Duration)
    (second : ProxyCommand) : DelayedCommand :=
  ⟨(κ.world j).tickets, (κ.world j).clock + sleep.ticks, p, second⟩

/-- A command that is put off is sent once and in time. -/
theorem PutOff.of_later {k k' j j' m : Nat} (haccepts : (κ.world k).Accepts p first) (hk : k' ≤ j)
    (hlater : κ.world j' = ((κ.world j).sendLater p sleep second).2) (hm : j' ≤ m) :
    κ.PutOff k' j' sleep (κ.putOffAt j p sleep second) m := by
  have hd : κ.putOffAt j p sleep second ∈ (κ.world j').delayed := by
    rw [hlater]
    exact List.mem_append_right _ List.mem_cons_self
  refine .of_delayed hd hm ?_ (haccepts.commandUrl second)
  have hclock := κ.clock_mono hk
  have hticks := sleep.nanos_le_ticks
  show _ ≤ ((κ.world j).clock + sleep.ticks) * 1000000
  omega

/-! ## How far a bracket has got -/

/-- How far a bracket that runs from the moment `n` on has got at the moment `m`: the actions that it has
made, and what is left of it. -/
inductive Bracketed (κ : Chronicle) (p : ProxyController) (sleep : Duration)
    (first second : ProxyCommand) {β : Type} (refused : Error → β) (work : Program β) (n m : Nat) :
    List (Nat × Nat) → Program β → Prop
  /-- the first command has not been sent, and nothing has been done -/
  | before : Bracketed κ p sleep first second refused work n m []
      (.bracketing p sleep first second refused work)
  /-- the first command has been refused, nothing has been put off, and the bracket has ended with the
  error -/
  | refused {k k' : Nat} {e : Error} (hk : n ≤ k) (hk' : k ≤ k') (hm : k' ≤ m)
      (hsent : (κ.world k).sendCommand p first = (.error e, κ.world k'))
      (hrefuses : (κ.world k).Refuses p first e)
      (hnone : (κ.world k').delayed = (κ.world k).delayed) :
      Bracketed κ p sleep first second refused work n m [(k, k')] (.done (refused e))
  /-- the first command has been accepted, and nothing else has been done -/
  | accepted {k k' : Nat} (hk : n ≤ k) (hk' : k ≤ k') (hm : k' ≤ m)
      (hsent : (κ.world k).sendCommand p first = (.ok (), κ.world k'))
      (haccepts : (κ.world k).Accepts p first) :
      Bracketed κ p sleep first second refused work n m [(k, k')] (.meanwhile p sleep second work)
  /-- the first command has been accepted and the second one put off; the work has begun, after which
  it is waited for -/
  | working {k k' j j' : Nat} {worked : List (Nat × Nat)} {rest : Program β} (hk : n ≤ k)
      (hk' : k ≤ k') (hj : k' ≤ j) (hj' : j ≤ j')
      (hsent : (κ.world k).sendCommand p first = (.ok (), κ.world k'))
      (haccepts : (κ.world k).Accepts p first)
      (hwork : κ.Goes work j' worked rest m)
      (hsecond : κ.PutOff k' j' sleep (κ.putOffAt j p sleep second) m) :
      Bracketed κ p sleep first second refused work n m ((k, k') :: (j, j') :: worked)
        (rest.bind (.joining (κ.world j).tickets))
  /-- the work has ended, the second command has been sent, and the bracket has ended with the value of
  the work -/
  | ended {k k' j j' l i : Nat} {worked : List (Nat × Nat)} {b : β} (hk : n ≤ k) (hk' : k ≤ k')
      (hj : k' ≤ j) (hj' : j ≤ j')
      (hsent : (κ.world k).sendCommand p first = (.ok (), κ.world k'))
      (haccepts : (κ.world k).Accepts p first)
      (hwork : κ.Goes work j' worked (.done b) l) (hl : l ≤ m)
      (hsecond : κ.PutOff k' j' sleep (κ.putOffAt j p sleep second) m)
      (hi : i < m) (hsends : κ.Sends i (κ.putOffAt j p sleep second)) :
      Bracketed κ p sleep first second refused work n m ((k, k') :: (j, j') :: worked) (.done b)

section

variable {β : Type} {refused : Error → β} {work q : Program β} {n m : Nat} {acts : List (Nat × Nat)}

/-- Waiting for the second command ends after it has been sent. -/
theorem joined_of_goes {ticket l : Nat} {b : β} (h : κ.Goes (.joining ticket b) l acts q m) :
    acts = [] ∧ (q = .joining ticket b ∨
      q = .done b ∧ ∃ j, l ≤ j ∧ j ≤ m ∧ (κ.world j).isSent ticket = true) := by
  rcases h.of_await with ⟨rfl, rfl⟩ | ⟨j, met, hj, hwaited, hrest⟩
  · exact ⟨rfl, .inl rfl⟩
  · obtain ⟨rfl, rfl⟩ := hrest.of_done
    rcases hwaited with ⟨-, hsent⟩ | ⟨-, hover⟩
    · exact ⟨rfl, .inr ⟨rfl, j, hj, hrest.le, hsent⟩⟩
    · cases hover

/-- A ticket that is not delayed any more belongs to a command that has been sent. -/
theorem not_mem_of_isSent {w : World} {d : DelayedCommand} (h : w.isSent d.ticket = true) :
    d ∉ w.delayed := by
  intro hd
  have hne := List.all_eq_true.mp h d hd
  rw [bne_self_eq_false] at hne
  cases hne

/-- A bracket has got as far as it may. -/
theorem bracketed_of_goes (h : κ.Goes (.bracketing p sleep first second refused work) n acts q m) :
    κ.Bracketed p sleep first second refused work n m acts q := by
  rcases h.of_act with ⟨rfl, rfl⟩ | ⟨k, k', acts, hk, hk', hsend, rfl, hrest⟩
  · exact .before
  have hm := hrest.le
  rcases (κ.world k).sendCommand_cases p first with ⟨hok, haccepts⟩ | ⟨e, herror, hrefuses⟩
  · have hsent : (κ.world k).sendCommand p first = (.ok (), κ.world k') := by
      rw [hsend, ← hok]
    have hthen : κ.Goes (.meanwhile p sleep second work) k' acts q m := by
      simpa only [Program.bind, hok] using hrest
    rcases hthen.of_act with ⟨rfl, rfl⟩ | ⟨j, j', acts, hj, hj', hlater, rfl, hworking⟩
    · exact .accepted hk hk' hm hsent haccepts
    have hworking : κ.Goes (work.bind (.joining (κ.world j).tickets)) j' acts q m := hworking
    have hsecond := PutOff.of_later haccepts hj hlater hworking.le
    rcases hworking.of_bind with ⟨rest, hwork, rfl⟩ | ⟨b, l, worked, joins, rfl, hwork, hjoin⟩
    · exact .working hk hk' hj hj' hsent haccepts hwork hsecond
    · obtain ⟨rfl, hjoining⟩ := joined_of_goes hjoin
      rw [List.append_nil]
      rcases hjoining with rfl | ⟨rfl, i, hli, him, hgone⟩
      · exact .working hk hk' hj hj' hsent haccepts (hwork.rest_until hjoin.le) hsecond
      · have hkept := (PutOff.of_later haccepts hj hlater (Nat.le_trans hwork.le hli)).kept
        obtain ⟨i', hi', hsends⟩ := hkept.resolve_left (not_mem_of_isSent hgone)
        exact .ended hk hk' hj hj' hsent haccepts hwork hjoin.le hsecond
          (Nat.lt_of_lt_of_le hi' him) hsends
  · have hsent : (κ.world k).sendCommand p first = (.error e, κ.world k') := by
      rw [hsend, ← herror]
    have hdone : κ.Goes (.done (refused e)) k' acts q m := by
      simpa only [Program.bind, herror] using hrest
    obtain ⟨rfl, rfl⟩ := hdone.of_done
    refine .refused hk hk' hm hsent hrefuses ?_
    rw [hsend]
    exact (World.sendCommand_delayed _ p first).1

end

end Chronicle

end Conformance
