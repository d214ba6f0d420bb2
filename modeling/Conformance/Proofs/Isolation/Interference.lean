import Conformance.Proofs.Isolation.Steps
import Conformance.Proofs.Replay.Agreement
import Mathlib.Data.List.Forall2

/-!
# Two sides do not interfere

Two sides use one server, each with its own task queues and its own workflow ids, and their actions
come in any order. Each side is answered as if it was alone with the same actions in the same order, up
to the numbers in run ids and those of workers. In the end it finds its runs, its pollers and what waits
on its task queues as if it had been alone.

## Main definitions

- `Server.Share.Knows` — what a side has been told is part of its share
- `Server.SideBySide` — a server that both sides use, beside one that only one of them uses
- `Server.Domain.Agrees` — two servers that a side cannot tell apart, up to numbers

## Main statements

- `Server.SideBySide.mine`, `Server.SideBySide.theirs` — an action of either side
- `Server.sides_do_not_interfere` — each side is answered as if it was alone
-/

namespace Conformance.Server

/-! ## What a side has been told -/

namespace Share

variable {E F : Share} {s s' : Server} {a : Action} {own : List Event}

/-- What a side has been told is part of its share: the workers that it has made, and the
subscriptions that it can ask for. -/
structure Knows (E : Share) (own : List Event) (s : Server) : Prop where
  employs : ∀ w, Domain.Made own w → E.Employs s w
  awaits : ∀ sub, Domain.Subscribed own sub → E.Awaits sub

theorem knows_nil (E : Share) (s : Server) : E.Knows [] s where
  employs _ h := by
    obtain ⟨queue, hmem⟩ := h
    cases hmem
  awaits _ h := by
    obtain ⟨e, hmem⟩ := h
    cases hmem

theorem Knows.moves (h : F.Knows own s) (hmoves : E.Moves s s') : F.Knows own s' where
  employs w hw := hmoves.employs (h.employs w hw)
  awaits := h.awaits

theorem Knows.keepsTo (h : E.Knows own s)
    (ha : a.KeepsTo E.queues E.ids (Domain.Made own) (Domain.Subscribed own)) :
    a.KeepsTo E.queues E.ids (E.Employs s) E.Awaits :=
  ha.mono h.employs h.awaits

/-- What a side is told of its share is part of it. -/
theorem Knows.act (h : E.Knows own s) (hholds : E.Holds s) (hmoves : E.Moves s (s.act a).2)
    (ha : a.KeepsTo E.queues E.ids (Domain.Made own) (Domain.Subscribed own)) :
    E.Knows (own ++ [⟨a, (s.act a).1⟩]) (s.act a).2 where
  employs w hw := by
    obtain ⟨queue, hmem⟩ := hw
    rcases List.mem_append.mp hmem with hold | hnew
    · exact hmoves.employs (h.employs w ⟨queue, hold⟩)
    · injection List.mem_singleton.mp hnew with haction hresult
      subst haction
      cases hresult
      exact ⟨_, worker?_addWorker_self s queue, ha⟩
  awaits sub hsub := by
    obtain ⟨e, hmem⟩ := hsub
    rcases List.mem_append.mp hmem with hold | hnew
    · exact h.awaits sub ⟨e, hold⟩
    · injection List.mem_singleton.mp hnew with haction hresult
      subst haction
      have hok : (s.addressed e).map (fun r => Subscription.mk e r.execution r.timeout) = .ok sub :=
        (eq_of_heq hresult).symm
      cases hr : s.addressed e with
      | error _ =>
        rw [hr] at hok
        cases hok
      | ok r =>
        rw [hr] at hok
        cases hok
        obtain ⟨n, hn, hrun⟩ := hholds.records e.workflowId r ha (get?_of_addressed hr)
        exact ⟨congrArg Execution.workflowId hrun ▸ ha, n, hn, congrArg Execution.runId hrun⟩

end Share

/-! ## Side by side -/

/-- Both sides have used the first server, and the second one has been used in the same way by one of
them only. `own` and `others` are what the sides have been told at the first one. -/
structure SideBySide (s₀ : Server) (ν : Renaming) (E F : Share) (own others : List Event)
    (s s' : Server) : Prop where
  fresh : Fresh s₀
  joint : ∃ log, Run s₀ log s
  alone : ∃ log, Run s₀ log s'
  holds : E.Holds s
  holds_theirs : F.Holds s
  mirrors : E.Mirrors ν s s'
  knows : E.Knows own s
  knows_theirs : F.Knows others s

section

variable {s₀ s s' : Server} {ν : Renaming} {E F : Share} {own others : List Event} {a : Action}

theorem SideBySide.nodup (h : SideBySide s₀ ν E F own others s s') :
    s.underWay.Nodup ∧ s'.underWay.Nodup := by
  obtain ⟨log, hjoint⟩ := h.joint
  obtain ⟨log', halone⟩ := h.alone
  exact ⟨(accounted_of_run h.fresh hjoint).runs_once, (accounted_of_run h.fresh halone).runs_once⟩

/-- My side makes the same experience at both servers. -/
theorem SideBySide.mine (h : SideBySide s₀ ν E F own others s s') (hapart : E.Apart F)
    (ha : a.KeepsTo E.queues E.ids (Domain.Made own) (Domain.Subscribed own))
    (hnew : a.takesRun = true → E.runs (s.starts + 1))
    (hrun : a.takesRun = true → ν.runs (s.starts + 1) = s'.starts + 1)
    (hworker : a.makesWorker = true → ν.workers s.workers.length = s'.workers.length) :
    ν.Events ⟨a, (s.act a).1⟩ ⟨ν.action a, (s'.act (ν.action a)).1⟩ ∧
      SideBySide s₀ ν E F (own ++ [⟨a, (s.act a).1⟩]) others (s.act a).2
        (s'.act (ν.action a)).2 := by
  obtain ⟨hnodup, hnodup'⟩ := h.nodup
  obtain ⟨log, hjoint⟩ := h.joint
  obtain ⟨log', halone⟩ := h.alone
  have hkeeps := h.knows.keepsTo ha
  have hmoves := Share.moves_act h.holds hnodup hkeeps hnew
  obtain ⟨hevents, hmirrors⟩ :=
    Share.mirrors_act h.mirrors h.holds hnodup hnodup' hkeeps hrun hworker
  exact ⟨hevents,
    { fresh := h.fresh
      joint := exists_run_act hjoint a
      alone := exists_run_act halone (ν.action a)
      holds := hmoves.holds
      holds_theirs := h.holds_theirs.other hmoves hapart.symm
      mirrors := hmirrors
      knows := h.knows.act h.holds hmoves ha
      knows_theirs := h.knows_theirs.moves hmoves }⟩

/-- The other side cannot be seen. -/
theorem SideBySide.theirs (h : SideBySide s₀ ν E F own others s s') (hapart : E.Apart F)
    (ha : a.KeepsTo F.queues F.ids (Domain.Made others) (Domain.Subscribed others))
    (hnew : a.takesRun = true → F.runs (s.starts + 1)) :
    SideBySide s₀ ν E F own (others ++ [⟨a, (s.act a).1⟩]) (s.act a).2 s' := by
  obtain ⟨log, hjoint⟩ := h.joint
  have hmoves := Share.moves_act h.holds_theirs h.nodup.1 (h.knows_theirs.keepsTo ha) hnew
  exact
    { fresh := h.fresh
      joint := exists_run_act hjoint a
      alone := h.alone
      holds := h.holds.other hmoves hapart
      holds_theirs := hmoves.holds
      mirrors := h.mirrors.other hmoves hapart
      knows := h.knows.moves hmoves
      knows_theirs := h.knows_theirs.act h.holds_theirs hmoves ha }

/-- What my side does when it is alone. -/
def aloneWith (ν : Renaming) (actions : List (Side × Action)) : List (Side × Action) :=
  (ofSide .mine actions).map fun a => (.mine, ν.action a)

/-- The servers stay side by side, whatever both sides do. -/
theorem SideBySide.play {actions : List (Side × Action)} (h : SideBySide s₀ ν E F own others s s')
    (hapart : E.Apart F) (hothers : ∀ n, F.runs n ↔ ¬ E.runs n) {made : Nat → Prop}
    (hruns : Numbering Action.takesRun ν.runs E.runs (s.starts + 1) (s'.starts + 1) actions)
    (hworkers : Numbering Action.makesWorker ν.workers made s.workers.length s'.workers.length
      actions)
    (hmine : E.Keeps own (ofSide .mine (s.play actions).1))
    (htheirs : F.Keeps others (ofSide .theirs (s.play actions).1)) :
    List.Forall₂ ν.Events (ofSide .mine (s.play actions).1)
        (ofSide .mine (s'.play (aloneWith ν actions)).1) ∧
      ∃ own' others', SideBySide s₀ ν E F own' others' (s.play actions).2
        (s'.play (aloneWith ν actions)).2 := by
  -- by induction on the actions; the next numbers at both servers go along with the invariant
  induction actions generalizing s s' own others with
  | nil => exact ⟨.nil, own, others, h⟩
  | cons x rest ih =>
    obtain ⟨side, a⟩ := x
    obtain ⟨hstarts, hcount⟩ := counts_act s a
    rw [play_cons] at hmine htheirs ⊢
    cases side with
    | mine =>
      rw [ofSide_cons_self] at hmine ⊢
      rw [ofSide_cons_of_ne (by decide)] at htheirs
      obtain ⟨ha, hmine⟩ := hmine
      obtain ⟨hrun, hruns⟩ := hruns.of_mine
      obtain ⟨hworker, hworkers⟩ := hworkers.of_mine
      obtain ⟨hstarts', hcount'⟩ := counts_act s' (ν.action a)
      rw [ν.takesRun_action] at hstarts'
      rw [ν.makesWorker_action] at hcount'
      rw [Nat.add_right_comm, ← hstarts, Nat.add_right_comm, ← hstarts'] at hruns
      rw [← hcount, ← hcount'] at hworkers
      obtain ⟨hevents, hnext⟩ := h.mine hapart ha (fun htakes => (hrun htakes).2)
        (fun htakes => (hrun htakes).1) fun hmakes => (hworker hmakes).1
      obtain ⟨hall, hend⟩ := ih hnext hruns hworkers hmine htheirs
      rw [aloneWith, ofSide_cons_self, List.map_cons, play_cons, ofSide_cons_self]
      exact ⟨.cons hevents hall, hend⟩
    | theirs =>
      -- the second server is left as it is
      rw [ofSide_cons_of_ne (by decide)] at hmine ⊢
      rw [ofSide_cons_self] at htheirs
      obtain ⟨ha, htheirs⟩ := htheirs
      obtain ⟨hrun, hruns⟩ := hruns.of_theirs
      obtain ⟨-, hworkers⟩ := hworkers.of_theirs
      rw [Nat.add_right_comm, ← hstarts] at hruns
      rw [← hcount] at hworkers
      have hnext := h.theirs hapart ha fun htakes => (hothers _).mpr (hrun htakes)
      rw [aloneWith, ofSide_cons_of_ne (by decide)]
      exact ih hnext hruns hworkers hmine htheirs

end

/-! ## Two servers that a side cannot tell apart -/

/-- The two servers have the same runs of the side with the same results, the same pollers on its
task queues and the same workflows waiting there, up to numbers. -/
structure Domain.Agrees (D : Domain) (ν : Renaming) (s s' : Server) : Prop where
  executions : ∀ id, D.ids id → s'.executions.get? id = (s.executions.get? id).map ν.record
  results : ∀ id r, D.ids id → s.executions.get? id = some r →
    s'.completions.get? (ν.record r).execution.runId = s.completions.get? r.execution.runId
  pollers : ∀ queue, D.queues queue →
    s'.pollers.get? queue = (s.pollers.get? queue).map ν.workers
  polling : ∀ queue w, D.queues queue → s.pollers.get? queue = some w →
    s'.worker? (ν.workers w) = s.worker? w
  pending : ∀ queue, D.queues queue → s'.pending.get? queue = s.pending.get? queue

theorem SideBySide.agrees {s₀ s s' : Server} {ν : Renaming} {E F : Share}
    {own others : List Event} (h : SideBySide s₀ ν E F own others s s') : E.toDomain.Agrees ν s s' where
  executions := h.mirrors.executions
  results id r hid hr := by
    obtain ⟨n, hn, hrun⟩ := h.holds.records id r hid hr
    have hrunId : (ν.record r).execution.runId = runIdOf (ν.runs n) := by
      show ν.runId r.execution.runId = _
      rw [hrun, ν.runId_runIdOf]
    rw [hrunId, h.mirrors.completions n hn, hrun]
  pollers := h.mirrors.pollers
  polling queue w hqueue hw := Share.worker?_of_mirrors h.mirrors (h.holds.pollers queue w hqueue hw)
  pending := h.mirrors.pending

theorem Share.holds_fresh {s : Server} (h : Fresh s) (E : Share) : E.Holds s := by
  obtain ⟨updateSupport, refused, failingShutdown, rfl⟩ := h
  exact
    { records := fun _ _ _ hr => nomatch hr
      pollers := fun _ _ _ hw => nomatch hw
      waiting := fun _ _ _ hid => nomatch hid
      tasks := fun _ ht => nomatch ht }

theorem Fresh.sideBySide {s : Server} (h : Fresh s) (ν : Renaming) (E F : Share) :
    SideBySide s ν E F [] [] s s := by
  obtain ⟨updateSupport, refused, failingShutdown, rfl⟩ := id h
  exact
    { fresh := h
      joint := ⟨[], .start⟩
      alone := ⟨[], .start⟩
      holds := Share.holds_fresh h E
      holds_theirs := Share.holds_fresh h F
      mirrors :=
        { support := rfl
          failing := rfl
          executions := fun _ _ => rfl
          completions := fun _ _ => rfl
          pollers := fun _ _ => rfl
          pending := fun _ _ => rfl
          workers := fun _ _ hx => nomatch hx
          tasks := fun _ _ => ⟨fun ht => (nomatch ht), fun ht => nomatch ht⟩ }
      knows := E.knows_nil _
      knows_theirs := F.knows_nil _ }

/-- Two sides use a fresh server, each with its own task queues and its own workflow ids, and their
actions come in any order. Then there are other numbers for runs and workers with which my side, alone
with its actions in the same order, is answered in the same way and finds the same in the end. -/
theorem sides_do_not_interfere {s₀ : Server} (h₀ : Fresh s₀) {A B : Domain} (hapart : A.Apart B)
    (actions : List (Side × Action)) (hmine : A.Keeps [] (ofSide .mine (s₀.play actions).1))
    (htheirs : B.Keeps [] (ofSide .theirs (s₀.play actions).1)) :
    ∃ ν : Renaming,
      List.Forall₂ ν.Events (ofSide .mine (s₀.play actions).1)
        (ofSide .mine (s₀.play (aloneWith ν actions)).1) ∧
      A.Agrees ν (s₀.play actions).2 (s₀.play (aloneWith ν actions)).2 := by
  obtain ⟨runs, own, hruns⟩ :=
    exists_numbering Action.takesRun (s₀.starts + 1) (s₀.starts + 1) actions
  obtain ⟨workers, made, hworkers⟩ :=
    exists_numbering Action.makesWorker s₀.workers.length s₀.workers.length actions
  have hshares : Share.Apart ⟨A, own⟩ ⟨B, fun n => ¬ own n⟩ :=
    { hapart with runs := fun _ hn hnot => hnot hn }
  have hstart := h₀.sideBySide ⟨runs, workers⟩ ⟨A, own⟩ ⟨B, fun n => ¬ own n⟩
  obtain ⟨hevents, own', others', hend⟩ :=
    hstart.play hshares (fun _ => .rfl) hruns hworkers hmine htheirs
  exact ⟨⟨runs, workers⟩, hevents, hend.agrees⟩

/-- Two runs fail because no workflow is registered. My run has the second number beside theirs, and would
have the first one alone. -/
theorem failing_runs_do_not_interfere :
    let mine : Domain := ⟨(· = "mine"), (· = "my-order")⟩
    let theirs : Domain := ⟨(· = "theirs"), (· = "their-order")⟩
    let start (queue id : String) : Action :=
      .ask (.startWorkflow "direct" none "Flow" { workflowId := some id, taskQueue := queue } [])
    let run : Execution := ⟨"my-order", runIdOf 2⟩
    let result : Subscription := ⟨run, run, defaultTimeout⟩
    let actions : List (Side × Action) :=
      [(.theirs, start "theirs" "their-order"), (.theirs, .ask (.addWorker "theirs")),
        (.mine, start "mine" "my-order"), (.mine, .ask (.addWorker "mine")),
        (.theirs, .ask (.attach "direct" 0)), (.mine, .ask (.attach "direct" 1)),
        (.mine, .step "my-order" 0 {}), (.theirs, .step "their-order" 0 {}),
        (.mine, .ask (.subscribe run)), (.mine, .look result), (.mine, .ask (.takeAnswer result))]
    let joint := ({} : Server).play actions
    mine.Keeps [] (ofSide .mine joint.1) ∧ theirs.Keeps [] (ofSide .theirs joint.1) ∧
      ∃ ν : Renaming,
        List.Forall₂ ν.Events (ofSide .mine joint.1)
          (ofSide .mine (({} : Server).play (aloneWith ν actions)).1) ∧
        mine.Agrees ν joint.2 (({} : Server).play (aloneWith ν actions)).2 := by
  intro mine theirs start run result actions joint
  have hfresh : Fresh {} := ⟨.enabled, [], [], rfl⟩
  have hapart : mine.Apart theirs :=
    { queues := fun queue (hmine : queue = "mine") (htheirs : queue = "theirs") => by
        rw [hmine] at htheirs
        exact absurd htheirs (by decide)
      ids := fun id (hmine : id = "my-order") (htheirs : id = "their-order") => by
        rw [hmine] at htheirs
        exact absurd htheirs (by decide) }
  have hmine : mine.Keeps [] (ofSide .mine joint.1) := by
    refine ⟨⟨rfl, "my-order", rfl, rfl⟩, rfl, ⟨"mine", ?made⟩, rfl, rfl, ⟨run, ?told⟩, ⟨run, ?still⟩,
      trivial⟩
    case made => exact List.mem_append_right _ List.mem_cons_self
    case told => exact List.mem_append_right _ List.mem_cons_self
    case still => exact List.mem_append_left _ (List.mem_append_right _ List.mem_cons_self)
  have htheirs : theirs.Keeps [] (ofSide .theirs joint.1) := by
    refine ⟨⟨rfl, "their-order", rfl, rfl⟩, rfl, ⟨"theirs", ?made⟩, rfl, trivial⟩
    case made => exact List.mem_append_right _ List.mem_cons_self
  exact ⟨hmine, htheirs, sides_do_not_interfere hfresh hapart actions hmine htheirs⟩

end Conformance.Server
