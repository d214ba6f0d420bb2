import Conformance.Proofs.Server.Numbering

/-!
# Actions of two sides

Two sides use one server: each of them asks it for something, and the workflows of both go on. Their
actions come in any order. Each side keeps to its own task queues and its own workflow ids.

## Main definitions

- `Server.Action`, `Server.act` — what can be done at a server, and what it leads to
- `Server.play` — actions of both sides, one after another
- `Server.Domain` — the task queues and workflow ids of a side
- `Server.Domain.Keeps` — a side keeps to its own

## Main statements

- `Server.exists_act_of_step?` — every step among the tasks of a server is such an action
- `Server.exists_run_play` — what is played is a run of the server

## Design notes

An action is defined in every state, so that any actions can be taken in any order: a workflow that has to
wait makes no step. What a workflow reads of the clock and of the latches comes with the action, since
neither belongs to the server. Connections belong to no task queue and are left out.
-/

namespace Conformance.Server

/-! ## Actions -/

/-- What can be done at a server: it is asked for something, somebody who waits for a result looks whether
it is there, the task of a workflow makes a step, or a latch is opened. -/
inductive Action where
  | ask (q : Request)
  | look (sub : Subscription)
  | step (workflowId : String) (now : Nat) (signals : Signals)
  | letThrough (latch : SignalId)

/-- What an action is answered with. A step tells the latches after it, if there is one. -/
@[reducible] def Action.Result : Action → Type
  | ask q => q.Answer
  | look _ => Bool
  | step .. => Option Signals
  | letThrough _ => Unit

/-- A step of the task of a workflow id. -/
def stepOf? (s : Server) (workflowId : String) (now : Nat) (signals : Signals) :
    Option (Server × Signals) :=
  (s.tasks.findIdx? fun t => t.workflowId = workflowId).bind (s.step? now signals)

/-- Takes an action. -/
def act (s : Server) : (a : Action) → a.Result × Server
  | .ask q => s.serve q
  | .look sub => (s.isSettled sub, s)
  | .step workflowId now signals =>
    match s.stepOf? workflowId now signals with
    | some (s', signals') => (some signals', s')
    | none => (none, s)
  | .letThrough latch => ((), s.letThrough latch)

/-- An action with its result. -/
structure Event where
  action : Action
  result : action.Result

/-- The two sides. -/
inductive Side where
  | mine
  | theirs
  deriving DecidableEq

/-- Takes actions of both sides, one after another, and tells what has happened. -/
def play : Server → List (Side × Action) → List (Side × Event) × Server
  | s, [] => ([], s)
  | s, (side, a) :: rest =>
    let (result, s) := s.act a
    let (events, s) := play s rest
    ((side, ⟨a, result⟩) :: events, s)

/-- What belongs to one side. -/
def ofSide {α : Type} (side : Side) (l : List (Side × α)) : List α :=
  l.filterMap fun x => if x.1 = side then some x.2 else none

variable {s s' : Server}

theorem ofSide_cons_self {α : Type} (side : Side) (x : α) (l : List (Side × α)) :
    ofSide side ((side, x) :: l) = x :: ofSide side l :=
  List.filterMap_cons_some (if_pos rfl)

theorem ofSide_cons_of_ne {α : Type} {side side' : Side} (h : side' ≠ side) (x : α)
    (l : List (Side × α)) : ofSide side ((side', x) :: l) = ofSide side l :=
  List.filterMap_cons_none (if_neg h)

theorem play_cons (s : Server) (side : Side) (a : Action) (rest : List (Side × Action)) :
    s.play ((side, a) :: rest) =
      ((side, ⟨a, (s.act a).1⟩) :: ((s.act a).2.play rest).1, ((s.act a).2.play rest).2) :=
  rfl

/-! ## Actions and runs -/

theorem stepOf?_eq_some {id : String} {now : Nat} {signals : Signals} {next : Server × Signals}
    (h : s.stepOf? id now signals = some next) :
    ∃ i t, s.tasks[i]? = some t ∧ t.workflowId = id ∧ s.step? now signals i = some next := by
  obtain ⟨i, hi, hstep⟩ := Option.bind_eq_some_iff.mp h
  obtain ⟨hlt, hid, -⟩ := List.findIdx?_eq_some_iff_getElem.mp hi
  exact ⟨i, s.tasks[i], List.getElem?_eq_getElem hlt, of_decide_eq_true hid, hstep⟩

/-- The task of a workflow id is found. -/
theorem stepOf?_of_getElem? (hnodup : s.underWay.Nodup) {i : Nat} {t : WorkflowTask}
    (ht : s.tasks[i]? = some t) (now : Nat) (signals : Signals) :
    s.stepOf? t.workflowId now signals = s.step? now signals i := by
  obtain ⟨hlt, rfl⟩ := List.getElem?_eq_some_iff.mp ht
  have hindex : s.tasks.findIdx? (fun u => u.workflowId = s.tasks[i].workflowId) = some i := by
    refine List.findIdx?_eq_some_iff_getElem.mpr ⟨hlt, decide_eq_true rfl, fun j hj hsame => ?_⟩
    have hids : s.underWay[j]? = s.underWay[i]? := by
      simp only [underWay, List.getElem?_map, List.getElem?_eq_getElem hlt,
        List.getElem?_eq_getElem (Nat.lt_trans hj hlt)]
      exact congrArg some (of_decide_eq_true hsame)
    have hlt' : j < s.underWay.length := by
      rw [underWay, List.length_map]
      exact Nat.lt_trans hj hlt
    exact Nat.ne_of_lt hj ((List.getElem?_inj hlt' hnodup).mp hids)
  rw [stepOf?, hindex]
  rfl

/-- Every step among the tasks of a server is an action. -/
theorem exists_act_of_step? (haccounted : Accounted s) {now i : Nat} {signals signals' : Signals}
    (h : s.step? now signals i = some (s', signals')) :
    ∃ id, s.act (.step id now signals) = (some signals', s') := by
  obtain ⟨t, ht⟩ : ∃ t, s.tasks[i]? = some t := by
    refine Option.ne_none_iff_exists'.mp fun hnone => ?_
    rw [step?, hnone] at h
    cases h
  refine ⟨t.workflowId, ?_⟩
  rw [act, stepOf?_of_getElem? haccounted.runs_once ht, h]

theorem exists_run_act {s₀ : Server} {log : List Exchange} (h : Run s₀ log s) (a : Action) :
    ∃ log', Run s₀ log' (s.act a).2 := by
  cases a with
  | ask q => exact ⟨_, h.serve q⟩
  | look sub => exact ⟨log, h⟩
  | letThrough latch => exact ⟨log, h.letThrough latch⟩
  | step id now signals =>
    cases hstep : s.stepOf? id now signals with
    | none =>
      rw [act, hstep]
      exact ⟨log, h⟩
    | some next =>
      obtain ⟨i, -, -, -, hi⟩ := stepOf?_eq_some hstep
      rw [act, hstep]
      exact ⟨log, h.task hi⟩

/-- What is played is a run of the server. -/
theorem exists_run_play {s₀ : Server} {log : List Exchange} (h : Run s₀ log s)
    (actions : List (Side × Action)) : ∃ log', Run s₀ log' (s.play actions).2 := by
  induction actions generalizing s log with
  | nil => exact ⟨log, h⟩
  | cons x rest ih =>
    obtain ⟨log', hnext⟩ := exists_run_act h x.2
    exact ih hnext

/-! ## Domains -/

/-- The action is on some task queues and workflow ids only. New runs have explicit ids, workers stay on
their queues, and the workers and subscriptions that are used are known. -/
def Action.KeepsTo (queues ids : String → Prop) (employs : WorkerId → Prop)
    (awaits : Subscription → Prop) : Action → Prop
  | .ask (.startWorkflow _ _ _ options _) =>
    queues options.taskQueue ∧ ∃ id, options.workflowId = some id ∧ ids id
  | .ask (.subscribe e) | .ask (.fetchHistory _ _ e) | .ask (.describe _ _ e) => ids e.workflowId
  | .ask (.takeAnswer sub) | .look sub => awaits sub
  | .ask (.update _ id _) => ids id
  | .ask (.addWorker queue) => queues queue
  | .ask (.updateWorker id change) =>
    employs id ∧ ∀ w w', change w = .ok w' → w'.taskQueue = w.taskQueue
  | .ask (.attach _ id) | .ask (.detach id) => employs id
  | .ask (.release ..) => True
  | .ask (.connect _) | .ask (.closeConnection _) => False
  | .step id _ _ => ids id
  | .letThrough _ => True

theorem Action.KeepsTo.mono {queues ids : String → Prop} {employs employs' : WorkerId → Prop}
    {awaits awaits' : Subscription → Prop} {a : Action} (h : a.KeepsTo queues ids employs awaits)
    (hemploys : ∀ id, employs id → employs' id) (hawaits : ∀ sub, awaits sub → awaits' sub) :
    a.KeepsTo queues ids employs' awaits' := by
  cases a with
  | ask q =>
    cases q with
    | takeAnswer sub => exact hawaits sub h
    | updateWorker id change => exact ⟨hemploys id h.1, h.2⟩
    | attach target id | detach id => exact hemploys id h
    | _ => exact h
  | look sub => exact hawaits sub h
  | step id now signals | letThrough latch => exact h

/-- The task queues and workflow ids of a side. -/
structure Domain where
  queues : String → Prop
  ids : String → Prop

namespace Domain

/-- The side has made the worker. -/
def Made (own : List Event) (id : WorkerId) : Prop :=
  ∃ queue, (⟨.ask (.addWorker queue), id⟩ : Event) ∈ own

/-- The side has been told the subscription. -/
def Subscribed (own : List Event) (sub : Subscription) : Prop :=
  ∃ e, (⟨.ask (.subscribe e), .ok sub⟩ : Event) ∈ own

/-- A side keeps to its domain: every action is on its own task queues and workflow ids, on workers it
has made and on subscriptions it has been told before. -/
def Keeps (D : Domain) (before : List Event) : List Event → Prop
  | [] => True
  | e :: rest =>
    e.action.KeepsTo D.queues D.ids (Made before) (Subscribed before) ∧ D.Keeps (before ++ [e]) rest

/-- Two domains have nothing in common. -/
structure Apart (A B : Domain) : Prop where
  queues : ∀ queue, A.queues queue → ¬ B.queues queue
  ids : ∀ id, A.ids id → ¬ B.ids id

end Domain

end Conformance.Server
