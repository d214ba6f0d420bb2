import Conformance.Proofs.Isolation.Actions
import Mathlib.Logic.Equiv.Basic

/-!
# Other numbers

A server that does less gives out smaller numbers. What differs in nothing but the numbers in run ids, and
in those of workers, is the same up to a renaming.

## Main definitions

- `Server.Renaming` — other numbers for runs and workers
- `Server.Renaming.action` — an action with other numbers
- `Server.Renaming.Events` — an event that is the same up to numbers
- `Server.Numbering` — the numbers that one side is given beside another one, and those it is given alone

## Main statements

- `Server.Renaming.runId_inj` — different run ids stay different
- `Server.exists_numbering` — there is a renaming of the numbers that a side is given
-/

namespace Conformance.Server

/-! ## Numbers in run ids -/

/-- The number that a run id is made from. -/
def numberOf? (runId : String) : Option Nat :=
  let n := Nat.ofDigitChars 10 (runId.toList.drop "loopback-run-".toList.length) 0
  if runIdOf n = runId then some n else none

theorem numberOf?_eq_some_iff {runId : String} {n : Nat} :
    numberOf? runId = some n ↔ runIdOf n = runId := by
  constructor
  · intro h
    unfold numberOf? at h
    dsimp only at h
    split at h <;> cases h
    assumption
  · rintro rfl
    have hlist : (runIdOf n).toList = "loopback-run-".toList ++ Nat.toDigits 10 n := by
      rw [runIdOf, String.toList_append, Nat.toString_eq_repr, Nat.toList_repr]
    unfold numberOf?
    rw [hlist, List.drop_left, Nat.ofDigitChars_ten_toDigits]
    exact if_pos rfl

/-- Other numbers for runs and for workers. -/
structure Renaming where
  runs : Equiv.Perm Nat
  workers : Equiv.Perm WorkerId

namespace Renaming

variable (ν : Renaming)

/-- A run id with another number. A text that is no run id stays. -/
def runId (text : String) : String :=
  match numberOf? text with
  | some n => runIdOf (ν.runs n)
  | none => text

@[simp] theorem runId_runIdOf (n : Nat) : ν.runId (runIdOf n) = runIdOf (ν.runs n) := by
  rw [runId, numberOf?_eq_some_iff.mpr rfl]

theorem runId_of_none {text : String} (h : numberOf? text = none) : ν.runId text = text := by
  rw [runId, h]

@[simp] theorem runId_empty : ν.runId "" = "" := by
  refine ν.runId_of_none (Option.eq_none_iff_forall_ne_some.mpr fun n hn => ?_)
  exact runIdOf_ne_empty n (numberOf?_eq_some_iff.mp hn)

/-- Different run ids stay different. -/
theorem runId_inj {text text' : String} : ν.runId text = ν.runId text' ↔ text = text' := by
  refine ⟨fun h => ?_, congrArg _⟩
  cases hn : numberOf? text with
  | some n =>
    obtain rfl := numberOf?_eq_some_iff.mp hn
    cases hm : numberOf? text' with
    | some m =>
      obtain rfl := numberOf?_eq_some_iff.mp hm
      rw [runId_runIdOf, runId_runIdOf] at h
      rw [ν.runs.injective (runIdOf_inj h)]
    | none =>
      rw [runId_runIdOf, ν.runId_of_none hm] at h
      rw [numberOf?_eq_some_iff.mpr h] at hm
      cases hm
  | none =>
    rw [ν.runId_of_none hn] at h
    cases hm : numberOf? text' with
    | some m =>
      obtain rfl := numberOf?_eq_some_iff.mp hm
      rw [runId_runIdOf] at h
      rw [numberOf?_eq_some_iff.mpr h.symm] at hn
      cases hn
    | none => rwa [ν.runId_of_none hm] at h

theorem isEmpty_runId (text : String) : (ν.runId text).isEmpty = text.isEmpty := by
  have hempty : ν.runId text = ν.runId "" ↔ text = "" := ν.runId_inj
  rw [runId_empty] at hempty
  rw [Bool.eq_iff_iff, String.isEmpty_iff, String.isEmpty_iff, hempty]

/-! ## Data with other numbers -/

def execution (e : Execution) : Execution := { e with runId := ν.runId e.runId }

def record (r : ExecutionRecord) : ExecutionRecord := { r with execution := ν.execution r.execution }

def subscription (sub : Subscription) : Subscription :=
  { sub with asked := ν.execution sub.asked, found := ν.execution sub.found }

def task (t : WorkflowTask) : WorkflowTask := { t with worker := ν.workers t.worker }

theorem task_inj {t t' : WorkflowTask} : ν.task t = ν.task t' ↔ t = t' := by
  obtain ⟨id, worker, phase, wake⟩ := t
  obtain ⟨id', worker', phase', wake'⟩ := t'
  simp [task]

theorem exists_task_eq (t : WorkflowTask) : ∃ u, ν.task u = t := by
  refine ⟨{ t with worker := ν.workers.symm t.worker }, ?_⟩
  simp [task]

/-- The same request, for runs and workers with other numbers. -/
def request : Request → Request
  | .subscribe e => .subscribe (ν.execution e)
  | .takeAnswer sub => .takeAnswer (ν.subscription sub)
  | .fetchHistory target ns e => .fetchHistory target ns (ν.execution e)
  | .describe target ns e => .describe target ns (ν.execution e)
  | .updateWorker id change => .updateWorker (ν.workers id) change
  | .attach target id => .attach target (ν.workers id)
  | .detach id => .detach (ν.workers id)
  | q => q

/-- The same action, for runs and workers with other numbers. -/
def action : Action → Action
  | .ask q => .ask (ν.request q)
  | .look sub => .look (ν.subscription sub)
  | a => a

/-! ## Results that are the same up to numbers -/

/-- The errors are the same, or they are the same up to the run that they name. -/
inductive Errors : Error → Error → Prop
  | same (e : Error) : Errors e e
  | workflow (before after : String) (run : Execution) :
      Errors (.workflow (before ++ run.text ++ after))
        (.workflow (before ++ (ν.execution run).text ++ after))
  | rpc (code : RpcCode) (before after : String) (run : Execution) :
      Errors (.rpc ⟨code, before ++ run.text ++ after⟩)
        (.rpc ⟨code, before ++ (ν.execution run).text ++ after⟩)

/-- Both succeed with answers that correspond, or both fail with the same error up to numbers. -/
inductive Results {α β : Type} (R : α → β → Prop) : Except Error α → Except Error β → Prop
  | ok {a : α} {b : β} (h : R a b) : Results R (.ok a) (.ok b)
  | error {e e' : Error} (h : ν.Errors e e') : Results R (.error e) (.error e')

/-- The answers to a request, and to the one with other numbers, that are the same up to numbers. -/
def Answers : (q : Request) → q.Answer → (ν.request q).Answer → Prop
  | .startWorkflow .. => ν.Results fun e e' => e' = ν.execution e
  | .subscribe _ => ν.Results fun sub sub' => sub' = ν.subscription sub
  | .takeAnswer _ => ν.Results Eq
  | .fetchHistory .. => ν.Results Eq
  | .describe .. => ν.Results fun i i' => i' = { i with execution := ν.execution i.execution }
  | .update .. => Eq
  | .addWorker _ => fun id id' => id' = ν.workers id
  | .updateWorker .. => ν.Results Eq
  | .attach .. | .detach _ => Eq
  | .connect _ => Eq
  | .release .. | .closeConnection _ => ν.Results Eq

/-- The same event up to numbers. -/
inductive Events : Event → Event → Prop
  | ask (q : Request) {x : q.Answer} {y : (ν.request q).Answer} (h : ν.Answers q x y) :
      Events ⟨.ask q, x⟩ ⟨.ask (ν.request q), y⟩
  | look (sub : Subscription) (result : Bool) :
      Events ⟨.look sub, result⟩ ⟨.look (ν.subscription sub), result⟩
  | step (id : String) (now : Nat) (signals : Signals) (result : Option Signals) :
      Events ⟨.step id now signals, result⟩ ⟨.step id now signals, result⟩
  | letThrough (latch : SignalId) : Events ⟨.letThrough latch, ()⟩ ⟨.letThrough latch, ()⟩

theorem errors_notFound (e : Execution) : ν.Errors (notFound e) (notFound (ν.execution e)) :=
  .rpc .notFound "workflow execution " " not found" e

theorem close_record (r : ExecutionRecord) (scheduled : Int) (e : Ending) :
    (ν.record r).close scheduled e = ν.record (r.close scheduled e) := by
  cases e <;> rfl

theorem finish_record (r : ExecutionRecord) (c : Completion) :
    (ν.record r).finish c = ν.record (r.finish c) := by
  cases c <;> rfl

theorem answersTo_record (r : ExecutionRecord) (e : Execution) :
    (ν.record r).answersTo (ν.execution e) = r.answersTo e := by
  have hsame : (ν.runId e.runId == ν.runId r.execution.runId) = (e.runId == r.execution.runId) := by
    rw [Bool.eq_iff_iff, beq_iff_eq, beq_iff_eq, runId_inj]
  show ((ν.runId e.runId).isEmpty || ν.runId e.runId == ν.runId r.execution.runId) = _
  rw [isEmpty_runId, hsame]
  rfl

end Renaming

/-! ## Numbers that are given out in order -/

/-- `Numbering takes π own j k actions` says which numbers are given out for the actions that take one,
where `j` is the next number and `k` the next one if my side is alone: the numbers of my side are those in
`own`, and `π` tells what they are when it is alone. -/
inductive Numbering {α : Type} (takes : α → Bool) (π : Equiv.Perm Nat) (own : Nat → Prop) :
    Nat → Nat → List (Side × α) → Prop
  | nil (j k : Nat) : Numbering takes π own j k []
  | mine {j k : Nat} {a : α} {rest : List (Side × α)} (ha : takes a = true) (hπ : π j = k)
      (hown : own j) (hrest : Numbering takes π own (j + 1) (k + 1) rest) :
      Numbering takes π own j k ((.mine, a) :: rest)
  | theirs {j k : Nat} {a : α} {rest : List (Side × α)} (ha : takes a = true) (hown : ¬ own j)
      (hrest : Numbering takes π own (j + 1) k rest) : Numbering takes π own j k ((.theirs, a) :: rest)
  | none {j k : Nat} {side : Side} {a : α} {rest : List (Side × α)} (ha : takes a = false)
      (hrest : Numbering takes π own j k rest) : Numbering takes π own j k ((side, a) :: rest)

section

variable {α : Type} {takes : α → Bool} {π π' : Equiv.Perm Nat} {own own' : Nat → Prop} {j k : Nat}
  {actions : List (Side × α)}

theorem Numbering.of_mine {a : α} (h : Numbering takes π own j k ((.mine, a) :: actions)) :
    (takes a = true → π j = k ∧ own j) ∧
      Numbering takes π own (j + (takes a).toNat) (k + (takes a).toNat) actions := by
  cases h with
  | mine ha hπ hown hrest =>
    rw [ha]
    exact ⟨fun _ => ⟨hπ, hown⟩, hrest⟩
  | none ha hrest =>
    rw [ha]
    exact ⟨fun h => absurd h Bool.false_ne_true, hrest⟩

theorem Numbering.of_theirs {a : α} (h : Numbering takes π own j k ((.theirs, a) :: actions)) :
    (takes a = true → ¬ own j) ∧ Numbering takes π own (j + (takes a).toNat) k actions := by
  cases h with
  | theirs ha hown hrest =>
    rw [ha]
    exact ⟨fun _ => hown, hrest⟩
  | none ha hrest =>
    rw [ha]
    exact ⟨fun h => absurd h Bool.false_ne_true, hrest⟩

/-- Only numbers that are still to come matter. -/
theorem Numbering.congr (h : Numbering takes π own j k actions)
    (hπ : ∀ n, j ≤ n → k ≤ π n → π' n = π n) (hown : ∀ n, j ≤ n → (own' n ↔ own n)) :
    Numbering takes π' own' j k actions := by
  induction h with
  | nil j k => exact .nil j k
  | @mine j k _ _ ha hj hmine _ ih =>
    refine .mine ha ?_ ((hown j (Nat.le_refl j)).mpr hmine) (ih ?_ ?_)
    · rw [hπ j (Nat.le_refl j) (Nat.le_of_eq hj.symm), hj]
    · exact fun n hn hk => hπ n (Nat.le_of_succ_le hn) (Nat.le_of_succ_le hk)
    · exact fun n hn => hown n (Nat.le_of_succ_le hn)
  | @theirs j k _ _ ha htheirs _ ih =>
    refine .theirs ha (mt (hown j (Nat.le_refl j)).mp htheirs) (ih ?_ ?_)
    · exact fun n hn hk => hπ n (Nat.le_of_succ_le hn) hk
    · exact fun n hn => hown n (Nat.le_of_succ_le hn)
  | none ha _ ih => exact .none ha (ih hπ hown)

/-- The numbers that my side is given can be renamed to those that it is given when it is alone. -/
theorem exists_numbering (takes : α → Bool) (j k : Nat) (actions : List (Side × α)) :
    ∃ π own, Numbering takes π own j k actions := by
  induction actions generalizing j k with
  | nil => exact ⟨.refl _, fun _ => True, .nil j k⟩
  | cons x rest ih =>
    obtain ⟨side, a⟩ := x
    cases ha : takes a with
    | false =>
      obtain ⟨π, own, hrest⟩ := ih j k
      exact ⟨π, own, .none ha hrest⟩
    | true =>
      cases side with
      | mine =>
        -- what the first number is renamed to changes places with the number it should be renamed to
        obtain ⟨π, own, hrest⟩ := ih (j + 1) (k + 1)
        refine ⟨π.trans (Equiv.swap (π j) k), fun n => n = j ∨ own n,
          .mine ha (Equiv.swap_apply_left _ _) (.inl rfl) (hrest.congr (fun n hn hk => ?_) ?_)⟩
        · refine Equiv.swap_apply_of_ne_of_ne (fun heq => ?_) (Nat.ne_of_gt hk)
          have := π.injective heq
          omega
        · exact fun n hn => or_iff_right (Nat.ne_of_gt hn)
      | theirs =>
        obtain ⟨π, own, hrest⟩ := ih (j + 1) k
        refine ⟨π, fun n => n ≠ j ∧ own n, .theirs ha (fun h => h.1 rfl) (hrest.congr ?_ ?_)⟩
        · exact fun _ _ _ => rfl
        · exact fun n hn => and_iff_right (Nat.ne_of_gt hn)

end

end Conformance.Server
