import Conformance.Proofs.Server.Turns

/-!
# The story of a run

The record of a run is the record of its start, extended by the calls that its code has made so
far, and by its end. The phase of the task says where in the code the run is.

## Main definitions

- `ActivityCall` — a call of an activity with its outcome
- `Code.Leads` — the calls that lead from one place in the code to another
- `ExecutionRecord.afterCalls` — what calls add to a record
- `Follows` — a record follows the code that its task runs
- `Story` — everything that the record of a run can be

## Main statements

- `Follows.move` — every move of a task follows its code
- `Server.story_of_run` — after every run of a server, each record has a story
-/

namespace Conformance

/-! ## Calls -/

/-- A call of an activity with its outcome. -/
structure ActivityCall where
  activityType : String
  args : List Json
  ending : Ending

/-- `c.Leads calls c'` says that the code `c`, given the outcomes of the calls, makes exactly these
calls and then goes on as `c'`. -/
inductive Code.Leads : Code → List ActivityCall → Code → Prop
  | refl (c : Code) : Leads c [] c
  | call (a : String) (args : List Json) (next : Ending → Code) (e : Ending)
      {calls : List ActivityCall} {c' : Code} (h : Leads (next e) calls c') :
      Leads (.callActivity a args next) (⟨a, args, e⟩ :: calls) c'
  | latch (l : SignalId) {next : Code} {calls : List ActivityCall} {c' : Code}
      (h : Leads next calls c') : Leads (.awaitLatch l next) calls c'
  | sleep (ms : Nat) {next : Code} {calls : List ActivityCall} {c' : Code}
      (h : Leads next calls c') : Leads (.sleep ms next) calls c'

/-- The code goes on where it has got to. -/
theorem Code.Leads.trans {c c' c'' : Code} {calls calls' : List ActivityCall}
    (h : c.Leads calls c') (h' : c'.Leads calls' c'') : c.Leads (calls ++ calls') c'' := by
  induction h with
  | refl _ => exact h'
  | call a args next e _ ih => exact .call a args next e (ih h')
  | latch l _ ih => exact .latch l (ih h')
  | sleep ms _ ih => exact .sleep ms (ih h')

/-- A call with its outcome is the next one. -/
theorem Code.Leads.snoc {c : Code} {calls : List ActivityCall} {a : String} {args : List Json}
    {next : Ending → Code} (h : c.Leads calls (.callActivity a args next)) (e : Ending) :
    c.Leads (calls ++ [⟨a, args, e⟩]) (next e) :=
  h.trans (.call a args next e (.refl _))

/-- Waiting makes no call. -/
theorem Code.Leads.silent {c c₁ c₂ : Code} {calls : List ActivityCall} (h : c.Leads calls c₁)
    (hsilent : c₁.Leads [] c₂) : c.Leads calls c₂ := by
  have htrans := h.trans hsilent
  rwa [List.append_nil] at htrans

/-! ## Records -/

namespace ExecutionRecord

/-- The record after a call has been scheduled and closed. -/
def afterCall (r : ExecutionRecord) (c : ActivityCall) : ExecutionRecord :=
  (r.schedule c.activityType c.args).close r.nextId c.ending

/-- The record after calls that have been made one after another. -/
def afterCalls (r : ExecutionRecord) (calls : List ActivityCall) : ExecutionRecord :=
  calls.foldl afterCall r

theorem afterCalls_snoc (r : ExecutionRecord) (calls : List ActivityCall) (c : ActivityCall) :
    r.afterCalls (calls ++ [c]) = (r.afterCalls calls).afterCall c := by
  rw [afterCalls, List.foldl_append]
  rfl

theorem status_afterCall (r : ExecutionRecord) (c : ActivityCall) :
    (r.afterCall c).status = r.status :=
  Server.status_close (r.schedule c.activityType c.args) r.nextId c.ending

theorem status_afterCalls (r : ExecutionRecord) (calls : List ActivityCall) :
    (r.afterCalls calls).status = r.status := by
  induction calls generalizing r with
  | nil => rfl
  | cons c calls ih => exact (ih (r.afterCall c)).trans (status_afterCall r c)

theorem sameRun_afterCalls (r : ExecutionRecord) (calls : List ActivityCall) :
    Server.SameRun r (r.afterCalls calls) := by
  induction calls generalizing r with
  | nil => exact .refl r
  | cons c calls ih =>
    have hcall : Server.SameRun r (r.afterCall c) :=
      (Server.sameRun_schedule ..).trans (Server.sameRun_close ..)
    exact hcall.trans (ih (r.afterCall c))

end ExecutionRecord

/-! ## Following the code -/

open Server

/-- `Follows c r₀ p r` says that the record `r` and the phase `p` of the task are what the code `c`
makes of the record `r₀`. -/
inductive Follows (c : Code) (r₀ : ExecutionRecord) :
    Option TaskPhase → ExecutionRecord → Prop
  | running (calls : List ActivityCall) (c' : Code) (h : c.Leads calls c') :
      Follows c r₀ (some (.running c')) (r₀.afterCalls calls)
  | inActivity (calls : List ActivityCall) (a : String) (args : List Json)
      (next : Ending → Code) (act : ActivityCode) (id : Int)
      (hid : id = (r₀.afterCalls calls).nextId)
      (h : c.Leads calls (.callActivity a args next)) :
      Follows c r₀ (some (.inActivity id act next)) ((r₀.afterCalls calls).schedule a args)
  | finished (calls : List ActivityCall) (e : Ending) (h : c.Leads calls (.done e)) :
      Follows c r₀ none ((r₀.afterCalls calls).finish (Completion.ofEnding e))

/-- The outcome of an activity is that of the call that its code has made. -/
theorem Follows.answered {c : Code} {r₀ : ExecutionRecord} {calls : List ActivityCall}
    {a : String} {args : List Json} {next : Ending → Code}
    (h : c.Leads calls (.callActivity a args next)) (e : Ending) :
    Follows c r₀ (some (.running (next e)))
      (((r₀.afterCalls calls).schedule a args).close (r₀.afterCalls calls).nextId e) := by
  have hfollows : Follows c r₀ (some (.running (next e)))
      (r₀.afterCalls (calls ++ [⟨a, args, e⟩])) := .running _ _ (h.snoc e)
  rwa [ExecutionRecord.afterCalls_snoc] at hfollows

/-- Every move of a task follows the code of the task. -/
theorem Follows.move {c : Code} {r₀ r r' : ExecutionRecord} {s : Server} {t : WorkflowTask}
    {p : Option TaskPhase} (h : Follows c r₀ (some t.phase) r) (hmove : Move s t r p r') :
    Follows c r₀ p r' := by
  cases hmove with
  | begin _ hp _ =>
    rw [hp] at h
    cases h
  | unregistered _ hp _ =>
    rw [hp] at h
    cases h
  | finish e hp =>
    rw [hp] at h
    cases h with
    | running calls _ hleads => exact .finished calls e hleads
  | schedule a args next act hp =>
    rw [hp] at h
    cases h with
    | running calls _ hleads => exact .inActivity calls a args next act _ rfl hleads
  | refuse a args next e hp =>
    rw [hp] at h
    cases h with
    | running calls _ hleads => exact .answered hleads e
  | close id e next hp =>
    rw [hp] at h
    cases h with
    | inActivity calls a args _ _ _ hid hleads =>
      rw [hid]
      exact .answered hleads e
  | still p hp =>
    -- code that has waited has made the same calls
    generalize t.phase = q at h hp
    cases hp with
    | refl _ => exact h
    | latch l next =>
      cases h with
      | running calls _ hleads => exact .running calls _ (hleads.silent (.latch l (.refl _)))
    | sleep ms next =>
      cases h with
      | running calls _ hleads => exact .running calls _ (hleads.silent (.sleep ms (.refl _)))
    | activity id act act' next =>
      cases h with
      | inActivity calls a args _ _ _ hid hleads =>
        exact .inActivity calls a args next act' id hid hleads

/-- A record without a task has ended, as its code has. -/
theorem Follows.status {c : Code} {r₀ r : ExecutionRecord} {p : Option TaskPhase}
    (h : Follows c r₀ p r) (h₀ : r₀.status = .running) :
    r.status = .running ∧ p.isSome ∨ r.status ≠ .running ∧ p = none := by
  cases h with
  | running calls _ _ =>
    exact Or.inl ⟨(ExecutionRecord.status_afterCalls r₀ calls).trans h₀, rfl⟩
  | inActivity calls _ _ _ _ _ _ _ =>
    exact Or.inl ⟨(ExecutionRecord.status_afterCalls r₀ calls).trans h₀, rfl⟩
  | finished _ _ _ => exact Or.inr ⟨status_finish _ _, rfl⟩

theorem Follows.sameRun {c : Code} {r₀ r : ExecutionRecord} {p : Option TaskPhase}
    (h : Follows c r₀ p r) : SameRun r₀ r := by
  cases h with
  | running calls _ _ => exact ExecutionRecord.sameRun_afterCalls r₀ calls
  | inActivity calls _ _ _ _ _ _ _ =>
    exact (ExecutionRecord.sameRun_afterCalls r₀ calls).trans (sameRun_schedule ..)
  | finished calls _ _ =>
    exact (ExecutionRecord.sameRun_afterCalls r₀ calls).trans (sameRun_finish _ _)

/-! ## Stories -/

/-- Everything that the record of a run can be: its start, alone or with a task that has not begun;
what its code makes of it; or the failure of a run whose workflow is not registered. -/
inductive Story (r₀ : ExecutionRecord) : Option TaskPhase → ExecutionRecord → Prop
  | waiting : Story r₀ none r₀
  | fresh : Story r₀ (some .fresh) r₀
  | unregistered (failure : String) : Story r₀ none (r₀.finish (.error failure))
  | follows (c : Code) {p : Option TaskPhase} {r : ExecutionRecord} (h : Follows c r₀ p r) :
      Story r₀ p r

theorem Story.sameRun {r₀ r : ExecutionRecord} {p : Option TaskPhase} (h : Story r₀ p r) :
    SameRun r₀ r := by
  cases h with
  | waiting => exact .refl _
  | fresh => exact .refl _
  | unregistered _ => exact sameRun_finish _ _
  | follows _ h => exact h.sameRun

/-- Every move continues the story. -/
theorem Story.move {r₀ r r' : ExecutionRecord} {s : Server} {t : WorkflowTask}
    {p : Option TaskPhase} (h : Story r₀ (some t.phase) r) (hmove : Move s t r p r') :
    Story r₀ p r' := by
  generalize hq : some t.phase = q at h
  cases h with
  | waiting => cases hq
  | unregistered _ => cases hq
  | follows c h =>
    subst hq
    exact .follows c (h.move hmove)
  | fresh =>
    have hphase := Option.some.inj hq
    cases hmove with
    | begin f _ _ => exact .follows _ (.running [] _ (.refl _))
    | unregistered failure _ _ => exact .unregistered failure
    | finish _ hp | schedule _ _ _ _ hp | refuse _ _ _ _ hp | close _ _ _ hp =>
      rw [hphase] at hp
      cases hp
    | still p hp =>
      rw [hphase] at hp
      cases hp
      exact .fresh

/-- A run that is handed over has not begun. -/
theorem Story.handed {r₀ r : ExecutionRecord} (h : Story r₀ none r) (h₀ : r₀.status = .running)
    (hrunning : r.status = .running) : Story r₀ (some .fresh) r := by
  cases h with
  | waiting => exact .fresh
  | unregistered _ => exact absurd hrunning (status_finish _ _)
  | follows _ h =>
    rcases h.status h₀ with ⟨-, hsome⟩ | ⟨hended, -⟩
    · cases hsome
    · exact absurd hrunning hended

namespace Server

/-- The records with which runs are started according to a log. -/
inductive Opening (log : List Exchange) : ExecutionRecord → Prop
  | mk (target : String) (ns : Option String) (workflowType : String) (options : WorkflowOptions)
      (args : List Json) (e : Execution)
      (h : ⟨.startWorkflow target ns workflowType options args, .ok e⟩ ∈ log) :
      Opening log (newRecord e workflowType options args)

theorem Opening.status {log : List Exchange} {r₀ : ExecutionRecord} (h : Opening log r₀) :
    r₀.status = .running := by
  cases h with
  | mk _ _ _ _ _ _ _ => rfl

theorem Opening.append {log : List Exchange} {r₀ : ExecutionRecord} (h : Opening log r₀)
    (log' : List Exchange) : Opening (log ++ log') r₀ := by
  cases h with
  | mk target ns workflowType options args e h =>
    exact .mk target ns workflowType options args e (List.mem_append_left _ h)

/-- Every turn continues the story of a run or begins one. -/
theorem Turn.story {log : List Exchange} {s : Server} {x : Option Exchange} {id : String}
    {p : Option TaskPhase} {r : ExecutionRecord} (h : Turn s x id p r)
    (hstory : ∀ p r, Seen s id p r → ∃ r₀, Opening log r₀ ∧ Story r₀ p r) :
    ∃ r₀, Opening (log ++ x.toList) r₀ ∧ Story r₀ p r := by
  cases h with
  | same hseen =>
    obtain ⟨r₀, hopening, hstory⟩ := hstory _ _ hseen
    exact ⟨r₀, hopening.append _, hstory⟩
  | handed hseen hrunning =>
    obtain ⟨r₀, hopening, hstory⟩ := hstory _ _ hseen
    exact ⟨r₀, hopening.append _, hstory.handed hopening.status hrunning⟩
  | started target ns workflowType options args hx hid hp =>
    refine ⟨_, .mk target ns workflowType options args (s.nextRun options) ?_, ?_⟩
    · rw [hx]
      exact List.mem_append_right _ List.mem_cons_self
    · rcases hp with rfl | rfl
      · exact .waiting
      · exact .fresh
  | moved hseen hmove =>
    obtain ⟨r₀, hopening, hstory⟩ := hstory _ _ hseen
    exact ⟨r₀, hopening.append _, hstory.move hmove⟩

/-- After every run of a server, each record has a story that begins with a start in the log. -/
theorem story_of_run {s₀ s : Server} {log : List Exchange} (h₀ : Fresh s₀) (h : Run s₀ log s) :
    ∀ id p r, Seen s id p r → ∃ r₀, Opening log r₀ ∧ Story r₀ p r := by
  refine Run.seen_induction h₀ .start h
    (P := fun log _ p r => ∃ r₀, Opening log r₀ ∧ Story r₀ p r) ?_ ?_
  · intro id p r hseen
    obtain ⟨updateSupport, refused, failingShutdown, rfl⟩ := h₀
    cases hseen.1
  · intro log s x _ ih id p r hturn
    exact hturn.story (ih id)

end Server

end Conformance
