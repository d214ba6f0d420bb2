import Mathlib.Data.Nat.Find
import Conformance.Proofs.Replay.Outcomes
import Conformance.Proofs.Replay.Simulation
import Conformance.Worker

/-!
# What a replay detects

A replay compares the calls of the code with the activities of a history, place by place. A call
that differs is answered with a failure; the code may catch it and go on, and its later calls are
compared with the later places. The verdict is nevertheless that of the first difference.

## Main definitions

- `History.Answers` — a call agrees with a history, which answers it
- `History.Diverges` — a call differs from a history, in one of three ways
- `History.Replays` — the calls of code that is run against a history

## Main statements

- `Code.replay_of_leads` — where a replay has come to after these calls
- `History.exists_replays` — every code can be run against every history
- `Worker.replay_detects` — when a replay is accepted, and what it says of the first difference

## Implementation notes

The calls that the code makes are described by `Code.Leads`, which leaves the outcomes open, and a
separate condition says which outcome is given at which place. An induction on `Code.Leads` then
follows the replay without looking at what the code does with a failure.
-/

namespace Conformance

/-! ## Comparing one call -/

/-- How a recorded outcome is given to the code. -/
def presented (activityType : String) : Except String Json → Ending
  | .ok result => .ok result
  | .error message => .error (.activity activityType message)

namespace History

/-- The history has an activity of this type at this place, and an outcome of it, which is the
answer to the call. -/
def Answers (events : List HistoryEvent) (i : Nat) (activityType : String) (answer : Ending) :
    Prop :=
  ∃ e o, (scheduled events)[i]? = some e ∧ scheduledType e = activityType ∧
    HasOutcome events i o ∧ answer = presented activityType o

/-- A call differs from the history: no activity is left, or one of another type is at its place,
or nothing is known about how it ended. -/
inductive Diverges (events : List HistoryEvent) (i : Nat) (activityType : String) : String → Prop
  | extra (h : (scheduled events).length ≤ i) : Diverges events i activityType
      ("workflow scheduled activity " ++ activityType ++ " that is not in history")
  | otherType (e : HistoryEvent) (he : (scheduled events)[i]? = some e)
      (hne : scheduledType e ≠ activityType) : Diverges events i activityType
      ("workflow scheduled activity " ++ activityType ++ " but history has " ++ scheduledType e)
  | noOutcome (e : HistoryEvent) (he : (scheduled events)[i]? = some e)
      (htype : scheduledType e = activityType) (hopen : ∀ o, ¬HasOutcome events i o) :
      Diverges events i activityType ("activity " ++ activityType ++ " has no recorded outcome")

theorem length_activities (h : History) : h.activities.length = (scheduled h.events).length := by
  have := congrArg List.length (gathered_activities h).1
  simpa using this

/-- At every place, the activity that was gathered is the one that the events schedule there. -/
theorem activities_eq_some {h : History} {i : Nat} {e : HistoryEvent}
    (he : (scheduled h.events)[i]? = some e) : ∃ a, h.activities[i]? = some a ∧
      a.activityType = scheduledType e ∧ ∀ o, a.outcome = some o ↔ HasOutcome h.events i o := by
  obtain ⟨htypes, houtcomes⟩ := gathered_activities h
  have hi : i < h.activities.length := by
    rw [length_activities]
    exact (List.getElem?_eq_some_iff.1 he).1
  have hget : h.activities[i]? = some h.activities[i] := List.getElem?_eq_getElem hi
  refine ⟨h.activities[i], hget, ?_, houtcomes i _ hget⟩
  have hplace := congrArg (fun types => types[i]?) htypes
  simpa [hget, he] using hplace

variable {h : History} {i : Nat} {activityType text : String} {answer : Ending}

theorem differenceOf_of_answers (hanswers : Answers h.events i activityType answer) :
    differenceOf activityType h.activities[i]? = .ok answer := by
  obtain ⟨e, o, he, rfl, ho, rfl⟩ := hanswers
  obtain ⟨⟨t, outcome⟩, hget, htype, houtcome⟩ := activities_eq_some he
  have hsome : outcome = some o := (houtcome o).2 ho
  simp only at htype
  subst hsome htype
  rw [hget]
  cases o <;> simp [differenceOf, presented]

theorem differenceOf_of_diverges (hdiverges : Diverges h.events i activityType text) :
    differenceOf activityType h.activities[i]? = .error text := by
  cases hdiverges with
  | extra hlen =>
    rw [← length_activities] at hlen
    rw [List.getElem?_eq_none hlen]
    rfl
  | otherType e he hne =>
    obtain ⟨a, hget, htype, -⟩ := activities_eq_some he
    rw [← htype] at hne ⊢
    rw [hget, differenceOf, if_pos hne]
  | noOutcome e he htype hopen =>
    obtain ⟨⟨t, outcome⟩, hget, htype', houtcome⟩ := activities_eq_some he
    have hnone : outcome = none := by
      cases outcome with
      | none => rfl
      | some o => exact absurd ((houtcome o).1 rfl) (hopen o)
    have hsame : t = activityType := htype'.trans htype
    subst hnone hsame
    simp [hget, differenceOf]

/-- Every call agrees with the history or differs from it. -/
theorem answers_or_diverges (events : List HistoryEvent) (i : Nat) (activityType : String) :
    (∃ answer, Answers events i activityType answer) ∨
      ∃ text, Diverges events i activityType text := by
  cases he : (scheduled events)[i]? with
  | none => exact .inr ⟨_, .extra (List.getElem?_eq_none_iff.1 he)⟩
  | some e =>
    by_cases htype : scheduledType e = activityType
    · by_cases ho : ∃ o, HasOutcome events i o
      · obtain ⟨o, ho⟩ := ho
        exact .inl ⟨_, e, o, he, htype, ho, rfl⟩
      · exact .inr ⟨_, .noOutcome e he htype (not_exists.1 ho)⟩
    · exact .inr ⟨_, .otherType e he htype⟩

theorem differenceOf_eq_ok_iff :
    differenceOf activityType h.activities[i]? = .ok answer ↔
      Answers h.events i activityType answer := by
  constructor
  · intro hok
    obtain ⟨answer', hanswers⟩ | ⟨text, hdiverges⟩ := answers_or_diverges h.events i activityType
    · rw [differenceOf_of_answers hanswers] at hok
      cases hok
      exact hanswers
    · rw [differenceOf_of_diverges hdiverges] at hok
      cases hok
  · exact differenceOf_of_answers

theorem differenceOf_eq_error_iff :
    differenceOf activityType h.activities[i]? = .error text ↔
      Diverges h.events i activityType text := by
  constructor
  · intro herror
    obtain ⟨answer, hanswers⟩ | ⟨text', hdiverges⟩ := answers_or_diverges h.events i activityType
    · rw [differenceOf_of_answers hanswers] at herror
      cases herror
    · rw [differenceOf_of_diverges hdiverges] at herror
      cases herror
      exact hdiverges
  · exact differenceOf_of_diverges

end History

/-! ## Comparing one call after another -/

/-- What a call at a place of the record is answered with. -/
def replyAt (recorded : List RecordedActivity) (i : Nat) (activityType : String) : Ending :=
  match differenceOf activityType recorded[i]? with
  | .ok answer => answer
  | .error text => .error (.nondeterminism text)

/-- The failure that a call at a place of the record makes, if it differs. -/
def differenceAt? (recorded : List RecordedActivity) (i : Nat) (activityType : String) :
    Option WorkflowFailure :=
  match differenceOf activityType recorded[i]? with
  | .ok _ => none
  | .error text => some (.nondeterminism text)

/-- The failure that the first differing call makes, from a place on. -/
def firstDifference? (recorded : List RecordedActivity) (i : Nat) :
    List ActivityCall → Option WorkflowFailure
  | [] => none
  | c :: calls =>
    (differenceAt? recorded i c.activityType).or (firstDifference? recorded (i + 1) calls)

theorem answer_eq (recorded : List RecordedActivity) (s : ReplayState) (activityType : String) :
    s.answer recorded activityType = (replyAt recorded s.consumed activityType,
      ⟨s.consumed + 1, s.mismatch.or (differenceAt? recorded s.consumed activityType)⟩) := by
  unfold ReplayState.answer replyAt differenceAt?
  cases differenceOf activityType recorded[s.consumed]? with
  | ok answer => simp
  | error text => cases hm : s.mismatch <;> simp

/-- What holds of every call at its place, counted from `k` on, holds of the first call at `k` and of
the others from `k + 1` on. -/
theorem forall_place_cons {P : Nat → ActivityCall → Prop} {k : Nat} {c : ActivityCall}
    {calls : List ActivityCall} :
    (∀ i call, (c :: calls)[i]? = some call → P (k + i) call) ↔
      P k c ∧ ∀ i call, calls[i]? = some call → P (k + 1 + i) call := by
  have hplace : ∀ i, k + (i + 1) = k + 1 + i := by omega
  constructor
  · intro h
    refine ⟨h 0 c rfl, fun i call hcall => ?_⟩
    rw [← hplace]
    exact h (i + 1) call (by simpa using hcall)
  · rintro ⟨hfirst, hrest⟩ i call hcall
    cases i with
    | zero =>
      cases hcall
      exact hfirst
    | succ i =>
      rw [hplace]
      exact hrest i call (by simpa using hcall)

/-- A replay of code that makes these calls, and is given what the record says at their places,
goes through them one by one and keeps the first difference. -/
theorem Code.replay_of_leads {c : Code} {calls : List ActivityCall} {ending : Ending}
    (hleads : c.Leads calls (.done ending)) {recorded : List RecordedActivity} {s : ReplayState}
    (hreply : ∀ i call, calls[i]? = some call →
      replyAt recorded (s.consumed + i) call.activityType = call.ending) :
    c.replay recorded s = (ending,
      ⟨s.consumed + calls.length, s.mismatch.or (firstDifference? recorded s.consumed calls)⟩) := by
  generalize hend : Code.done ending = last at hleads
  induction hleads generalizing s with
  | refl _ =>
    subst hend
    simp [Code.replay, firstDifference?]
  | @call a args next e calls _ _ ih =>
    obtain ⟨hfirst, hreply⟩ := (forall_place_cons
      (P := fun i call => replyAt recorded i call.activityType = call.ending)).1 hreply
    have hrest := ih (s := ⟨s.consumed + 1,
        s.mismatch.or (differenceAt? recorded s.consumed a)⟩) hreply hend
    dsimp only at hfirst
    rw [Code.replay, answer_eq, hfirst]
    refine hrest.trans ?_
    simp only [firstDifference?, List.length_cons, Option.or_assoc, Prod.mk.injEq,
      ReplayState.mk.injEq, and_true, true_and]
    omega
  | latch l _ ih => exact ih hreply hend
  | sleep ms _ ih => exact ih hreply hend

/-- Code can be run against every record, from every place on. -/
theorem Code.exists_leads (recorded : List RecordedActivity) (c : Code) (k : Nat) :
    ∃ calls ending, c.Leads calls (.done ending) ∧ ∀ i call, calls[i]? = some call →
      replyAt recorded (k + i) call.activityType = call.ending := by
  induction c generalizing k with
  | done ending => exact ⟨[], ending, .refl _, by simp⟩
  | callActivity a args next ih =>
    let made : ActivityCall := ⟨a, args, replyAt recorded k a⟩
    obtain ⟨calls, ending, hleads, hreply⟩ := ih made.ending (k + 1)
    refine ⟨made :: calls, ending, .call a args next _ hleads, ?_⟩
    exact (forall_place_cons
      (P := fun i call => replyAt recorded i call.activityType = call.ending)).2 ⟨rfl, hreply⟩
  | awaitLatch l next ih =>
    obtain ⟨calls, ending, hleads, hreply⟩ := ih k
    exact ⟨calls, ending, .latch l hleads, hreply⟩
  | sleep ms next ih =>
    obtain ⟨calls, ending, hleads, hreply⟩ := ih k
    exact ⟨calls, ending, .sleep ms hleads, hreply⟩

theorem firstDifference?_eq_none {recorded : List RecordedActivity} {k : Nat}
    {calls : List ActivityCall} : firstDifference? recorded k calls = none ↔
      ∀ i call, calls[i]? = some call →
        differenceAt? recorded (k + i) call.activityType = none := by
  induction calls generalizing k with
  | nil => simp [firstDifference?]
  | cons c calls ih =>
    rw [firstDifference?, Option.or_eq_none_iff, ih]
    exact (forall_place_cons
      (P := fun i call => differenceAt? recorded i call.activityType = none)).symm

theorem firstDifference?_eq_some {recorded : List RecordedActivity} {k i : Nat}
    {calls : List ActivityCall} {call : ActivityCall} {failure : WorkflowFailure}
    (hcall : calls[i]? = some call)
    (hdifference : differenceAt? recorded (k + i) call.activityType = some failure)
    (hbefore : ∀ j < i, ∀ call', calls[j]? = some call' →
      differenceAt? recorded (k + j) call'.activityType = none) :
    firstDifference? recorded k calls = some failure := by
  induction calls generalizing k i with
  | nil => simp at hcall
  | cons c calls ih =>
    cases i with
    | zero =>
      cases hcall
      rw [Nat.add_zero] at hdifference
      simp [firstDifference?, hdifference]
    | succ i =>
      have hc := hbefore 0 (Nat.succ_pos i) c rfl
      rw [Nat.add_zero] at hc
      rw [firstDifference?, hc, Option.none_or]
      apply ih (k := k + 1) (i := i) (by simpa using hcall)
      · rwa [Nat.add_right_comm, Nat.add_assoc]
      · intro j hj call' hcall'
        have := hbefore (j + 1) (by omega) call' (by simpa using hcall')
        rwa [← Nat.add_assoc, Nat.add_right_comm] at this

/-! ## Running code against a history -/

namespace History

/-- The code, run against the history, makes these calls with these outcomes and ends so. A call
that agrees with the history is given the recorded outcome, and one that differs is given the
failure that says so. -/
structure Replays (h : History) (c : Code) (calls : List ActivityCall) (ending : Ending) :
    Prop where
  leads : c.Leads calls (.done ending)
  answered : ∀ i call, calls[i]? = some call →
    Answers h.events i call.activityType call.ending ∨
      ∃ text, Diverges h.events i call.activityType text ∧
        call.ending = .error (.nondeterminism text)

variable {h : History}

theorem replyAt_eq_iff {i : Nat} {activityType : String} {answer : Ending} :
    replyAt h.activities i activityType = answer ↔ Answers h.events i activityType answer ∨
      ∃ text, Diverges h.events i activityType text ∧ answer = .error (.nondeterminism text) := by
  simp only [← differenceOf_eq_ok_iff, ← differenceOf_eq_error_iff, replyAt]
  cases differenceOf activityType h.activities[i]? with
  | ok answer' => simp
  | error text => simp [eq_comm]

theorem differenceAt?_eq_some_iff {i : Nat} {activityType : String} {failure : WorkflowFailure} :
    differenceAt? h.activities i activityType = some failure ↔
      ∃ text, Diverges h.events i activityType text ∧ failure = .nondeterminism text := by
  simp only [← differenceOf_eq_error_iff, differenceAt?]
  cases differenceOf activityType h.activities[i]? with
  | ok answer => simp
  | error text => simp [eq_comm]

/-- Every code can be run against every history. -/
theorem exists_replays (h : History) (c : Code) : ∃ calls ending, h.Replays c calls ending := by
  obtain ⟨calls, ending, hleads, hreply⟩ := c.exists_leads h.activities 0
  refine ⟨calls, ending, hleads, ?_⟩
  intro i call hcall
  have := hreply i call hcall
  rwa [Nat.zero_add, replyAt_eq_iff] at this

variable {f : Workflow} {calls : List ActivityCall} {ending : Ending}

theorem Replays.replay_eq (hrun : h.Replays (f.code true h.input) calls ending) :
    f.replay h =
      h.check ending.isOk ⟨calls.length, firstDifference? h.activities 0 calls⟩ := by
  have hreplay : (f.code true h.input).replay h.activities {} =
      (ending, ⟨calls.length, firstDifference? h.activities 0 calls⟩) := by
    have hreply : ∀ i call, calls[i]? = some call →
        replyAt h.activities (({} : ReplayState).consumed + i) call.activityType =
          call.ending := by
      intro i call hcall
      rw [Nat.zero_add, replyAt_eq_iff]
      exact hrun.answered i call hcall
    simpa using Code.replay_of_leads hrun.leads hreply
  unfold Workflow.replay
  rw [hreplay]
  cases ending <;> rfl

theorem check_eq_ok_iff {succeeded : Bool} {s : ReplayState} :
    h.check succeeded s = .ok () ↔ s.mismatch = none ∧ h.activities.length ≤ s.consumed ∧
      (h.has .workflowExecutionCompleted = true → succeeded = true) ∧
      (h.has .workflowExecutionFailed = true → succeeded = false) := by
  unfold check
  cases s.mismatch with
  | some failure => simp
  | none =>
    by_cases hlen : s.consumed < h.activities.length
    · have hnot : ¬h.activities.length ≤ s.consumed := by omega
      simp [hlen, hnot]
    · simp only [hlen, ite_false, true_and, Nat.not_lt.1 hlen]
      cases h.has .workflowExecutionCompleted <;> cases h.has .workflowExecutionFailed <;>
        cases succeeded <;> simp

/-- The run is accepted if every call agrees with the history, no activity is left over, and the
code ends as the history does. -/
theorem Replays.replay_eq_ok_iff (hrun : h.Replays (f.code true h.input) calls ending) :
    f.replay h = .ok () ↔
      (∀ i call, calls[i]? = some call → Answers h.events i call.activityType call.ending) ∧
      calls.length = (scheduled h.events).length ∧
      (h.has .workflowExecutionCompleted = true → ending.isOk = true) ∧
      (h.has .workflowExecutionFailed = true → ending.isOk = false) := by
  have hagree : firstDifference? h.activities 0 calls = none ↔ ∀ i call, calls[i]? = some call →
      Answers h.events i call.activityType call.ending := by
    rw [firstDifference?_eq_none]
    refine forall_congr' fun i => forall_congr' fun call => imp_congr_right fun hcall => ?_
    rw [Nat.zero_add, Option.eq_none_iff_forall_ne_some]
    constructor
    · intro hsame
      obtain hanswers | ⟨text, hdiverges, -⟩ := hrun.answered i call hcall
      · exact hanswers
      · exact absurd (differenceAt?_eq_some_iff.2 ⟨text, hdiverges, rfl⟩) (hsame _)
    · intro hanswers failure hfailure
      obtain ⟨text, hdiverges, -⟩ := differenceAt?_eq_some_iff.1 hfailure
      have hok := differenceOf_of_answers hanswers
      rw [differenceOf_of_diverges hdiverges] at hok
      cases hok
  -- a call beyond the last activity would differ, so not more calls can have been made
  have hle : (∀ i call, calls[i]? = some call →
      Answers h.events i call.activityType call.ending) →
        calls.length ≤ (scheduled h.events).length := by
    intro hall
    by_contra hlt
    have hcall : calls[(scheduled h.events).length]? =
        some calls[(scheduled h.events).length] := List.getElem?_eq_getElem (by omega)
    obtain ⟨e, o, he, -⟩ := hall _ _ hcall
    have := (List.getElem?_eq_some_iff.1 he).1
    omega
  rw [hrun.replay_eq, check_eq_ok_iff, hagree, length_activities]
  constructor
  · rintro ⟨hall, hge, hended⟩
    exact ⟨hall, Nat.le_antisymm (hle hall) hge, hended⟩
  · rintro ⟨hall, heq, hended⟩
    exact ⟨hall, Nat.le_of_eq heq.symm, hended⟩

/-- If a call differs from the history, the verdict is that of the first one that does. -/
theorem Replays.replay_eq_error (hrun : h.Replays (f.code true h.input) calls ending)
    {i : Nat} {call : ActivityCall} {text : String} (hcall : calls[i]? = some call)
    (hdiverges : Diverges h.events i call.activityType text)
    (hbefore : ∀ j < i, ∀ call' text', calls[j]? = some call' →
      ¬Diverges h.events j call'.activityType text') :
    f.replay h = .error (.nondeterminism text) := by
  have hfirst : firstDifference? h.activities 0 calls = some (.nondeterminism text) := by
    apply firstDifference?_eq_some hcall
    · rw [Nat.zero_add]
      exact differenceAt?_eq_some_iff.2 ⟨text, hdiverges, rfl⟩
    · intro j hj call' hcall'
      rw [Nat.zero_add, Option.eq_none_iff_forall_ne_some]
      intro failure hfailure
      obtain ⟨text', hdiverges', -⟩ := differenceAt?_eq_some_iff.1 hfailure
      exact hbefore j hj call' text' hcall' hdiverges'
  rw [hrun.replay_eq, check, hfirst]

theorem has_eq_true_iff {type : EventType} :
    h.has type = true ↔ ∃ e ∈ h.events, e.eventType = type := by
  simp [has, find?]

theorem workflowType?_eq_some_iff {name : String} : h.workflowType? = some name ↔
    ∃ started, h.find? .workflowExecutionStarted = some started ∧
      started.attributes.get? "workflowType" = some (.str name) := by
  have hstr : ∀ v : Json, v.str? = some name ↔ v = .str name := by
    intro v
    cases v <;> simp [Json.str?]
  simp [workflowType?, HistoryEvent.text?, Option.bind_eq_some_iff, hstr]

end History

/-! ## The verdict of a worker -/

open History

theorem Worker.replay_eq_ok_iff {w : Worker} {h : History} : w.replay h = .ok () ↔
    ∃ name f, h.workflowType? = some name ∧ w.workflow? name = some f ∧ f.replay h = .ok () := by
  unfold Worker.replay
  cases hname : h.workflowType? with
  | none => simp
  | some name =>
    cases hf : w.workflow? name with
    | none => simp [hf]
    | some f => cases hreplay : f.replay h <;> simp [hf, hreplay]

/-- A worker accepts a history exactly if the history names a workflow that is registered, and the
code of it, given the recorded outcomes, makes the calls of the history, one for each activity and
of its type, and ends as the history did. If a call differs from the history, then the error is
that of the first one that does, whatever the code makes of it and however it ends. -/
theorem Worker.replay_detects (w : Worker) (h : History) :
    (w.replay h = .ok () ↔ ∃ started name f calls ending,
      h.find? .workflowExecutionStarted = some started ∧
      started.attributes.get? "workflowType" = some (.str name) ∧
      w.workflow? name = some f ∧
      (f.code true h.input).Leads calls (.done ending) ∧
      (∀ i call, calls[i]? = some call →
        Answers h.events i call.activityType call.ending) ∧
      calls.length = (scheduled h.events).length ∧
      ((∃ e ∈ h.events, e.eventType = .workflowExecutionCompleted) → ending.isOk = true) ∧
      ((∃ e ∈ h.events, e.eventType = .workflowExecutionFailed) → ending.isOk = false)) ∧
    ∀ name f, h.workflowType? = some name → w.workflow? name = some f →
      (∃ calls ending, h.Replays (f.code true h.input) calls ending) ∧
      ∀ calls ending, h.Replays (f.code true h.input) calls ending →
        (∃ i call text, calls[i]? = some call ∧ Diverges h.events i call.activityType text) →
        ∃ i call text, calls[i]? = some call ∧ Diverges h.events i call.activityType text ∧
          (∀ j < i, ∀ call' text', calls[j]? = some call' →
            ¬Diverges h.events j call'.activityType text') ∧
          w.replay h = .error (.workflow (WorkflowFailure.nondeterminism text).text) := by
  constructor
  · rw [Worker.replay_eq_ok_iff]
    constructor
    · rintro ⟨name, f, hname, hf, hreplay⟩
      obtain ⟨started, hstarted, htype⟩ := workflowType?_eq_some_iff.1 hname
      obtain ⟨calls, ending, hrun⟩ := exists_replays h (f.code true h.input)
      obtain ⟨hall, hlen, hcompleted, hfailed⟩ := hrun.replay_eq_ok_iff.1 hreplay
      exact ⟨started, name, f, calls, ending, hstarted, htype, hf, hrun.leads, hall, hlen,
        fun he => hcompleted (has_eq_true_iff.2 he), fun he => hfailed (has_eq_true_iff.2 he)⟩
    · rintro ⟨started, name, f, calls, ending, hstarted, htype, hf, hleads, hall, hlen,
        hcompleted, hfailed⟩
      have hrun : h.Replays (f.code true h.input) calls ending :=
        ⟨hleads, fun i call hcall => .inl (hall i call hcall)⟩
      refine ⟨name, f, workflowType?_eq_some_iff.2 ⟨started, hstarted, htype⟩, hf, ?_⟩
      exact hrun.replay_eq_ok_iff.2 ⟨hall, hlen, fun he => hcompleted (has_eq_true_iff.1 he),
        fun he => hfailed (has_eq_true_iff.1 he)⟩
  · intro name f hname hf
    refine ⟨exists_replays h _, ?_⟩
    intro calls ending hrun hsome
    -- the least place at which a call differs
    classical
    obtain ⟨call, text, hcall, hdiverges⟩ := Nat.find_spec hsome
    have hbefore : ∀ j < Nat.find hsome, ∀ call' text', calls[j]? = some call' →
        ¬Diverges h.events j call'.activityType text' := by
      intro j hj call' text' hcall' hdiverges'
      exact Nat.find_min hsome hj ⟨call', text', hcall', hdiverges'⟩
    refine ⟨Nat.find hsome, call, text, hcall, hdiverges, hbefore, ?_⟩
    have hreplay := hrun.replay_eq_error hcall hdiverges hbefore
    simp [Worker.replay, hname, hf, hreplay]

/-- Code that catches the failure of a differing call and ends well is refused all the same. -/
example : Worker.replay
    { taskQueue := "queue"
      workflows := [⟨{ name := "Greet" },
        fun _ _ => .callActivity "wave" [] fun _ => .done (.ok .null)⟩] }
    ⟨[⟨1, .workflowExecutionStarted, Json.ofFields [("workflowType", .str "Greet")]⟩,
      ⟨2, .activityTaskScheduled, Json.ofFields [("activityType", .str "bow")]⟩,
      ⟨3, .workflowExecutionCompleted, Json.ofFields [("result", .null)]⟩]⟩ =
    .error (.workflow
      "nondeterminism: workflow scheduled activity wave but history has bow") := by
  rfl

end Conformance
