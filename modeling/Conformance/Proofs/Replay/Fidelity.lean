import Conformance.Proofs.Replay.Detection
import Conformance.Proofs.Server.Transcripts

/-!
# What a replay tells the code again

While a workflow runs, its code is told the outcomes of its activities, and the history of the run
keeps them. A replay of this history tells the code the same payloads. Of a failure the history
keeps only the text under which it is reported; the replay takes this text for the message of a
new failure, which is never the failure that the code was told before.

## Main statements

- `ActivityCall.replayed_eq_ending_iff` — payloads survive, and failures do not
- `Server.replayed_outcomes` — what a replay answers to each call of a run
- `Server.replay_of_caught_failure` — code that looks into a failure does not replay
-/

namespace Conformance

/-! ## One call -/

theorem append_ne_self {mid : String} (hmid : mid ≠ "") (a b m : String) :
    a ++ b ++ mid ++ m ≠ m := by
  intro heq
  have hlength := congrArg String.length heq
  have hpos : mid.length ≠ 0 := by rwa [Ne, String.length_eq_zero_iff]
  simp only [String.length_append] at hlength
  omega

/-- A failure whose message is the text of another one is not this other one: its message is
longer. -/
theorem WorkflowFailure.activity_text_ne (activityType : String) (f : WorkflowFailure) :
    .activity activityType f.text ≠ f := by
  intro heq
  cases f with
  | activity t m =>
    have hmessage : "activity " ++ t ++ " failed: " ++ m = m :=
      (WorkflowFailure.activity.inj heq).2
    exact append_ne_self (by decide) _ _ _ hmessage
  | application m => exact WorkflowFailure.noConfusion heq
  | nondeterminism m => exact WorkflowFailure.noConfusion heq

/-- A payload is told again as it was, and a failure never. -/
theorem ActivityCall.replayed_eq_ending_iff (c : ActivityCall) :
    c.replayed = c.ending ↔ ∃ v, c.ending = .ok v := by
  unfold ActivityCall.replayed
  cases c.ending with
  | ok v => simp
  | error f =>
    have hne := WorkflowFailure.activity_text_ne c.activityType f
    simp [hne]

/-- A call at the place of a recorded call of its type is answered as this one is replayed. -/
theorem replyAt_recorded {calls : List ActivityCall} {i : Nat} {call : ActivityCall}
    (hcall : calls[i]? = some call) (rest : List RecordedActivity) :
    replyAt (calls.map ActivityCall.recorded ++ rest) i call.activityType = call.replayed := by
  have hi : i < calls.length := (List.getElem?_eq_some_iff.1 hcall).1
  have hget : (calls.map ActivityCall.recorded ++ rest)[i]? = some call.recorded := by
    rw [List.getElem?_append_left (by simpa using hi), List.getElem?_map, hcall]
    rfl
  obtain ⟨a, args, e⟩ := call
  unfold replyAt
  rw [hget]
  cases e <;> simp [differenceOf, ActivityCall.recorded, ActivityCall.replayed,
    Completion.ofEnding]

namespace Server

/-! ## Every call of a run -/

/-- Suppose the code of a workflow begins to run at a server, and whatever else happens there, it
is told the outcomes of the transcript. Then the history that the server gives out for the run
answers the calls of a replay, place by place and as long as their types are the same, with the
payloads that the code was told, and with other failures than the code was told: with those that
have the whole text of the recorded failure for their message. -/
theorem replayed_outcomes {s₀ s s₁ s' : Server} {log log' : List Exchange} (h₀ : Fresh s₀)
    (h : Run s₀ log s) {r : ExecutionRecord} {f : Workflow} (hbegins : Begins s s₁ r f)
    {x : Transcript} (hheard : Heard s₁ r.execution.workflowId log' s' x)
    {target ns : String} {e : Execution} {info : ExecutionInfo}
    (hinfo : (s'.describe target ns e).1 = .ok info) (hsame : info.execution = r.execution) :
    (∃ c, (f.code false r.input).Leads x.calls c) ∧
    ∃ history, (s'.fetchHistory target ns e).1 = .ok history ∧
      ∀ i call, x.calls[i]? = some call → ∀ state : ReplayState, state.consumed = i →
        (state.answer history.activities call.activityType).1 = call.replayed ∧
        ((state.answer history.activities call.activityType).1 = call.ending ↔
          ∃ v, call.ending = .ok v) := by
  have hdescribe : (s'.addressed e).map (·.info) = .ok info := hinfo
  have hfetch : (s'.fetchHistory target ns e).1 = (s'.addressed e).map (·.history) := rfl
  cases haddressed : s'.addressed e with
  | error _ =>
    rw [haddressed] at hdescribe
    cases hdescribe
  | ok r' =>
    rw [haddressed] at hdescribe hfetch
    cases hdescribe
    have hr' := get?_of_addressed haddressed
    obtain ⟨now, i, signals, signals', t, hstep, -⟩ := id hbegins
    have hrun : Run s₀ (log ++ log') s' := (h.task hstep).trans hheard.run
    have hname : r.execution.workflowId = e.workflowId := by
      rw [← hsame]
      exact (numbered_of_run h₀ hrun).named e.workflowId r' hr'
    obtain ⟨p, -, hkeeps⟩ := keeps_of_begins h₀ h hbegins hheard r' (hname ▸ hr') hsame
    -- at its start the record of the run holds no activity
    obtain ⟨id, hseen, -⟩ := hbegins.seen
    have hnone : r.gathered.activities = [] := by
      cases opening_of_fresh h₀ h hseen with
      | mk _ _ _ _ _ _ _ => rfl
    obtain ⟨rest, hactivities⟩ := hkeeps.activities hnone
    refine ⟨hkeeps.leads, r'.history, hfetch, ?_⟩
    rintro i call hcall state rfl
    have hanswer : (state.answer r'.history.activities call.activityType).1 = call.replayed := by
      rw [answer_eq, hactivities]
      exact replyAt_recorded hcall rest
    rw [hanswer]
    exact ⟨rfl, call.replayed_eq_ending_iff⟩

/-! ## A failure that is looked into -/

/-- An activity that always fails with the same message. -/
def unansweredGreeting : Activities :=
  ⟨["Greet"], fun _ _ _ => .done (.error (.activity "Greet" "no answer"))⟩

/-- A workflow that looks into the failure of its activity. It is content with the message that it
knows, and calls another activity otherwise. -/
def patientFlow : Workflow :=
  ⟨{ name := "Flow" }, fun _ _ => .callActivity "Greet" [] fun
    | .error (.activity _ message) =>
      if message = "no answer" then .done (.ok .null) else .callActivity "Help" [] .done
    | e => .done e⟩

/-- The worker with the workflow and the activity. -/
def patientWorker : Worker :=
  { taskQueue := "queue", workflows := [patientFlow], activities := some unansweredGreeting }

/-- How the workflow is started. -/
def patientStart : Request :=
  .startWorkflow "direct" none "Flow" { workflowId := some "greeting", taskQueue := "queue" } []

/-- A server on which the workflow has been started. -/
def patientServer : Server :=
  [.addWorker "queue", .updateWorker 0 fun _ => .ok patientWorker, .attach "direct" 0,
    patientStart].foldl (fun s q => (s.serve q).2) {}

/-- The server after some steps of the workflow. -/
def patientAfter : Nat → Server
  | 0 => patientServer
  | n + 1 =>
    match (patientAfter n).step? 0 {} 0 with
    | some (s, _) => s
    | none => patientAfter n

/-- The record with which the workflow is started. -/
def patientRecord : ExecutionRecord :=
  newRecord ⟨"greeting", runIdOf 1⟩ "Flow"
    { workflowId := some "greeting", taskQueue := "queue" } []

theorem exists_run_patientServer : ∃ log, Run {} log patientServer :=
  ⟨_, (((Run.start.serve (.addWorker "queue")).serve
    (.updateWorker 0 fun _ => .ok patientWorker)).serve (.attach "direct" 0)).serve patientStart⟩

theorem begins_patientFlow : Begins patientServer (patientAfter 1) patientRecord patientFlow :=
  ⟨0, 0, {}, {}, { workflowId := "greeting", worker := 0 }, rfl, rfl, rfl, rfl, rfl⟩

/-- The code is told once that nobody answers. -/
theorem exists_heard_patientFlow : ∃ x, Heard (patientAfter 1) "greeting" [] (patientAfter 4) x ∧
    x.calls = [⟨"Greet", [], .error (.activity "Greet" "no answer")⟩] := by
  have hscheduled : (patientAfter 1).step? 0 {} 0 = some (patientAfter 2, {}) := rfl
  have hclosed : (patientAfter 2).step? 0 {} 0 = some (patientAfter 3, {}) := rfl
  have hfinished : (patientAfter 3).step? 0 {} 0 = some (patientAfter 4, {}) := rfl
  exact ⟨_, ((Heard.start.task rfl hscheduled).task rfl hclosed).task rfl hfinished, rfl⟩

/-- The call of this workflow is answered with another failure when it is replayed. -/
theorem replayed_outcomes_of_patientFlow :
    ∃ history, ((patientAfter 4).fetchHistory "direct" "default" ⟨"greeting", ""⟩).1 =
        .ok history ∧
      (ReplayState.answer history.activities {} "Greet").1 =
        .error (.activity "Greet" "activity Greet failed: no answer") := by
  obtain ⟨log, hrun⟩ := exists_run_patientServer
  obtain ⟨x, hheard, hcalls⟩ := exists_heard_patientFlow
  have hfresh : Fresh {} := ⟨.enabled, [], [], rfl⟩
  obtain ⟨info, hinfo, hsame⟩ : ∃ info,
      ((patientAfter 4).describe "direct" "default" ⟨"greeting", ""⟩).1 = .ok info ∧
        info.execution = patientRecord.execution := ⟨_, rfl, rfl⟩
  obtain ⟨-, history, hfetch, houtcomes⟩ :=
    replayed_outcomes hfresh hrun begins_patientFlow hheard hinfo hsame
  have hcall : x.calls[0]? =
      some ⟨"Greet", [], .error (.activity "Greet" "no answer")⟩ := by
    rw [hcalls]
    rfl
  obtain ⟨hanswer, -⟩ := houtcomes 0 _ hcall {} rfl
  exact ⟨history, hfetch, hanswer⟩

/-- The code of the workflow is told that nobody answers, and is content. The replay of its own
history tells it another failure, so it goes another way, and the worker that has just run it
rejects the history. -/
theorem replay_of_caught_failure :
    (∃ log, Run {} log patientServer) ∧
    Begins patientServer (patientAfter 1) patientRecord patientFlow ∧
    ∃ x history call, Heard (patientAfter 1) "greeting" [] (patientAfter 4) x ∧
      ((patientAfter 4).fetchHistory "direct" "default" ⟨"greeting", ""⟩).1 = .ok history ∧
      x.calls[0]? = some call ∧
      (ReplayState.answer history.activities {} call.activityType).1 ≠ call.ending ∧
      patientWorker.replay history = .error (.workflow
        "nondeterminism: workflow scheduled activity Help that is not in history") := by
  obtain ⟨x, hheard, hcalls⟩ := exists_heard_patientFlow
  let call : ActivityCall := ⟨"Greet", [], .error (.activity "Greet" "no answer")⟩
  let last : ExecutionRecord := (patientRecord.afterCalls [call]).finish (.ok .null)
  have hactivities : last.history.activities = [call.recorded] :=
    activities_of_calls ⟨"greeting", runIdOf 1⟩ "Flow" _ [] [call] (.ok .null)
  refine ⟨exists_run_patientServer, begins_patientFlow, x, last.history, call, hheard, rfl,
    ?_, ?_, ?_⟩
  · rw [hcalls]
    rfl
  · have hfailed : ¬∃ v, call.ending = .ok v := by simp [call]
    rw [hactivities]
    exact fun h => hfailed (call.replayed_eq_ending_iff.1 h)
  · decide +kernel

end Server

end Conformance
