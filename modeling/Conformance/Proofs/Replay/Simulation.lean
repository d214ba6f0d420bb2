import Conformance.History.Replay
import Conformance.Proofs.Server.Story

/-!
# Replayed code

Code that is replayed gets back the results that were recorded, but of failures only their texts,
wrapped anew. Code that does not look into failures goes the same way nevertheless.

## Main definitions

- `Code.Alike` — codes that go the same way, whatever the failures they are given
- `Workflow.Deterministic` — workflows whose live code and replayed code go the same way
- `ActivityCall.recorded` — how a history keeps a call

## Main statements

- `Code.Alike.replay` — replayed code makes the recorded calls, and no others

## Design notes

Codes are compared as relations are compared over function types: outcomes that are related have
to lead to codes that are related, and all failures are related. Code that is related to itself
may still pass a failure on; it may not let it decide what is done next.
-/

namespace Conformance

/-! ## Codes that go the same way -/

/-- The codes call the same activities and end with the same success. Given the same results, or
any failures at all, they stay alike. Waiting makes no difference. -/
inductive Code.Alike : Code → Code → Prop
  | done (e e' : Ending) (h : e.isOk = e'.isOk) : Alike (.done e) (.done e')
  | call (a : String) (args args' : List Json) {next next' : Ending → Code}
      (hok : ∀ v, Alike (next (.ok v)) (next' (.ok v)))
      (herror : ∀ f g, Alike (next (.error f)) (next' (.error g))) :
      Alike (.callActivity a args next) (.callActivity a args' next')
  | latchLeft (l : SignalId) {c d : Code} (h : Alike c d) : Alike (.awaitLatch l c) d
  | latchRight (l : SignalId) {c d : Code} (h : Alike c d) : Alike c (.awaitLatch l d)
  | sleepLeft (ms : Nat) {c d : Code} (h : Alike c d) : Alike (.sleep ms c) d
  | sleepRight (ms : Nat) {c d : Code} (h : Alike c d) : Alike c (.sleep ms d)

/-- A workflow is a deterministic function of its arguments and of the outcomes of its activities:
it does not ask whether it is replayed, and of a failure it uses only that there was one. -/
structure Workflow.Deterministic (f : Workflow) : Prop where
  replaying : f.code true = f.code false
  failures : ∀ args, (f.code false args).Alike (f.code false args)

/-! ## Recorded calls -/

/-- How a history keeps a call: its type and its outcome, of a failure only the text. -/
def ActivityCall.recorded (c : ActivityCall) : RecordedActivity :=
  ⟨c.activityType, some (Completion.ofEnding c.ending)⟩

/-- What a recorded call is answered with when it is made again. -/
def ActivityCall.replayed (c : ActivityCall) : Ending :=
  match c.ending with
  | .ok result => .ok result
  | .error failure => .error (.activity c.activityType failure.text)

/-- A call is answered from the place that the replay has come to. -/
theorem answer_recorded (before rest : List RecordedActivity) (c : ActivityCall) :
    ReplayState.answer (before ++ c.recorded :: rest) { consumed := before.length }
      c.activityType = (c.replayed, { consumed := before.length + 1 }) := by
  have hget : (before ++ c.recorded :: rest)[before.length]? = some c.recorded := by
    rw [List.getElem?_append_right (Nat.le_refl _), Nat.sub_self]
    rfl
  have hdifference : differenceOf c.activityType (some c.recorded) = .ok c.replayed := by
    obtain ⟨a, args, e⟩ := c
    cases e <;> simp [differenceOf, ActivityCall.recorded, ActivityCall.replayed,
      Completion.ofEnding]
  unfold ReplayState.answer
  rw [hget, hdifference]

/-- Code that is like the code that was run makes the recorded calls, all of them and in order, and
ends with the same success. -/
theorem Code.Alike.replay {c d : Code} (h : c.Alike d) {calls : List ActivityCall} {e : Ending}
    (hleads : c.Leads calls (.done e)) (before : List RecordedActivity) :
    ∃ e', d.replay (before ++ calls.map ActivityCall.recorded) { consumed := before.length } =
        (e', { consumed := before.length + calls.length }) ∧ e'.isOk = e.isOk := by
  induction h generalizing calls before with
  | done e₀ e' hok =>
    cases hleads with
    | refl _ => exact ⟨e', rfl, hok.symm⟩
  | @call a args args' next next' _ _ hok herror =>
    cases hleads with
    | @call _ _ _ e₁ rest _ hrest =>
      let made : ActivityCall := ⟨a, args, e₁⟩
      have hanswer := answer_recorded before (rest.map ActivityCall.recorded) made
      have hplace : before ++ made.recorded :: rest.map ActivityCall.recorded =
          (before ++ [made.recorded]) ++ rest.map ActivityCall.recorded := List.append_cons ..
      have hlength : before.length + 1 = (before ++ [made.recorded]).length := by
        rw [List.length_append, List.length_singleton]
      -- what is answered is the recorded result, or some failure
      have hnext : ∃ e', (next' made.replayed).replay
          (before ++ made.recorded :: rest.map ActivityCall.recorded)
          { consumed := before.length + 1 } =
            (e', { consumed := before.length + 1 + rest.length }) ∧ e'.isOk = e.isOk := by
        rw [hplace, hlength]
        cases e₁ with
        | ok v => exact hok v hrest _
        | error f => exact herror f _ hrest _
      obtain ⟨e', hreplay, hsame⟩ := hnext
      refine ⟨e', ?_, hsame⟩
      rw [List.map_cons, Code.replay, hanswer]
      refine hreplay.trans ?_
      rw [List.length_cons, Nat.add_assoc, Nat.add_comm 1]
  | latchLeft l _ ih =>
    cases hleads with
    | latch _ hrest => exact ih hrest before
  | latchRight l _ ih =>
    rw [Code.replay]
    exact ih hleads before
  | sleepLeft ms _ ih =>
    cases hleads with
    | sleep _ hrest => exact ih hrest before
  | sleepRight ms _ ih =>
    rw [Code.replay]
    exact ih hleads before

end Conformance
