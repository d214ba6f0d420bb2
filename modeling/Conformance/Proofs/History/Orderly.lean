import Conformance.History.Event

/-!
# Orderly histories

Whether a recorded history makes sense is a matter of neighbours: every event has the id of its
place and is allowed after the event before it. What can be said of the whole follows from that.

## Main definitions

- `HistoryEvent.After` — the events that may be recorded after an event
- `Orderly` — a history in which every event is allowed at its place
- `WellFormed` — what can be expected of the history of a run

## Main statements

- `Orderly.snoc` — an event that is allowed after the last one can be recorded
- `Orderly.wellFormed` — an orderly history is well formed

## Design notes

Event ids are signed numbers of 64 bits. They are the places of the events as long as there are
fewer than 2^63 of them, which is as many as fit into memory; `eventIdAt` says what they are in
any case.
-/

namespace Conformance

/-! ## Events and their neighbours -/

namespace HistoryEvent

/-- The event ends an activity. -/
def IsClosing (e : HistoryEvent) : Prop :=
  e.eventType = .activityTaskCompleted ∨ e.eventType = .activityTaskFailed

/-- The event ends the run. -/
def IsEnd (e : HistoryEvent) : Prop :=
  e.eventType = .workflowExecutionCompleted ∨ e.eventType = .workflowExecutionFailed

/-- The event belongs to an update. -/
def IsUpdate (e : HistoryEvent) : Prop :=
  e.eventType = .workflowExecutionUpdateAccepted ∨
    e.eventType = .workflowExecutionUpdateRejected ∨
    e.eventType = .workflowExecutionUpdateCompleted

/-- The workflow code is at work after the event: the run has started, or an activity has ended. -/
def IsSettled (e : HistoryEvent) : Prop :=
  e.eventType = .workflowExecutionStarted ∨ e.IsClosing

/-- The event ends the activity that another event has scheduled. -/
def Closes (e scheduled : HistoryEvent) : Prop :=
  e.IsClosing ∧ e.attributes.get? "scheduledEventId" = some (.int scheduled.eventId)

/-- The events that may be recorded after an event: an activity is scheduled, the activity that has
just been scheduled ends, or the run ends. -/
inductive After (before e : HistoryEvent) : Prop
  | scheduled (hbefore : before.IsSettled) (h : e.eventType = .activityTaskScheduled)
  | closed (hbefore : before.eventType = .activityTaskScheduled) (h : e.Closes before)
  | ended (hbefore : before.IsSettled) (h : e.IsEnd)

theorem IsEnd.not_settled {e : HistoryEvent} (h : e.IsEnd) : ¬ e.IsSettled := by
  rintro (hs | hs | hs) <;> rcases h with h | h <;> rw [h] at hs <;> cases hs

theorem After.not_started {before e : HistoryEvent} (h : After before e) :
    e.eventType ≠ .workflowExecutionStarted := by
  intro hs
  rcases h with ⟨-, h⟩ | ⟨-, h | h, -⟩ | ⟨-, h | h⟩ <;> rw [h] at hs <;> cases hs

theorem After.not_update {before e : HistoryEvent} (h : After before e) : ¬ e.IsUpdate := by
  rintro (hu | hu | hu) <;> rcases h with ⟨-, h⟩ | ⟨-, h | h, -⟩ | ⟨-, h | h⟩ <;>
    rw [h] at hu <;> cases hu

/-- Nothing is recorded after the end. -/
theorem After.not_end {before e : HistoryEvent} (h : After before e) : ¬ before.IsEnd := by
  intro hend
  cases h with
  | scheduled hbefore _ => exact hend.not_settled hbefore
  | closed hbefore _ => rcases hend with h | h <;> rw [h] at hbefore <;> cases hbefore
  | ended hbefore _ => exact hend.not_settled hbefore

/-- An activity ends right after it was scheduled. -/
theorem After.of_closing {before e : HistoryEvent} (h : After before e) (he : e.IsClosing) :
    before.eventType = .activityTaskScheduled ∧ e.Closes before := by
  cases h with
  | scheduled _ h => rcases he with he | he <;> rw [h] at he <;> cases he
  | closed hbefore h => exact ⟨hbefore, h⟩
  | ended _ h => exact absurd (Or.inr he) h.not_settled

/-- Nothing is recorded between an activity that was scheduled and its end. -/
theorem After.of_scheduled {before e : HistoryEvent} (h : After before e)
    (hbefore : before.eventType = .activityTaskScheduled) : e.Closes before := by
  have hnot : ¬ before.IsSettled := by
    rintro (hs | hs | hs) <;> rw [hbefore] at hs <;> cases hs
  cases h with
  | scheduled hs _ => exact absurd hs hnot
  | closed _ h => exact h
  | ended hs _ => exact absurd hs hnot

end HistoryEvent

/-! ## Orderly histories -/

open HistoryEvent

/-- Every event has the id of its place and is allowed there. -/
structure Orderly (events : List HistoryEvent) : Prop where
  ids : ∀ i e, events[i]? = some e → e.eventId = eventIdAt (i + 1)
  first : ∀ e, events[0]? = some e → e.eventType = .workflowExecutionStarted
  steps : ∀ i b e, events[i]? = some b → events[i + 1]? = some e → After b e

/-- An event of a history with one more is one of the others or that one. -/
theorem getElem?_concat_cases {events : List HistoryEvent} {e e' : HistoryEvent} {i : Nat}
    (h : (events ++ [e])[i]? = some e') : events[i]? = some e' ∨ i = events.length ∧ e = e' := by
  by_cases hi : i < events.length
  · rw [List.getElem?_append_left hi] at h
    exact Or.inl h
  · obtain rfl : i = events.length := by
      have hlt := (List.getElem?_eq_some_iff.mp h).1
      rw [List.length_append, List.length_singleton] at hlt
      omega
    rw [List.getElem?_concat_length] at h
    exact Or.inr ⟨rfl, Option.some.inj h⟩

theorem Orderly.single {e : HistoryEvent} (htype : e.eventType = .workflowExecutionStarted)
    (hid : e.eventId = eventIdAt 1) : Orderly [e] := by
  have honly : ∀ i e', [e][i]? = some e' → i = 0 ∧ e = e' := by
    intro i e' he
    cases i with
    | zero => exact ⟨rfl, Option.some.inj he⟩
    | succ i => cases he
  refine ⟨?ids, ?first, ?steps⟩
  case ids =>
    intro i e' he
    obtain ⟨rfl, rfl⟩ := honly i e' he
    exact hid
  case first =>
    intro e' he
    obtain ⟨-, rfl⟩ := honly 0 e' he
    exact htype
  case steps =>
    intro i b e' _ he
    exact absurd (honly _ _ he).1 (Nat.succ_ne_zero i)

/-- An event that is allowed after the last one can be recorded. -/
theorem Orderly.snoc {events : List HistoryEvent} (h : Orderly events) {b e : HistoryEvent}
    (hlast : events.getLast? = some b) (hafter : After b e)
    (hid : e.eventId = eventIdAt (events.length + 1)) : Orderly (events ++ [e]) := by
  have hlength : 0 < events.length := by
    apply List.length_pos_iff.mpr
    rintro rfl
    cases hlast
  refine ⟨?ids, ?first, ?steps⟩
  case ids =>
    intro i e' he
    rcases getElem?_concat_cases he with he | ⟨rfl, rfl⟩
    · exact h.ids i e' he
    · exact hid
  case first =>
    intro e' he
    rcases getElem?_concat_cases he with he | ⟨hzero, -⟩
    · exact h.first e' he
    · omega
  case steps =>
    intro i b' e' hb he
    rcases getElem?_concat_cases hb with hb | ⟨rfl, -⟩
    · rcases getElem?_concat_cases he with he | ⟨hi, rfl⟩
      · exact h.steps i b' e' hb he
      · -- the neighbour of the new event is the last one before it
        rw [List.getLast?_eq_getElem?, ← hi, Nat.add_sub_cancel, hb] at hlast
        rwa [Option.some.inj hlast]
    · -- there is no place behind the new event
      have hlt := (List.getElem?_eq_some_iff.mp he).1
      rw [List.length_append, List.length_singleton] at hlt
      omega

/-! ## Well-formed histories -/

/-- What can be expected of the history of a run: `workflowType`, `taskQueue` and `input` are what
the run was started with, and `status` is how far it has come. -/
structure WellFormed (workflowType taskQueue : String) (input : List Json)
    (status : ExecutionStatus) (events : List HistoryEvent) : Prop where
  /-- ids are consecutive -/
  ids : ∀ i e, events[i]? = some e → e.eventId = eventIdAt (i + 1)
  ids_small : events.length < 9223372036854775808 →
    events.map (·.eventId) = (List.range events.length).map fun i : Nat => (i : Int) + 1
  /-- the first event says what was started -/
  started : ∃ e, events[0]? = some e ∧ e.eventType = .workflowExecutionStarted ∧
    e.attributes.get? "workflowType" = some (.str workflowType) ∧
    e.attributes.get? "taskQueue" = some (.str taskQueue) ∧
    e.attributes.get? "input" = some (.arr input)
  started_once : ∀ i e, events[i]? = some e → e.eventType = .workflowExecutionStarted → i = 0
  /-- the end of an activity comes right after its start and refers to it -/
  closes : ∀ i e, events[i]? = some e → e.IsClosing → ∃ j b, i = j + 1 ∧
    events[j]? = some b ∧ b.eventType = .activityTaskScheduled ∧ e.Closes b
  /-- an activity has ended unless its start is the last event -/
  open_last : ∀ i b, events[i]? = some b → b.eventType = .activityTaskScheduled →
    i + 1 = events.length ∨ ∃ e, events[i + 1]? = some e ∧ e.Closes b
  /-- no two events end one activity -/
  closed_once : events.length < 9223372036854775808 →
    ∀ (i j : Nat) (b e e' : HistoryEvent), events[i]? = some e → events[j]? = some e' →
      e.Closes b → e'.Closes b → i = j
  /-- the end of the run is the last event -/
  ends : ∀ i e, events[i]? = some e → e.IsEnd → i + 1 = events.length
  completed : status = .completed ↔ ∃ e ∈ events, e.eventType = .workflowExecutionCompleted
  failed : status = .failed ↔ ∃ e ∈ events, e.eventType = .workflowExecutionFailed
  no_update : ∀ e ∈ events, ¬ e.IsUpdate

section

variable {events : List HistoryEvent} (h : Orderly events)
include h

/-- Every event but the first comes after another one. -/
theorem Orderly.before {i : Nat} {e : HistoryEvent} (he : events[i + 1]? = some e) :
    ∃ b, events[i]? = some b ∧ After b e := by
  have hlt := (List.getElem?_eq_some_iff.mp he).1
  have hb : events[i]? = some events[i] := List.getElem?_eq_getElem (by omega)
  exact ⟨_, hb, h.steps i _ e hb he⟩

theorem Orderly.started_once (i : Nat) (e : HistoryEvent) (he : events[i]? = some e)
    (htype : e.eventType = .workflowExecutionStarted) : i = 0 := by
  cases i with
  | zero => rfl
  | succ i =>
    obtain ⟨b, -, hafter⟩ := h.before he
    exact absurd htype hafter.not_started

theorem Orderly.closes (i : Nat) (e : HistoryEvent) (he : events[i]? = some e)
    (hclosing : e.IsClosing) : ∃ j b, i = j + 1 ∧ events[j]? = some b ∧
      b.eventType = .activityTaskScheduled ∧ e.Closes b := by
  cases i with
  | zero =>
    have htype := h.first e he
    rcases hclosing with hc | hc <;> rw [hc] at htype <;> cases htype
  | succ i =>
    obtain ⟨b, hb, hafter⟩ := h.before he
    obtain ⟨htype, hcloses⟩ := hafter.of_closing hclosing
    exact ⟨i, b, rfl, hb, htype, hcloses⟩

/-- An event is the last one, or another one comes after it. -/
theorem Orderly.last_or_next {i : Nat} {b : HistoryEvent} (hb : events[i]? = some b) :
    i + 1 = events.length ∨ ∃ e, events[i + 1]? = some e ∧ After b e := by
  have hlt := (List.getElem?_eq_some_iff.mp hb).1
  by_cases hlast : i + 1 = events.length
  · exact Or.inl hlast
  · have he : events[i + 1]? = some events[i + 1] := List.getElem?_eq_getElem (by omega)
    exact Or.inr ⟨_, he, h.steps i b _ hb he⟩

theorem Orderly.open_last (i : Nat) (b : HistoryEvent) (hb : events[i]? = some b)
    (htype : b.eventType = .activityTaskScheduled) :
    i + 1 = events.length ∨ ∃ e, events[i + 1]? = some e ∧ e.Closes b := by
  refine (h.last_or_next hb).imp_right ?_
  rintro ⟨e, he, hafter⟩
  exact ⟨e, he, hafter.of_scheduled htype⟩

theorem Orderly.ends (i : Nat) (e : HistoryEvent) (he : events[i]? = some e) (hend : e.IsEnd) :
    i + 1 = events.length := by
  refine (h.last_or_next he).resolve_right ?_
  rintro ⟨e', -, hafter⟩
  exact hafter.not_end hend

theorem Orderly.no_update (e : HistoryEvent) (he : e ∈ events) : ¬ e.IsUpdate := by
  obtain ⟨i, hi⟩ := List.mem_iff_getElem?.mp he
  cases i with
  | zero =>
    have htype := h.first e hi
    rintro (hu | hu | hu) <;> rw [hu] at htype <;> cases htype
  | succ i =>
    obtain ⟨b, -, hafter⟩ := h.before hi
    exact hafter.not_update

theorem Orderly.ids_small (hlength : events.length < 9223372036854775808) :
    events.map (·.eventId) = (List.range events.length).map fun i : Nat => (i : Int) + 1 := by
  apply List.ext_getElem?
  intro i
  rw [List.getElem?_map, List.getElem?_map]
  by_cases hi : i < events.length
  · rw [List.getElem?_eq_getElem hi, List.getElem?_range hi, Option.map_some, Option.map_some,
      h.ids i _ (List.getElem?_eq_getElem hi), eventIdAt_of_lt (by omega)]
    rfl
  · rw [List.getElem?_eq_none (by omega),
      List.getElem?_eq_none (by rw [List.length_range]; omega)]
    rfl

/-- Events that end one activity are at one place, since ids are different. -/
theorem Orderly.closed_once (hlength : events.length < 9223372036854775808) (i j : Nat)
    (b e e' : HistoryEvent) (he : events[i]? = some e) (he' : events[j]? = some e')
    (hcloses : e.Closes b) (hcloses' : e'.Closes b) : i = j := by
  obtain ⟨k, c, rfl, hc, -, hid⟩ := h.closes i e he hcloses.1
  obtain ⟨k', c', rfl, hc', -, hid'⟩ := h.closes j e' he' hcloses'.1
  have hlt := (List.getElem?_eq_some_iff.mp hc).1
  have hlt' := (List.getElem?_eq_some_iff.mp hc').1
  have hsame : eventIdAt (k + 1) = b.eventId := by
    rw [← h.ids k c hc]
    have hjson := hid.2.symm.trans hcloses.2
    simpa using hjson
  have hsame' : eventIdAt (k' + 1) = b.eventId := by
    rw [← h.ids k' c' hc']
    have hjson := hid'.2.symm.trans hcloses'.2
    simpa using hjson
  rw [eventIdAt_of_lt (by omega)] at hsame hsame'
  omega

/-- Only the last event can be an end. -/
theorem Orderly.mem_end_iff {last : HistoryEvent} (hlast : events.getLast? = some last)
    {type : EventType}
    (htype : type = .workflowExecutionCompleted ∨ type = .workflowExecutionFailed) :
    (∃ e ∈ events, e.eventType = type) ↔ last.eventType = type := by
  constructor
  · rintro ⟨e, he, rfl⟩
    obtain ⟨i, hi⟩ := List.mem_iff_getElem?.mp he
    have hend := h.ends i e hi htype
    rw [List.getLast?_eq_getElem?, ← hend, Nat.add_sub_cancel, hi] at hlast
    rw [Option.some.inj hlast]
  · intro heq
    exact ⟨last, List.mem_of_getLast? hlast, heq⟩

/-- An orderly history that says what was started, and whose last event tells the status, is well
formed. -/
theorem Orderly.wellFormed {workflowType taskQueue : String} {input : List Json}
    {status : ExecutionStatus} {first last : HistoryEvent} (hfirst : events[0]? = some first)
    (hlast : events.getLast? = some last)
    (hworkflowType : first.attributes.get? "workflowType" = some (.str workflowType))
    (htaskQueue : first.attributes.get? "taskQueue" = some (.str taskQueue))
    (hinput : first.attributes.get? "input" = some (.arr input))
    (hcompleted : status = .completed ↔ last.eventType = .workflowExecutionCompleted)
    (hfailed : status = .failed ↔ last.eventType = .workflowExecutionFailed) :
    WellFormed workflowType taskQueue input status events where
  ids := h.ids
  ids_small := h.ids_small
  started := ⟨first, hfirst, h.first first hfirst, hworkflowType, htaskQueue, hinput⟩
  started_once := h.started_once
  closes := h.closes
  open_last := h.open_last
  closed_once := h.closed_once
  ends := h.ends
  completed := hcompleted.trans (h.mem_end_iff hlast (Or.inl rfl)).symm
  failed := hfailed.trans (h.mem_end_iff hlast (Or.inr rfl)).symm
  no_update := h.no_update

end

end Conformance
