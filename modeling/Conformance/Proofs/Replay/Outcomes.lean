import Mathlib.Data.List.Basic
import Mathlib.Data.List.Induction
import Conformance.History.Replay
import Conformance.Proofs.History.Orderly

/-!
# What a history says about its activities

A replay gathers the activities of a history while it goes through the events once. What it finds
is described here by the events alone, for every history, also for one that no server would
record: event ids may repeat, references may be missing or lead nowhere, and an activity may be
closed more than once or not at all.

## Main definitions

- `History.scheduled`, `History.scheduledType` — the activities that events schedule
- `History.Latest` — the activity that an event id stands for
- `History.ClosesAt` — an event gives an outcome to an activity
- `History.HasOutcome` — the outcome that is left to an activity at the end

## Main statements

- `History.hasOutcome_concat` — what one more event does to the outcomes
- `History.gathered_activities` — a replay finds these activities, with these outcomes
-/

namespace Conformance

open HistoryEvent

namespace History

/-! ## Activities and their outcomes -/

/-- The events that schedule an activity, in order. -/
def scheduled (events : List HistoryEvent) : List HistoryEvent :=
  events.filter fun e => e.eventType = .activityTaskScheduled

/-- The activity type that an event schedules. A type that is missing is empty. -/
def scheduledType (e : HistoryEvent) : String := (e.text? "activityType").getD ""

/-- The event id that the outcome of an activity refers to. -/
def reference? (e : HistoryEvent) : Option Int :=
  (e.attributes.get? "scheduledEventId").bind eventRef?

/-- Of the activities that are scheduled under an event id, this one is the latest. -/
def Latest (events : List HistoryEvent) (id : Int) (i : Nat) : Prop :=
  (∃ b, (scheduled events)[i]? = some b ∧ b.eventId = id) ∧
    ∀ j b, (scheduled events)[j]? = some b → b.eventId = id → j ≤ i

/-- After the events before it, an event gives an outcome to an activity. -/
def ClosesAt (before : List HistoryEvent) (e : HistoryEvent) (i : Nat) : Prop :=
  e.IsClosing ∧ ∃ id, reference? e = some id ∧ Latest before id i

/-- The outcome of an activity is that of the last event that gives it one. -/
def HasOutcome (events : List HistoryEvent) (i : Nat) (o : Except String Json) : Prop :=
  ∃ before e after, events = before ++ e :: after ∧ ClosesAt before e i ∧ o = outcomeOf e ∧
    ∀ between e' rest, after = between ++ e' :: rest →
      ¬ClosesAt (before ++ e :: between) e' i

/-! ## One more event -/

variable {events : List HistoryEvent} {e : HistoryEvent} {i j : Nat} {id : Int}
  {o : Except String Json}

theorem scheduled_concat_of_scheduled (he : e.eventType = .activityTaskScheduled) :
    scheduled (events ++ [e]) = scheduled events ++ [e] := by
  simp [scheduled, he]

theorem scheduled_concat_of_ne (he : e.eventType ≠ .activityTaskScheduled) :
    scheduled (events ++ [e]) = scheduled events := by
  simp [scheduled, he]

theorem Latest.lt (h : Latest events id i) : i < (scheduled events).length := by
  obtain ⟨⟨b, hb, -⟩, -⟩ := h
  exact (List.getElem?_eq_some_iff.1 hb).1

theorem Latest.unique (h : Latest events id i) (h' : Latest events id j) : i = j := by
  obtain ⟨⟨b, hb, hid⟩, hmax⟩ := h
  obtain ⟨⟨b', hb', hid'⟩, hmax'⟩ := h'
  exact Nat.le_antisymm (hmax' i b hb hid) (hmax j b' hb' hid')

theorem scheduled_concat_eq_some (he : e.eventType = .activityTaskScheduled) {b : HistoryEvent} :
    (scheduled (events ++ [e]))[i]? = some b ↔
      (scheduled events)[i]? = some b ∨ i = (scheduled events).length ∧ e = b := by
  rw [scheduled_concat_of_scheduled he]
  by_cases hi : i < (scheduled events).length
  · have hne : i ≠ (scheduled events).length := by omega
    simp [List.getElem?_append_left hi, hne]
  · have hnone : (scheduled events)[i]? = none := List.getElem?_eq_none (by omega)
    rw [hnone, List.getElem?_append_right (by omega), List.getElem?_singleton]
    have hzero : i - (scheduled events).length = 0 ↔ i = (scheduled events).length := by omega
    simp [hzero]

/-- A new activity takes over its event id. -/
theorem latest_concat_self (he : e.eventType = .activityTaskScheduled) :
    Latest (events ++ [e]) e.eventId i ↔ i = (scheduled events).length := by
  have hlast : (scheduled (events ++ [e]))[(scheduled events).length]? = some e :=
    (scheduled_concat_eq_some he).2 (.inr ⟨rfl, rfl⟩)
  have hmax : ∀ j b, (scheduled (events ++ [e]))[j]? = some b →
      j ≤ (scheduled events).length := by
    intro j b hb
    have := (List.getElem?_eq_some_iff.1 hb).1
    rw [scheduled_concat_of_scheduled he, List.length_append, List.length_singleton] at this
    omega
  have hlatest : Latest (events ++ [e]) e.eventId (scheduled events).length :=
    ⟨⟨e, hlast, rfl⟩, fun j b hb _ => hmax j b hb⟩
  constructor
  · intro h
    exact h.unique hlatest
  · rintro rfl
    exact hlatest

/-- Every other event id keeps its activity. -/
theorem latest_concat_of_id_ne (he : e.eventType = .activityTaskScheduled)
    (hid : e.eventId ≠ id) : Latest (events ++ [e]) id i ↔ Latest events id i := by
  have hsame : ∀ (k : Nat) (b : HistoryEvent), b.eventId = id →
      ((scheduled (events ++ [e]))[k]? = some b ↔ (scheduled events)[k]? = some b) := by
    intro k b hb
    have hne : e ≠ b := by
      rintro rfl
      exact hid hb
    simp [scheduled_concat_eq_some he, hne]
  constructor
  · rintro ⟨⟨b, hb, hbid⟩, hmax⟩
    refine ⟨⟨b, (hsame i b hbid).1 hb, hbid⟩, ?_⟩
    intro j b' hb' hbid'
    exact hmax j b' ((hsame j b' hbid').2 hb') hbid'
  · rintro ⟨⟨b, hb, hbid⟩, hmax⟩
    refine ⟨⟨b, (hsame i b hbid).2 hb, hbid⟩, ?_⟩
    intro j b' hb' hbid'
    exact hmax j b' ((hsame j b' hbid').1 hb') hbid'

theorem latest_concat_of_ne (he : e.eventType ≠ .activityTaskScheduled) :
    Latest (events ++ [e]) id i ↔ Latest events id i := by
  simp only [Latest, scheduled_concat_of_ne he]

/-- One more event gives its outcome to the activity it closes, and leaves all other outcomes as
they are. -/
theorem hasOutcome_concat : HasOutcome (events ++ [e]) i o ↔
    ClosesAt events e i ∧ o = outcomeOf e ∨ ¬ClosesAt events e i ∧ HasOutcome events i o := by
  constructor
  · rintro ⟨before, b, after, hsplit, hcloses, ho, hlast⟩
    obtain rfl | ⟨between, last, rfl⟩ := List.eq_nil_or_concat' after
    · obtain ⟨rfl, hb⟩ := List.append_inj' hsplit rfl
      cases hb
      exact .inl ⟨hcloses, ho⟩
    · have hassoc : before ++ b :: (between ++ [last]) = (before ++ b :: between) ++ [last] := by
        simp
      rw [hassoc] at hsplit
      obtain ⟨rfl, hb⟩ := List.append_inj' hsplit rfl
      cases hb
      refine .inr ⟨hlast between e [] rfl, before, b, between, rfl, hcloses, ho, ?_⟩
      intro between' e' rest hrest
      exact hlast between' e' (rest ++ [e]) (by rw [hrest]; simp)
  · rintro (⟨hcloses, ho⟩ | ⟨hnot, before, b, after, rfl, hcloses, ho, hlast⟩)
    · exact ⟨events, e, [], rfl, hcloses, ho, by simp⟩
    · refine ⟨before, b, after ++ [e], by simp, hcloses, ho, ?_⟩
      intro between e' rest hrest
      obtain rfl | ⟨rest', last, rfl⟩ := List.eq_nil_or_concat' rest
      · obtain ⟨rfl, hb⟩ := List.append_inj' hrest rfl
        cases hb
        exact hnot
      · have hassoc : between ++ e' :: (rest' ++ [last]) = (between ++ e' :: rest') ++ [last] := by
          simp
        rw [hassoc] at hrest
        exact hlast between e' rest' (List.append_inj' hrest rfl).1

theorem HasOutcome.lt (h : HasOutcome events i o) : i < (scheduled events).length := by
  obtain ⟨before, e, after, rfl, ⟨-, id, -, hlatest⟩, -, -⟩ := h
  have := hlatest.lt
  simp only [scheduled, List.filter_append, List.length_append] at this ⊢
  omega

/-! ## What a replay gathers -/

/-- What has been gathered is what the events say. -/
structure Gathered (events : List HistoryEvent) (r : Recorded) : Prop where
  types : r.activities.map RecordedActivity.activityType = (scheduled events).map scheduledType
  latest : ∀ id i, r.byId.get? id = some i ↔ Latest events id i
  outcomes : ∀ i a, r.activities[i]? = some a → ∀ o, a.outcome = some o ↔ HasOutcome events i o

theorem Gathered.length {r : Recorded} (h : Gathered events r) :
    r.activities.length = (scheduled events).length := by
  have := congrArg List.length h.types
  simpa using this

theorem gathered_nil : Gathered [] {} where
  types := rfl
  latest := by
    intro id i
    have : (({} : Recorded).byId).get? id = none := rfl
    simp [this, Latest, scheduled]
  outcomes := by simp

theorem add_of_closing {r : Recorded} (he : e.IsClosing) : r.add e =
    match (reference? e).bind r.byId.get? with
    | some i =>
      { r with activities := r.activities.modify i fun a => { a with outcome := some (outcomeOf e) } }
    | none => r := by
  unfold reference?
  cases hplace : ((e.attributes.get? "scheduledEventId").bind eventRef?).bind r.byId.get? with
  | none => obtain he | he := he <;> simp [Recorded.add, he, hplace]
  | some i => obtain he | he := he <;> simp [Recorded.add, he, hplace]

/-- An event that closes no activity changes no outcome. -/
theorem hasOutcome_concat_of_not (h : ¬ClosesAt events e i) :
    HasOutcome (events ++ [e]) i o ↔ HasOutcome events i o := by
  simp [hasOutcome_concat, h]

theorem Gathered.add_scheduled {r : Recorded} (h : Gathered events r)
    (he : e.eventType = .activityTaskScheduled) : Gathered (events ++ [e]) (r.add e) := by
  have hadd : r.add e =
      { activities := r.activities ++ [{ activityType := scheduledType e }]
        byId := r.byId.insert e.eventId r.activities.length } := by
    simp [Recorded.add, he, scheduledType]
  have hopen : ∀ k, ¬ClosesAt events e k := by
    rintro k ⟨hclosing, -⟩
    obtain hclosing | hclosing := hclosing <;> simp [hclosing] at he
  rw [hadd]
  refine ⟨?_, ?_, ?_⟩
  · rw [List.map_append, h.types, scheduled_concat_of_scheduled he, List.map_append]
    rfl
  · intro id i
    rw [Table.get?_insert, h.length]
    by_cases hid : e.eventId = id
    · subst hid
      simp [latest_concat_self he, eq_comm]
    · simp [hid, latest_concat_of_id_ne he hid, h.latest]
  · intro i a ha o
    rw [hasOutcome_concat_of_not (hopen i)]
    by_cases hi : i < r.activities.length
    · rw [List.getElem?_append_left hi] at ha
      exact h.outcomes i a ha o
    · -- the new activity has no outcome, and none is claimed for it
      have hnone : ¬HasOutcome events i o := by
        intro ho
        have := ho.lt
        rw [h.length] at hi
        exact hi this
      rw [List.getElem?_append_right (by omega), List.getElem?_singleton] at ha
      by_cases hzero : i - r.activities.length = 0
      · rw [if_pos hzero] at ha
        cases ha
        simp [hnone]
      · rw [if_neg hzero] at ha
        simp at ha

theorem Gathered.add_closing {r : Recorded} (h : Gathered events r) (he : e.IsClosing) :
    Gathered (events ++ [e]) (r.add e) := by
  have hne : e.eventType ≠ .activityTaskScheduled := by
    obtain he | he := he <;> simp [he]
  have hcloses : ∀ k, ClosesAt events e k ↔ (reference? e).bind r.byId.get? = some k := by
    intro k
    simp only [ClosesAt, Option.bind_eq_some_iff, h.latest]
    exact ⟨fun hc => hc.2, fun hc => ⟨he, hc⟩⟩
  rw [add_of_closing he]
  cases hplace : (reference? e).bind r.byId.get? with
  | none =>
    refine ⟨?_, ?_, ?_⟩
    · rw [scheduled_concat_of_ne hne, h.types]
    · intro id i
      rw [latest_concat_of_ne hne, h.latest]
    · intro i a ha o
      have hopen : ¬ClosesAt events e i := by simp [hcloses, hplace]
      rw [hasOutcome_concat_of_not hopen]
      exact h.outcomes i a ha o
  | some k =>
    refine ⟨?_, ?_, ?_⟩
    · rw [scheduled_concat_of_ne hne, ← h.types]
      apply List.ext_getElem?
      intro m
      rw [List.getElem?_map, List.getElem?_map, List.getElem?_modify]
      by_cases hm : k = m <;> simp [hm, Function.comp_def]
    · intro id i
      rw [latest_concat_of_ne hne, h.latest]
    · intro i a ha o
      rw [List.getElem?_modify] at ha
      by_cases hi : k = i
      · subst hi
        have hclosed : ClosesAt events e k := (hcloses k).2 hplace
        obtain ⟨a', -, rfl⟩ := Option.map_eq_some_iff.1 ha
        simp [hasOutcome_concat, hclosed, eq_comm]
      · have hopen : ¬ClosesAt events e i := by
          rw [hcloses, hplace]
          simpa using hi
        rw [hasOutcome_concat_of_not hopen]
        simp only [hi, ite_false, Option.map_eq_map, Option.map_id'] at ha
        exact h.outcomes i a ha o

/-- Taking in one event keeps up with what the events say. -/
theorem Gathered.add {r : Recorded} (h : Gathered events r) (e : HistoryEvent) :
    Gathered (events ++ [e]) (r.add e) := by
  by_cases hscheduled : e.eventType = .activityTaskScheduled
  · exact h.add_scheduled hscheduled
  by_cases hclosing : e.IsClosing
  · exact h.add_closing hclosing
  have hadd : r.add e = r := by
    have hcompleted : e.eventType ≠ .activityTaskCompleted := fun he => hclosing (.inl he)
    have hfailed : e.eventType ≠ .activityTaskFailed := fun he => hclosing (.inr he)
    unfold Recorded.add
    split <;> simp_all
  have hopen : ∀ i, ¬ClosesAt events e i := fun i hc => hclosing hc.1
  rw [hadd]
  refine ⟨?_, ?_, ?_⟩
  · rw [scheduled_concat_of_ne hscheduled, h.types]
  · intro id i
    rw [latest_concat_of_ne hscheduled, h.latest]
  · intro i a ha o
    rw [hasOutcome_concat_of_not (hopen i)]
    exact h.outcomes i a ha o

theorem gathered_foldl (events : List HistoryEvent) :
    Gathered events (events.foldl Recorded.add {}) := by
  induction events using List.reverseRecOn with
  | nil => exact gathered_nil
  | append_singleton events e ih =>
    rw [List.foldl_append]
    exact ih.add e

/-- The activities that a replay finds are those that the events schedule, of the same types, and
an activity has exactly the outcome that the events leave it. -/
theorem gathered_activities (h : History) :
    h.activities.map RecordedActivity.activityType = (scheduled h.events).map scheduledType ∧
      ∀ i a, h.activities[i]? = some a → ∀ o, a.outcome = some o ↔ HasOutcome h.events i o :=
  ⟨(gathered_foldl h.events).types, (gathered_foldl h.events).outcomes⟩

end History

end Conformance
