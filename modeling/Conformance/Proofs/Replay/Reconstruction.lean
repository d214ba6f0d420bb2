import Conformance.Proofs.History.Forms
import Conformance.Proofs.Replay.Detection

/-!
# The activities of any log

Any list of events is taken for a log, whatever its ids are and whatever refers to them. It is said here
in full what a replay makes of it: one activity for each event that schedules one, and for each activity
the outcome of the last event that closes it. On the way no place is looked up that is not there.

## Main definitions

- `History.RefersTo` — an event refers to an event id, in one of its forms
- `History.IsClosed` — some event of a log closes an activity

## Main statements

- `History.place_lt_of_get?` — the place of an activity is one of the activities found so far
- `History.exists_hasOutcome_iff` — an activity has an outcome if an event closes it
- `History.activities_of_log` — the activities of any log
-/

namespace Conformance

namespace History

variable {events : List HistoryEvent} {e : HistoryEvent} {i : Nat}

/-! ## References -/

/-- The event refers to this event id, which is given as a number or as a text. -/
def RefersTo (e : HistoryEvent) (id : Int) : Prop :=
  ∃ v, e.attributes.get? "scheduledEventId" = some v ∧ HistoryEvent.IdForm id v.draft

theorem reference?_eq_some_iff {id : Int} : reference? e = some id ↔ RefersTo e id := by
  rw [reference?, Option.bind_eq_some_iff]
  refine exists_congr fun v => and_congr_right fun _ => ?_
  rw [← HistoryEvent.decodeId?_draft]
  exact HistoryEvent.reads_id id v.draft

/-! ## Places -/

/-- The place that is kept for an event id is one of the activities found so far. -/
theorem place_lt_of_get? {id : Int} (h : (events.foldl Recorded.add {}).byId.get? id = some i) :
    i < (events.foldl Recorded.add {}).activities.length := by
  have hgathered := gathered_foldl events
  rw [hgathered.length]
  exact ((hgathered.latest id i).mp h).lt

/-! ## Outcomes -/

/-- Some event of the log closes the activity. -/
def IsClosed (events : List HistoryEvent) (i : Nat) : Prop :=
  ∃ before e after, events = before ++ e :: after ∧ ClosesAt before e i

theorem isClosed_concat : IsClosed (events ++ [e]) i ↔ IsClosed events i ∨ ClosesAt events e i := by
  constructor
  · rintro ⟨before, b, after, hsplit, hcloses⟩
    obtain rfl | ⟨between, last, rfl⟩ := List.eq_nil_or_concat' after
    · obtain ⟨rfl, hb⟩ := List.append_inj' hsplit rfl
      cases hb
      exact .inr hcloses
    · rw [← List.cons_append, ← List.append_assoc] at hsplit
      exact .inl ⟨before, b, between, (List.append_inj' hsplit rfl).1, hcloses⟩
  · rintro (⟨before, b, after, rfl, hcloses⟩ | hcloses)
    · exact ⟨before, b, after ++ [e], by simp, hcloses⟩
    · exact ⟨events, e, [], rfl, hcloses⟩

/-- Of the events that close an activity there is a last one, and it gives the outcome. -/
theorem exists_hasOutcome_iff : (∃ o, HasOutcome events i o) ↔ IsClosed events i := by
  induction events using List.reverseRecOn with
  | nil => simp [HasOutcome, IsClosed]
  | append_singleton events e ih =>
    rw [isClosed_concat, ← ih]
    simp only [hasOutcome_concat]
    by_cases hcloses : ClosesAt events e i
    · exact ⟨fun _ => .inr hcloses, fun _ => ⟨_, .inl ⟨hcloses, rfl⟩⟩⟩
    · simp [hcloses]

/-! ## The whole log -/

theorem scheduledType_eq (e : HistoryEvent) :
    (∀ s, e.attributes.get? "activityType" = some (.str s) → scheduledType e = s) ∧
      ((∀ s, e.attributes.get? "activityType" ≠ some (.str s)) → scheduledType e = "") := by
  unfold scheduledType HistoryEvent.text?
  constructor
  · intro s hs
    rw [hs]
    rfl
  · intro hnone
    cases hv : e.attributes.get? "activityType" with
    | none => rfl
    | some v =>
      cases v with
      | str s => exact absurd hv (hnone s)
      | _ => rfl

/-- What is made of any log: an activity for each event that schedules one, in the order of the log and
of the type that the event gives, which is empty if it gives no text. The outcome of an activity is that
of the last event that closes it, which is one that completes or fails the latest activity before it
with the event id that it refers to. Without such an event there is no outcome. At every point of the
log, the places that are kept are places of activities. -/
theorem activities_of_log (events : List HistoryEvent) :
    (History.activities ⟨events⟩).length = (scheduled events).length ∧
    (∀ (i : Nat) (e : HistoryEvent), (scheduled events)[i]? = some e →
      ∃ a, (History.activities ⟨events⟩)[i]? = some a ∧
        (∀ s, e.attributes.get? "activityType" = some (.str s) → a.activityType = s) ∧
        ((∀ s, e.attributes.get? "activityType" ≠ some (.str s)) → a.activityType = "") ∧
        (∀ o, a.outcome = some o ↔ HasOutcome events i o) ∧
        (a.outcome = none ↔ ¬IsClosed events i)) ∧
    (∀ before e i, ClosesAt before e i ↔ e.IsClosing ∧ ∃ id, RefersTo e id ∧ Latest before id i) ∧
    ∀ before after, events = before ++ after → ∀ id i,
      (before.foldl Recorded.add {}).byId.get? id = some i →
        i < (before.foldl Recorded.add {}).activities.length := by
  refine ⟨length_activities ⟨events⟩, ?_, ?_, fun before after _ id i => place_lt_of_get?⟩
  · intro i e he
    have hplace : (scheduled (History.mk events).events)[i]? = some e := he
    obtain ⟨a, ha, htype, houtcome⟩ := activities_eq_some hplace
    obtain ⟨htext, hempty⟩ := scheduledType_eq e
    refine ⟨a, ha, fun s hs => htype.trans (htext s hs), fun hnone => htype.trans (hempty hnone),
      houtcome, ?_⟩
    rw [← exists_hasOutcome_iff, ← not_iff_not, not_not, ← Ne, Option.ne_none_iff_exists']
    exact exists_congr houtcome
  · intro before e i
    simp only [ClosesAt, reference?_eq_some_iff]

end History

end Conformance
