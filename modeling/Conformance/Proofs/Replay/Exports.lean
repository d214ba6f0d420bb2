import Conformance.Proofs.History.Exports
import Conformance.Worker

/-!
# A replay does not depend on the export

A replay looks up by its id the event that scheduled an activity, and never looks at an id
otherwise. So it goes the same way for all exports of a history, as long as different events ids
stay different.

## Main definitions

- `History.Recorded.Renumbered` — what a replay has gathered, under other event ids
- `Worker.verdict` — what comes of reading and replaying a history

## Main statements

- `History.activities_of_reexported` — the same activities, with the same outcomes
- `Worker.verdict_of_export` — the same verdict
-/

namespace Conformance

variable {f : Int → Int}

/-- Different event ids stay different. -/
def InjectiveOnIds (f : Int → Int) : Prop :=
  ∀ n m, IsEventId n → IsEventId m → f n = f m → n = m

namespace HistoryEvent.Renumbered

variable {e e' : HistoryEvent}

theorem text? (h : e.Renumbered f e') {key : String} (hkey : key ≠ "scheduledEventId") :
    e'.text? key = e.text? key := by
  rw [HistoryEvent.text?, HistoryEvent.text?, h.others key hkey]

theorem outcomeOf (h : e.Renumbered f e') : History.outcomeOf e' = History.outcomeOf e := by
  rw [History.outcomeOf, History.outcomeOf, h.eventType, h.others "result" (by decide),
    h.text? (show "failure" ≠ "scheduledEventId" by decide)]

theorem isClosing (h : e.Renumbered f e') (hclosing : e.IsClosing) : e'.IsClosing := by
  unfold IsClosing
  rw [h.eventType]
  exact hclosing

end HistoryEvent.Renumbered

namespace History

/-! ## Activities -/

/-- The same activities, found under other event ids. -/
structure Recorded.Renumbered (f : Int → Int) (r r' : Recorded) : Prop where
  activities : r'.activities = r.activities
  byId : ∀ id, IsEventId id → r'.byId.get? (f id) = r.byId.get? id

variable {r r' : Recorded} {e e' : HistoryEvent}

theorem add_of_idle (he : e.eventType.isIdle = true) : r.add e = r := by
  unfold Recorded.add
  cases htype : e.eventType <;> rw [htype] at he <;> first | rfl | cases he

theorem add_of_scheduled (he : e.eventType = .activityTaskScheduled) : r.add e =
    { activities := r.activities ++ [{ activityType := scheduledType e }]
      byId := r.byId.insert e.eventId r.activities.length } := by
  simp only [Recorded.add, he, scheduledType]

/-- A reference leads to the same activity. -/
theorem Recorded.Renumbered.bind_reference (h : r.Renumbered f r') (he : e.Renumbered f e') :
    (reference? e').bind r'.byId.get? = (reference? e).bind r.byId.get? := by
  rw [he.reference]
  cases hreference : reference? e with
  | none => rfl
  | some id =>
    obtain ⟨v, -, hv⟩ := Option.bind_eq_some_iff.mp hreference
    exact h.byId id (Export.eventRef?_mem hv)

/-- An event does the same under another id. -/
theorem Recorded.Renumbered.add (hf : InjectiveOnIds f) (h : r.Renumbered f r')
    (he : e.Renumbered f e') : (r.add e).Renumbered f (r'.add e') := by
  have hclosing (hclosing : e.IsClosing) : (r.add e).Renumbered f (r'.add e') := by
    rw [add_of_closing hclosing, add_of_closing (he.isClosing hclosing), h.bind_reference he]
    cases (reference? e).bind r.byId.get? with
    | none => exact h
    | some i => exact ⟨by rw [h.activities, he.outcomeOf], h.byId⟩
  have hother (hadd : r.add e = r) (hadd' : r'.add e' = r') :
      (r.add e).Renumbered f (r'.add e') := by
    rw [hadd, hadd']
    exact h
  cases htype : e.eventType with
  | activityTaskScheduled =>
    rw [add_of_scheduled htype, add_of_scheduled (he.eventType.trans htype)]
    refine ⟨?_, fun id hid => ?_⟩
    · rw [h.activities, scheduledType, scheduledType, he.text? (by decide)]
    · have hsame : f e.eventId = f id ↔ e.eventId = id :=
        ⟨hf _ _ he.inRange hid, congrArg f⟩
      simp only [Table.get?_insert, he.eventId, hsame, h.byId id hid, h.activities]
  | activityTaskCompleted => exact hclosing (.inl htype)
  | activityTaskFailed => exact hclosing (.inr htype)
  | _ =>
    have htype' := he.eventType.trans htype
    exact hother (by simp only [Recorded.add, htype]) (by simp only [Recorded.add, htype'])

theorem foldl_add_of_reexported (hf : InjectiveOnIds f) {es es' : List HistoryEvent}
    (h : Reexported f es es') {r r' : Recorded} (hr : r.Renumbered f r') :
    (es.foldl Recorded.add r).Renumbered f (es'.foldl Recorded.add r') := by
  induction h generalizing r r' with
  | nil => exact hr
  | same he _ ih => exact ih (hr.add hf he)
  | inserted hidle _ ih =>
    rw [List.foldl_cons, add_of_idle hidle]
    exact ih hr
  | removed hidle _ ih =>
    rw [List.foldl_cons, add_of_idle hidle]
    exact ih hr

variable {h h' : History}

/-- All exports of a history have the same activities, with the same outcomes. -/
theorem activities_of_reexported (hf : InjectiveOnIds f)
    (hevents : Reexported f h.events h'.events) : h'.activities = h.activities :=
  (foldl_add_of_reexported hf hevents ⟨rfl, fun _ _ => rfl⟩).activities

/-! ## The beginning and the end -/

/-- The first event of a type that means something is the same under another id. -/
theorem find?_of_reexported {es es' : List HistoryEvent} (hevents : Reexported f es es')
    {t : EventType} (ht : t.isIdle = false) :
    Option.Rel (HistoryEvent.Renumbered f) (es.find? fun e => e.eventType = t)
      (es'.find? fun e => e.eventType = t) := by
  have hne {e : HistoryEvent} (hidle : e.eventType.isIdle = true) : e.eventType ≠ t := by
    rintro rfl
    rw [hidle] at ht
    cases ht
  induction hevents with
  | nil => exact .none
  | @same e e' es es' he _ ih =>
    rw [List.find?_cons, List.find?_cons, he.eventType]
    by_cases htype : e.eventType = t
    · simpa [htype] using Option.Rel.some he
    · simpa [htype] using ih
  | inserted hidle _ ih => simpa [hne hidle] using ih
  | removed hidle _ ih => simpa [hne hidle] using ih

theorem has_of_reexported (hevents : Reexported f h.events h'.events) {t : EventType}
    (ht : t.isIdle = false) : h'.has t = h.has t := by
  unfold has find?
  obtain ⟨h₁, h₂⟩ | ⟨e, e', h₁, h₂, -⟩ := Export.rel_cases (find?_of_reexported hevents ht)
  · rw [h₁, h₂]
  · rw [h₁, h₂]
    rfl

/-- The same workflow has been started, with the same arguments. -/
theorem started_of_reexported (hevents : Reexported f h.events h'.events) :
    h'.workflowType? = h.workflowType? ∧ h'.input = h.input := by
  have hfind := find?_of_reexported hevents (t := .workflowExecutionStarted) rfl
  unfold workflowType? input find?
  obtain ⟨h₁, h₂⟩ | ⟨e, e', h₁, h₂, he⟩ := Export.rel_cases hfind
  · rw [h₁, h₂]
    exact ⟨rfl, rfl⟩
  · rw [h₁, h₂]
    simp only [Option.bind_some]
    exact ⟨he.text? (by decide), by rw [he.others "input" (by decide)]⟩

end History

/-! ## The verdict -/

theorem Worker.replay_of_reexported (hf : InjectiveOnIds f) (w : Worker) {h h' : History}
    (hevents : History.Reexported f h.events h'.events) : w.replay h' = w.replay h := by
  obtain ⟨htype, hinput⟩ := History.started_of_reexported hevents
  have hactivities := History.activities_of_reexported hf hevents
  have hcheck : h'.check = h.check := by
    funext succeeded s
    simp only [History.check, hactivities,
      History.has_of_reexported hevents (t := .workflowExecutionCompleted) rfl,
      History.has_of_reexported hevents (t := .workflowExecutionFailed) rfl]
  simp only [Worker.replay, Workflow.replay, htype, hinput, hactivities, hcheck]

/-- What comes of reading a history and replaying it: nothing, if it cannot be read. -/
def Worker.verdict (w : Worker) (v : Json) : Option (Except Error Unit) :=
  (History.ofJson? v).map w.replay

/-- The verdict on a history is the same for all its exports: the event ids in them may be written
as numbers or as texts and may be given other names, and events that mean nothing may be added or
left out at any place. -/
theorem Worker.verdict_of_export (hf : InjectiveOnIds f) (w : Worker) {v v' : Json}
    (h : Export.OfHistory f v v') : w.verdict v' = w.verdict v := by
  unfold verdict
  have hdecoded := h.decode
  generalize History.ofJson? v = a at hdecoded ⊢
  generalize History.ofJson? v' = b at hdecoded ⊢
  cases hdecoded with
  | none => rfl
  | some hevents => rw [Option.map_some, Option.map_some, w.replay_of_reexported hf hevents]

/-- An exporter that writes event ids as texts, starts to count at eleven, and tells of timers. -/
theorem Worker.verdict_of_text_ids :
    let event (id : Json) (eventType : String) (attributes : List (String × Json)) : Json :=
      .obj [("eventId", id), ("eventType", .str eventType), ("attributes", .obj attributes)]
    let w : Worker :=
      { taskQueue := "queue"
        workflows := [⟨{ name := "Greet" },
          fun _ _ => .callActivity "wave" [] fun answer => .done answer⟩] }
    let v : Json := .obj [("events", .arr [
      event (.int 1) "WorkflowExecutionStarted" [("workflowType", .str "Greet")],
      event (.int 2) "ActivityTaskScheduled" [("activityType", .str "wave")],
      event (.int 3) "ActivityTaskCompleted" [("scheduledEventId", .int 2)]])]
    let v' : Json := .obj [("events", .arr [
      event (.str "11") "WorkflowExecutionStarted" [("workflowType", .str "Greet")],
      event (.str "12") "ActivityTaskScheduled" [("activityType", .str "wave")],
      event (.int 5) "TimerFired" [],
      event (.str "13") "ActivityTaskCompleted" [("scheduledEventId", .str "12")]])]
    w.verdict v' = w.verdict v ∧ w.verdict v = some (.ok ()) := by
  intro event w v v'
  have hinjective : InjectiveOnIds (· + 10) := fun n m _ _ h => by
    dsimp only at h
    omega
  have hevent {n : Int} (hn : IsEventId n) (hn' : IsEventId (n + 10)) (eventType : String)
      {fields fields' : List (String × Json)}
      (h : Export.Fields (Export.Attribute (· + 10)) fields fields') :
      Export.Event (· + 10) (event (.int n) eventType fields)
        (event (.str (toString (n + 10))) eventType fields') := by
    have hid : Export.EventField (· + 10) "eventId" (.int n) (.str (toString (n + 10))) :=
      ⟨fun _ => .toText hn hn', fun h => absurd h (by decide), fun h => absurd rfl h⟩
    have hname : Export.EventField (· + 10) "eventType" (.str eventType) (.str eventType) :=
      ⟨fun h => absurd h (by decide), fun h => absurd h (by decide), fun _ _ => rfl⟩
    have hattributes : Export.EventField (· + 10) "attributes" (.obj fields) (.obj fields') :=
      ⟨fun h => absurd h (by decide), fun _ => .named h, fun _ h => absurd rfl h⟩
    exact .named (.cons ⟨rfl, hid⟩ (.cons ⟨rfl, hname⟩ (.cons ⟨rfl, hattributes⟩ .nil)))
  have hother (key text : String) (hkey : key ≠ "scheduledEventId") :
      Export.Fields (Export.Attribute (· + 10)) [(key, .str text)] [(key, .str text)] :=
    .cons ⟨rfl, fun h => absurd h hkey, fun _ => rfl⟩ .nil
  have hreference : Export.Fields (Export.Attribute (· + 10)) [("scheduledEventId", .int 2)]
      [("scheduledEventId", .str "12")] :=
    .cons ⟨rfl, fun _ => .toText (n := 2) ⟨by decide, by decide⟩ ⟨by decide, by decide⟩,
      fun h => absurd rfl h⟩ .nil
  have hidle : Export.Idle (event (.int 5) "TimerFired" []) := ⟨_, rfl, rfl⟩
  have hevents : Export.OfHistory (· + 10) v v' := by
    refine .named (.cons ⟨rfl, fun _ => .items ?_, fun h => absurd rfl h⟩ .nil)
    refine .same (hevent (n := 1) ⟨by decide, by decide⟩ ⟨by decide, by decide⟩ _ ?_) ?_
    · exact hother "workflowType" "Greet" (by decide)
    refine .same (hevent (n := 2) ⟨by decide, by decide⟩ ⟨by decide, by decide⟩ _ ?_) ?_
    · exact hother "activityType" "wave" (by decide)
    refine .inserted hidle ?_
    exact .same (hevent (n := 3) ⟨by decide, by decide⟩ ⟨by decide, by decide⟩ _ hreference) .nil
  exact ⟨w.verdict_of_export hinjective hevents, rfl⟩

end Conformance
