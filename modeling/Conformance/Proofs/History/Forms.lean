import Conformance.Proofs.History.Reading
import Conformance.Proofs.Json.Forms
import Conformance.Summary.Entry

/-!
# Recorded data is read back

Events, histories, executions, reports and summary entries are written in one form each. The forms in
which they are read are described here, one inside the other, and every one of them is read as the value
that the written form stands for. So data that is read and written again keeps its meaning.

## Main definitions

- `HistoryEvent.IdForm`, `EventType.Form` — the forms of event ids and event types
- `HistoryEvent.Form`, `History.Form`, `Execution.Form`, `ExecutionInfo.Form`, `SummaryEntry.Form` —
  the forms of records

## Main statements

- `recorded_data_reads_back` — all of them are read back
-/

namespace Conformance

/-! ## Parts of an event -/

namespace HistoryEvent

/-- The forms of an event id: a number, or a decimal text of it. -/
inductive IdForm (n : Int) : Draft → Prop
  | number (h : IsEventId n) : IdForm n (.int n)
  | text {s : String} (h : IsEventId n) (htext : Text.Decimal s.toList n) : IdForm n (.str s)

theorem reads_id : Reads decodeId? IdForm := by
  intro n d
  constructor
  · intro h
    unfold decodeId? at h
    split at h
    · obtain ⟨htext, hn⟩ := Text.signed?_eq_some_iff.mp h
      exact .text hn htext
    · obtain ⟨rfl, hn⟩ := (reads_int _ _ n d).mp h
      exact .number hn
  · rintro (h | ⟨h, htext⟩)
    · exact (reads_int _ _ n _).mpr ⟨rfl, h⟩
    · exact Text.signed?_eq_some_iff.mpr ⟨htext, h⟩

end HistoryEvent

namespace EventType

/-- The forms of an event type: a variant of its name. A name that is not known stands for an event
type that is not specified. -/
inductive Form : EventType → Draft → Prop
  | known {t : EventType} {d : Draft} (h : Draft.VariantOf t.text d) : Form t d
  | unknown {name : String} {d : Draft} (h : Draft.VariantOf name d)
      (hname : ∀ t : EventType, t.text ≠ name) : Form unspecified d

theorem ofText_of_unknown {name : String} (h : ∀ t : EventType, t.text ≠ name) :
    ofText name = unspecified := by
  rw [ofText, List.find?_eq_none.mpr fun t _ => by simpa using h t]
  rfl

theorem reads_eventType : Reads decode? Form := by
  intro t d
  rw [decode?, Option.map_eq_some_iff]
  constructor
  · rintro ⟨name, hname, rfl⟩
    have hvariant := Draft.variant?_eq_some_iff.mp hname
    by_cases hknown : ∃ t : EventType, t.text = name
    · obtain ⟨t, rfl⟩ := hknown
      rw [ofText_text]
      exact .known hvariant
    · have hunknown := not_exists.mp hknown
      rw [ofText_of_unknown hunknown]
      exact .unknown hvariant hunknown
  · rintro (h | ⟨h, hname⟩)
    · exact ⟨_, Draft.variant?_eq_some_iff.mpr h, ofText_text _⟩
    · exact ⟨_, Draft.variant?_eq_some_iff.mpr h, ofText_of_unknown hname⟩

end EventType

/-! ## Events -/

namespace HistoryEvent

/-- The forms of an event. The attributes may be left out, and are null then. -/
inductive Form (e : HistoryEvent) : Draft → Prop
  | record {d : Draft} {eventId eventType attributes : Option Draft}
      (hfields : Draft.RecordOf ["eventId", "eventType", "attributes"]
        [eventId, eventType, attributes] d)
      (hid : Given IdForm e.eventId eventId) (htype : Given EventType.Form e.eventType eventType)
      (hattributes : GivenOr .null Draft.ValueOf e.attributes attributes) : Form e d

theorem reads_event : Reads decode? Form := by
  intro e d
  constructor
  · intro h
    obtain ⟨fields, hfields, h⟩ := Option.bind_eq_some_iff.mp h
    split at h
    · obtain ⟨n, hid, h⟩ := Option.bind_eq_some_iff.mp h
      obtain ⟨t, htype, h⟩ := Option.bind_eq_some_iff.mp h
      obtain ⟨a, hattributes, h⟩ := Option.bind_eq_some_iff.mp h
      cases h
      exact .record (Draft.fields?_eq_some_iff.mp hfields) (reads_id.required.mp hid)
        (EventType.reads_eventType.required.mp htype) (reads_value.optional.mp hattributes)
    · cases h
  · rintro ⟨hfields, hid, htype, hattributes⟩
    unfold decode?
    simp only [Draft.fields?_eq_some_iff.mpr hfields, reads_id.required.mpr hid,
      EventType.reads_eventType.required.mpr htype, reads_value.optional.mpr hattributes,
      Option.bind_eq_bind, Option.bind_some]
    rfl

theorem Form.sound {e : HistoryEvent} {d : Draft} (h : Form e d) : e.Sound := by
  obtain ⟨-, hid, -, hattributes⟩ := h
  constructor
  · obtain ⟨h | ⟨h, -⟩⟩ := hid <;> exact h
  · generalize e.attributes = a at hattributes ⊢
    cases hattributes with
    | present h => exact Json.canonical_of_value? _ h
    | absent => simp only [Json.canonical]

/-- Both orders of the fields are forms of the event. -/
theorem Sound.written {e : HistoryEvent} (h : e.Sound) :
    Form e e.encode.draft ∧ Form e e.encode.canonical.draft := by
  have hid : Given IdForm e.eventId (some (.int e.eventId)) := .present (.number h.eventId)
  have htype : Given EventType.Form e.eventType (some (.str e.eventType.text)) :=
    .present (.known .text)
  have hvalue : e.attributes.draft.value? = some e.attributes := by
    rw [Json.value?_draft, h.attributes]
  have hattributes : GivenOr .null Draft.ValueOf e.attributes (some e.attributes.draft) :=
    .present hvalue
  constructor
  · simp only [encode, EventType.encode, Json.draft, Json.draftFields]
    exact .record (Draft.fields?_eq_some_iff.mp rfl) hid htype hattributes
  · rw [canonical_encode, h.attributes]
    simp only [Json.draft, Json.draftFields]
    exact .record (Draft.fields?_eq_some_iff.mp rfl) hid htype hattributes

end HistoryEvent

/-! ## Histories -/

namespace History

/-- The forms of a history. -/
inductive Form (h : History) : Draft → Prop
  | record {d : Draft} {events : Option Draft} (hfields : Draft.RecordOf ["events"] [events] d)
      (hevents : Given (Draft.ListOf HistoryEvent.Form) h.events events) : Form h d

theorem reads_history : Reads decode? Form := by
  intro h d
  constructor
  · intro hread
    obtain ⟨fields, hfields, hread⟩ := Option.bind_eq_some_iff.mp hread
    split at hread
    · obtain ⟨events, hevents, hread⟩ := Option.bind_eq_some_iff.mp hread
      cases hread
      exact .record (Draft.fields?_eq_some_iff.mp hfields)
        (HistoryEvent.reads_event.list.required.mp hevents)
    · cases hread
  · rintro ⟨hfields, hevents⟩
    unfold decode?
    simp only [Draft.fields?_eq_some_iff.mpr hfields, Option.bind_eq_bind, Option.bind_some,
      HistoryEvent.reads_event.list.required.mpr hevents]
    rfl

theorem Form.sound {h : History} {d : Draft} (hform : Form h d) : h.Sound := by
  obtain ⟨-, ⟨hlist⟩⟩ := hform
  intro e he
  obtain ⟨item, hitem⟩ := hlist.exists_form he
  exact hitem.sound

/-- Both orders of the fields are forms of the history. -/
theorem Sound.written {h : History} (hsound : h.Sound) :
    Form h h.encode.draft ∧ Form h h.encode.canonical.draft := by
  have hlist : ∀ order : Json → Json,
      (∀ e : HistoryEvent, e.Sound → HistoryEvent.Form e (order e.encode).draft) →
      Draft.ListOf HistoryEvent.Form h.events
        (.arr (h.events.map fun e => (order e.encode).draft)) := by
    intro order hwritten
    refine ⟨_, rfl, ?_⟩
    rw [List.forall₂_map_left_iff, List.forall₂_same]
    exact fun e he => hwritten e (hsound e he)
  constructor
  · simp only [encode, Json.draft, Json.draftFields, Json.draftItems_eq_map, List.map_map]
    exact .record (Draft.fields?_eq_some_iff.mp rfl) (.present (hlist id fun e he => he.written.1))
  · rw [canonical_encode]
    simp only [Json.draft, Json.draftFields, Json.draftItems_eq_map, List.map_map]
    exact .record (Draft.fields?_eq_some_iff.mp rfl)
      (.present (hlist Json.canonical fun e he => he.written.2))

end History

/-! ## Executions and reports -/

namespace ExecutionStatus

theorem ofText?_eq_some_iff {name : String} {s : ExecutionStatus} :
    ofText? name = some s ↔ s.text = name := by
  constructor
  · intro h
    simpa using List.find?_some h
  · rintro rfl
    exact ofText?_text s

/-- The forms of a status. -/
def Form (s : ExecutionStatus) (d : Draft) : Prop := Draft.VariantOf s.text d

theorem reads_status : Reads decode? Form := reads_variant fun _ _ => ofText?_eq_some_iff

end ExecutionStatus

namespace Execution

/-- The forms of the identity of a run. -/
inductive Form (e : Execution) : Draft → Prop
  | record {d : Draft} {workflowId runId : Option Draft}
      (hfields : Draft.RecordOf ["workflowId", "runId"] [workflowId, runId] d)
      (hworkflow : Given Draft.TextOf e.workflowId workflowId)
      (hrun : Given Draft.TextOf e.runId runId) : Form e d

theorem reads_execution : Reads decode? Form := by
  intro e d
  constructor
  · intro h
    obtain ⟨fields, hfields, h⟩ := Option.bind_eq_some_iff.mp h
    split at h
    · obtain ⟨workflowId, hworkflow, h⟩ := Option.bind_eq_some_iff.mp h
      obtain ⟨runId, hrun, h⟩ := Option.bind_eq_some_iff.mp h
      cases h
      exact .record (Draft.fields?_eq_some_iff.mp hfields) (reads_str.required.mp hworkflow)
        (reads_str.required.mp hrun)
    · cases h
  · rintro ⟨hfields, hworkflow, hrun⟩
    unfold decode?
    simp only [Draft.fields?_eq_some_iff.mpr hfields, Option.bind_eq_bind, Option.bind_some,
      reads_str.required.mpr hworkflow, reads_str.required.mpr hrun]
    rfl

theorem canonical_encode (e : Execution) : e.encode.canonical =
    .obj [("runId", .str e.runId), ("workflowId", .str e.workflowId)] := by
  simp only [encode, Json.canonical, Json.canonicalFields]
  rfl

/-- Both orders of the fields are forms of the identity of a run. -/
theorem written (e : Execution) : Form e e.encode.draft ∧ Form e e.encode.canonical.draft := by
  constructor
  · simp only [encode, Json.draft, Json.draftFields]
    exact .record (Draft.fields?_eq_some_iff.mp rfl) (.present rfl) (.present rfl)
  · simp only [canonical_encode, Json.draft, Json.draftFields]
    exact .record (Draft.fields?_eq_some_iff.mp rfl) (.present rfl) (.present rfl)

end Execution

namespace ExecutionInfo

/-- The number of events can be one: it is not beyond the numbers of 64 bits. -/
def Sound (i : ExecutionInfo) : Prop := i.historyLength ≤ Text.maxUnsigned64

/-- The forms of a report. -/
inductive Form (i : ExecutionInfo) : Draft → Prop
  | record {d : Draft} {execution workflowType taskQueue status historyLength : Option Draft}
      (hfields : Draft.RecordOf ["execution", "workflowType", "taskQueue", "status", "historyLength"]
        [execution, workflowType, taskQueue, status, historyLength] d)
      (hexecution : Given Execution.Form i.execution execution)
      (htype : Given Draft.TextOf i.workflowType workflowType)
      (hqueue : Given Draft.TextOf i.taskQueue taskQueue)
      (hstatus : Given ExecutionStatus.Form i.status status)
      (hlength : Given (Draft.NumberOf 0 Text.maxUnsigned64) i.historyLength historyLength) : Form i d

theorem reads_info : Reads decode? Form := by
  intro i d
  constructor
  · intro h
    obtain ⟨fields, hfields, h⟩ := Option.bind_eq_some_iff.mp h
    split at h
    · obtain ⟨length, hlength, h⟩ := Option.bind_eq_some_iff.mp h
      obtain ⟨execution, hexecution, h⟩ := Option.bind_eq_some_iff.mp h
      obtain ⟨workflowType, htype, h⟩ := Option.bind_eq_some_iff.mp h
      obtain ⟨taskQueue, hqueue, h⟩ := Option.bind_eq_some_iff.mp h
      obtain ⟨status, hstatus, h⟩ := Option.bind_eq_some_iff.mp h
      cases h
      have hgiven := (reads_int _ _).required.mp hlength
      have hlow : 0 ≤ length := by
        obtain ⟨-, hlow, -⟩ := hgiven
        exact hlow
      refine .record (Draft.fields?_eq_some_iff.mp hfields)
        (Execution.reads_execution.required.mp hexecution) (reads_str.required.mp htype)
        (reads_str.required.mp hqueue) (ExecutionStatus.reads_status.required.mp hstatus) ?_
      dsimp only
      rw [Int.toNat_of_nonneg hlow]
      exact hgiven
    · cases h
  · rintro ⟨hfields, hexecution, htype, hqueue, hstatus, hlength⟩
    unfold decode?
    simp only [Draft.fields?_eq_some_iff.mpr hfields, Option.bind_eq_bind, Option.bind_some,
      (reads_int _ _).required.mpr hlength, Execution.reads_execution.required.mpr hexecution,
      reads_str.required.mpr htype, reads_str.required.mpr hqueue,
      ExecutionStatus.reads_status.required.mpr hstatus]
    rfl

theorem Form.sound {i : ExecutionInfo} {d : Draft} (h : Form i d) : i.Sound := by
  obtain ⟨-, -, -, -, -, ⟨-, -, hhigh⟩⟩ := h
  exact Int.ofNat_le.mp hhigh

theorem canonical_encode (i : ExecutionInfo) : i.encode.canonical =
    .obj [("execution", i.execution.encode.canonical), ("historyLength", .int i.historyLength),
      ("status", .str i.status.text), ("taskQueue", .str i.taskQueue),
      ("workflowType", .str i.workflowType)] := by
  simp only [encode, ExecutionStatus.encode, Json.canonical, Json.canonicalFields]
  rfl

/-- Both orders of the fields are forms of the report. -/
theorem Sound.written {i : ExecutionInfo} (h : i.Sound) :
    Form i i.encode.draft ∧ Form i i.encode.canonical.draft := by
  have hlength : Given (Draft.NumberOf 0 Text.maxUnsigned64) (i.historyLength : Int)
      (some (.int i.historyLength)) :=
    .present ⟨rfl, Int.natCast_nonneg _, Int.ofNat_le.mpr h⟩
  constructor
  · simp only [encode, ExecutionStatus.encode, Json.draft, Json.draftFields]
    exact .record (Draft.fields?_eq_some_iff.mp rfl) (.present i.execution.written.1) (.present rfl)
      (.present rfl) (.present .text) hlength
  · simp only [canonical_encode, Json.draft, Json.draftFields]
    exact .record (Draft.fields?_eq_some_iff.mp rfl) (.present i.execution.written.2) (.present rfl)
      (.present rfl) (.present .text) hlength

end ExecutionInfo

/-! ## Summary entries -/

theorem OutcomeKind.ofText?_eq_some_iff {name : String} {k : OutcomeKind} :
    ofText? name = some k ↔ k.text = name := by
  constructor
  · intro h
    simpa using List.find?_some h
  · rintro rfl
    exact ofText?_text k

namespace SummaryEntry

/-- The forms of a summary entry. The message may be left out, and is empty then. -/
inductive Form (e : SummaryEntry) : Draft → Prop
  | record {d : Draft} {name outcome message : Option Draft}
      (hfields : Draft.RecordOf ["name", "outcome", "message"] [name, outcome, message] d)
      (hname : Given Draft.TextOf e.name name)
      (houtcome : Given (fun k => Draft.VariantOf (OutcomeKind.text k)) e.outcome outcome)
      (hmessage : GivenOr "" Draft.TextOf e.message message) : Form e d

theorem reads_entry : Reads decode? Form := by
  have hkind : Reads (fun d => d.variant?.bind OutcomeKind.ofText?)
      fun k => Draft.VariantOf (OutcomeKind.text k) :=
    reads_variant fun _ _ => OutcomeKind.ofText?_eq_some_iff
  intro e d
  constructor
  · intro h
    obtain ⟨fields, hfields, h⟩ := Option.bind_eq_some_iff.mp h
    split at h
    · obtain ⟨name, hname, h⟩ := Option.bind_eq_some_iff.mp h
      obtain ⟨outcome, houtcome, h⟩ := Option.bind_eq_some_iff.mp h
      obtain ⟨message, hmessage, h⟩ := Option.bind_eq_some_iff.mp h
      cases h
      exact .record (Draft.fields?_eq_some_iff.mp hfields) (reads_str.required.mp hname)
        (hkind.required.mp houtcome) (reads_str.optional.mp hmessage)
    · cases h
  · rintro ⟨hfields, hname, houtcome, hmessage⟩
    unfold decode?
    simp only [Draft.fields?_eq_some_iff.mpr hfields, Option.bind_eq_bind, Option.bind_some,
      reads_str.required.mpr hname, hkind.required.mpr houtcome, reads_str.optional.mpr hmessage]
    rfl

theorem canonical_encode (e : SummaryEntry) : e.encode.canonical =
    .obj [("message", .str e.message), ("name", .str e.name), ("outcome", .str e.outcome.text)] := by
  simp only [encode, Json.canonical, Json.canonicalFields]
  rfl

/-- Both orders of the fields are forms of the entry. -/
theorem written (e : SummaryEntry) : Form e e.encode.draft ∧ Form e e.encode.canonical.draft := by
  constructor
  · simp only [encode, Json.draft, Json.draftFields]
    exact .record (Draft.fields?_eq_some_iff.mp rfl) (.present rfl) (.present .text) (.present rfl)
  · simp only [canonical_encode, Json.draft, Json.draftFields]
    exact .record (Draft.fields?_eq_some_iff.mp rfl) (.present rfl) (.present .text) (.present rfl)

end SummaryEntry

/-! ## All of them -/

/-- Recorded data is read back from the form in which it is written. It is read from all its other forms
as well, which are those described here and no others, so what is read stays the same when it is written
and read again. -/
theorem recorded_data_reads_back :
    ReadsBack HistoryEvent.encode HistoryEvent.decode? HistoryEvent.Form HistoryEvent.Sound ∧
    ReadsBack History.encode History.decode? History.Form History.Sound ∧
    ReadsBack Execution.encode Execution.decode? Execution.Form (fun _ => True) ∧
    ReadsBack ExecutionInfo.encode ExecutionInfo.decode? ExecutionInfo.Form ExecutionInfo.Sound ∧
    ReadsBack ExecutionStatus.encode ExecutionStatus.decode? ExecutionStatus.Form (fun _ => True) ∧
    ReadsBack SummaryEntry.encode SummaryEntry.decode? SummaryEntry.Form (fun _ => True) := by
  have hstatus : ∀ s : ExecutionStatus, s.Form s.encode.draft ∧ s.Form s.encode.canonical.draft := by
    intro s
    simp only [ExecutionStatus.encode, Json.canonical, Json.draft]
    exact ⟨.text, .text⟩
  refine ⟨?_, ?_, ?_, ?_, ?_, ?_⟩
  · exact readsBack_of_forms HistoryEvent.reads_event (fun _ _ => HistoryEvent.Form.sound)
      fun _ => HistoryEvent.Sound.written
  · exact readsBack_of_forms History.reads_history (fun _ _ => History.Form.sound)
      fun _ => History.Sound.written
  · exact readsBack_of_forms Execution.reads_execution (fun _ _ _ => trivial)
      fun e _ => e.written
  · exact readsBack_of_forms ExecutionInfo.reads_info (fun _ _ => ExecutionInfo.Form.sound)
      fun _ => ExecutionInfo.Sound.written
  · exact readsBack_of_forms ExecutionStatus.reads_status (fun _ _ _ => trivial)
      fun s _ => hstatus s
  · exact readsBack_of_forms SummaryEntry.reads_entry (fun _ _ _ => trivial)
      fun e _ => e.written

example : History.decode? (.arr [.arr [.arr [.str "+07", .obj [("TimerFired", .null)]]]]) =
    some ⟨[⟨7, .unspecified, .null⟩]⟩ := by rfl

end Conformance
