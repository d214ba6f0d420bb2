import Conformance.Proofs.History.Exports
import Conformance.Proofs.History.Storing

/-!
# Histories are read as they are written

An event is written as a record, and the reader finds its fields again, whatever their order. So a
file of histories is read as the histories that have been stored in it, provided that its text is
read as the value that has been written.

## Main definitions

- `History.Sound` — what a recorded event can hold
- `FixtureStore.ReadsBack` — the text of a file is read as what has been written

## Main statements

- `History.ofJson?_encode` — a history is read as it is written
- `FixtureStore.read_of_store` — a file holds the histories that have been stored in it
-/

namespace Conformance

/-! ## Events -/

namespace HistoryEvent

/-- The event id is one, and the attributes are a value: their keys are in order, and none is there
twice. -/
structure Sound (e : HistoryEvent) : Prop where
  eventId : IsEventId e.eventId
  attributes : e.attributes.canonical = e.attributes

theorem canonical_encode (e : HistoryEvent) : e.encode.canonical =
    .obj [("attributes", e.attributes.canonical), ("eventId", .int e.eventId),
      ("eventType", .str e.eventType.text)] := by
  simp only [encode, EventType.encode, Json.canonical, Json.canonicalFields]
  rfl

/-- An event is read as it is written. -/
theorem decode?_encode {e : HistoryEvent} (h : e.Sound) :
    decode? e.encode.canonical.draft = some e := by
  have hid : decodeId? (.int e.eventId) = some e.eventId := by
    have hread := decodeId?_draft (.int e.eventId)
    rw [Export.eventRef?_int h.eventId, Json.draft] at hread
    exact hread
  have htype : EventType.decode? (.str e.eventType.text) = some e.eventType :=
    congrArg some e.eventType.ofText_text
  have hattributes : e.attributes.draft.value? = some e.attributes := by
    rw [Json.value?_draft, h.attributes]
  rw [canonical_encode, h.attributes]
  unfold decode?
  simp [Json.draft, Json.draftFields, Draft.fields?, Draft.fieldOnce?, required, optional, hid, htype,
    hattributes]

end HistoryEvent

/-! ## Histories -/

namespace History

/-- All events of the history can have been recorded. -/
def Sound (h : History) : Prop := ∀ e ∈ h.events, e.Sound

theorem canonical_encode (h : History) : h.encode.canonical =
    .obj [("events", .arr (h.events.map fun e => e.encode.canonical))] := by
  simp only [encode, Json.canonical, Json.canonicalFields, Json.canonicalItems_eq_map, List.map_map]
  rfl

theorem mapM_of_forall {α β : Type} {read : α → Option β} {write : β → α} {values : List β}
    (h : ∀ b ∈ values, read (write b) = some b) : (values.map write).mapM read = some values := by
  induction values with
  | nil => rfl
  | cons b rest ih =>
    rw [List.map_cons, List.mapM_cons, h b List.mem_cons_self,
      ih fun b hb => h b (List.mem_cons_of_mem _ hb)]
    rfl

/-- A history is read as it is written. -/
theorem ofJson?_encode {h : History} (hsound : h.Sound) : ofJson? h.encode.canonical = some h := by
  have hevents : (h.events.map fun e => e.encode.canonical.draft).mapM HistoryEvent.decode? =
      some h.events :=
    mapM_of_forall fun e he => HistoryEvent.decode?_encode (hsound e he)
  rw [canonical_encode]
  unfold ofJson? decode?
  simp [Json.draft, Json.draftFields, Json.draftItems_eq_map, Draft.fields?, Draft.fieldOnce?,
    Draft.arr?, required, Function.comp_def, hevents]

end History

/-! ## Files -/

namespace FixtureStore

variable {s : FixtureStore} {files files' : FileTree} {version path : String}
  {histories : List History}

/-- The text of a file of histories is read as the value that has been written. -/
def ReadsBack (histories : List History) : Prop :=
  Json.ofText? (fileText histories) = some (Json.arr (histories.map History.encode)).canonical

instance (histories : List History) : Decidable (ReadsBack histories) :=
  inferInstanceAs (Decidable (_ = _))

theorem read_of_text (hback : ReadsBack histories) (hsound : ∀ h ∈ histories, h.Sound)
    (htext : files.readText (Text.bytesOf path) = .ok (fileText histories)) :
    read files path = .ok histories := by
  have hvalues : ((histories.map History.encode).map Json.canonical).mapM History.ofJson? =
      some histories := by
    rw [List.map_map]
    exact History.mapM_of_forall fun h hh => History.ofJson?_encode (hsound h hh)
  unfold read
  rw [htext]
  dsimp only
  rw [hback, Json.canonical, Json.canonicalItems_eq_map]
  simp only [Option.bind_some, Json.arr?, hvalues]

/-- A file holds the histories that have been stored in it. -/
theorem read_of_store (hback : ReadsBack histories) (hsound : ∀ h ∈ histories, h.Sound)
    (hstore : s.store files version histories = (.ok path, files')) :
    read files' (s.pathOf version) = .ok histories :=
  read_of_text hback hsound (written_of_store hstore).text

end FixtureStore

end Conformance
