import Mathlib.Data.List.Forall2
import Conformance.History.Codec
import Conformance.Proofs.Json.Canonical
import Conformance.Proofs.Replay.Outcomes
import Conformance.Proofs.Text.Numerals

/-!
# One history in different exports

Exporters write event ids as numbers or as texts, and number events as they like. Some leave out
events that others write. What is read from two such exports of a history differs in the ids of
the events only, and in events that mean nothing here.

## Main definitions

- `Export.Id`, `Export.Event`, `Export.OfHistory` — values that are exports of the same, under
  other event ids
- `HistoryEvent.Renumbered`, `History.Reexported` — the same for what has been read

## Main statements

- `HistoryEvent.decodeId?_draft` — event ids and references are read by the same rule
- `Export.OfHistory.decode` — what is read from two exports
-/

namespace Conformance

open History (eventRef? reference?)

/-- A number that an event id can be. -/
def IsEventId (n : Int) : Prop := Text.minSigned64 ≤ n ∧ n ≤ Text.maxSigned64

/-- Whether events of a type mean nothing to a replay: those of updates, and those of which not
even the type is known. -/
def EventType.isIdle : EventType → Bool
  | workflowExecutionUpdateAccepted | workflowExecutionUpdateRejected
  | workflowExecutionUpdateCompleted | unspecified => true
  | _ => false

/-! ## What has been read -/

/-- The same event under another event id. -/
structure HistoryEvent.Renumbered (f : Int → Int) (e e' : HistoryEvent) : Prop where
  eventType : e'.eventType = e.eventType
  inRange : IsEventId e.eventId
  eventId : e'.eventId = f e.eventId
  others : ∀ key, key ≠ "scheduledEventId" → e'.attributes.get? key = e.attributes.get? key
  reference : reference? e' = (reference? e).map f

/-- The same events under other event ids, but for events that mean nothing. -/
inductive History.Reexported (f : Int → Int) : List HistoryEvent → List HistoryEvent → Prop
  | nil : Reexported f [] []
  | same {e e' : HistoryEvent} {es es' : List HistoryEvent} (h : e.Renumbered f e')
      (rest : Reexported f es es') : Reexported f (e :: es) (e' :: es')
  | inserted {e' : HistoryEvent} {es es' : List HistoryEvent} (h : e'.eventType.isIdle = true)
      (rest : Reexported f es es') : Reexported f es (e' :: es')
  | removed {e : HistoryEvent} {es es' : List HistoryEvent} (h : e.eventType.isIdle = true)
      (rest : Reexported f es es') : Reexported f (e :: es) es'

/-! ## Exports -/

namespace Export

/-- Two forms of an event id: the number in the second one is that of the first one under another
name. What is no event id stays as it is. -/
inductive Id (f : Int → Int) : Json → Json → Prop
  | renumbered {v v' : Json} {n : Int} (h : eventRef? v = some n) (h' : eventRef? v' = some (f n)) :
      Id f v v'
  | other {v : Json} (h : eventRef? v = none) : Id f v v

/-- Two lists of fields with the same keys, in which fields with the same key are related. -/
abbrev Fields (R : String → Json → Json → Prop) :
    List (String × Json) → List (String × Json) → Prop :=
  List.Forall₂ fun a b => a.1 = b.1 ∧ R a.1 a.2 b.2

/-- Two forms of a record with fields of certain names. Both give the fields by name, or both by
position. What is no record stays as it is. -/
inductive Record (names : List String) (R : String → Json → Json → Prop) : Json → Json → Prop
  | named {fields fields' : List (String × Json)} (h : Fields R fields fields') :
      Record names R (.obj fields) (.obj fields')
  | placed {items items' : List Json} (hlength : items.length = items'.length)
      (h : ∀ (i : Nat) (name : String), names[i]? = some name →
        Option.Rel (R name) items[i]? items'[i]?) :
      Record names R (.arr items) (.arr items')
  | other {v : Json} (hobj : ∀ fields, v ≠ .obj fields) (harr : ∀ items, v ≠ .arr items) :
      Record names R v v

/-- Two forms of an attribute. -/
structure Attribute (f : Int → Int) (key : String) (v v' : Json) : Prop where
  reference : key = "scheduledEventId" → Id f v v'
  other : key ≠ "scheduledEventId" → v' = v

/-- Two forms of the attributes of an event. -/
inductive Attributes (f : Int → Int) : Json → Json → Prop
  | named {fields fields' : List (String × Json)} (h : Fields (Attribute f) fields fields') :
      Attributes f (.obj fields) (.obj fields')
  | other {v : Json} (hobj : ∀ fields, v ≠ .obj fields) : Attributes f v v

/-- Two forms of a field of an event. -/
structure EventField (f : Int → Int) (name : String) (v v' : Json) : Prop where
  eventId : name = "eventId" → Id f v v'
  attributes : name = "attributes" → Attributes f v v'
  other : name ≠ "eventId" → name ≠ "attributes" → v' = v

/-- Two forms of an event. -/
abbrev Event (f : Int → Int) : Json → Json → Prop :=
  Record ["eventId", "eventType", "attributes"] (EventField f)

/-- An event that means nothing to a replay. -/
def Idle (v : Json) : Prop := ∃ e, HistoryEvent.decode? v.draft = some e ∧ e.eventType.isIdle = true

/-- Two forms of a list of events, but for events that mean nothing. -/
inductive Events (f : Int → Int) : List Json → List Json → Prop
  | nil : Events f [] []
  | same {v v' : Json} {vs vs' : List Json} (h : Event f v v') (rest : Events f vs vs') :
      Events f (v :: vs) (v' :: vs')
  | inserted {v' : Json} {vs vs' : List Json} (h : Idle v') (rest : Events f vs vs') :
      Events f vs (v' :: vs')
  | removed {v : Json} {vs vs' : List Json} (h : Idle v) (rest : Events f vs vs') :
      Events f (v :: vs) vs'

/-- Two forms of the events of a history. What is no list stays as it is. -/
inductive EventList (f : Int → Int) : Json → Json → Prop
  | items {vs vs' : List Json} (h : Events f vs vs') : EventList f (.arr vs) (.arr vs')
  | other {v : Json} (harr : ∀ vs, v ≠ .arr vs) : EventList f v v

/-- Two forms of a field of a history. -/
structure HistoryField (f : Int → Int) (name : String) (v v' : Json) : Prop where
  events : name = "events" → EventList f v v'
  other : name ≠ "events" → v' = v

/-- Two exports of a history, in which the event ids may be written differently, may be other
ones, and events that mean nothing may be added or left out. -/
abbrev OfHistory (f : Int → Int) : Json → Json → Prop := Record ["events"] (HistoryField f)

/-! ## Event ids -/

theorem eventRef?_mem {v : Json} {n : Int} (h : eventRef? v = some n) : IsEventId n := by
  unfold eventRef? at h
  split at h
  · rw [Text.signed?, Option.filter_eq_some_iff] at h
    simpa [IsEventId] using h.2
  · unfold Json.signed64? at h
    split at h
    · split at h
      · cases h
        assumption
      · cases h
    · cases h

theorem eventRef?_int {n : Int} (h : IsEventId n) : eventRef? (.int n) = some n :=
  if_pos h

theorem eventRef?_toString {n : Int} (h : IsEventId n) :
    eventRef? (.str (toString n)) = some n :=
  Text.signed?_toString h.1 h.2

/-- A number may be written as a decimal text, and get another name. -/
theorem Id.toText {f : Int → Int} {n : Int} (h : IsEventId n) (h' : IsEventId (f n)) :
    Id f (.int n) (.str (toString (f n))) :=
  .renumbered (eventRef?_int h) (eventRef?_toString h')

theorem eventRef?_canonical (v : Json) : eventRef? v.canonical = eventRef? v := by
  cases v <;> simp only [Json.canonical] <;> rfl

/-- What an id denotes is renamed. -/
theorem Id.eventRef? {f : Int → Int} {v v' : Json} (h : Id f v v') :
    History.eventRef? v' = (History.eventRef? v).map f := by
  cases h with
  | renumbered h h' => rw [h, h', Option.map_some]
  | other h => rw [h, Option.map_none]

end Export

/-- Event ids and references to them are read by the same rule. -/
theorem HistoryEvent.decodeId?_draft (v : Json) : decodeId? v.draft = eventRef? v := by
  cases v <;> simp only [Json.draft] <;> rfl

namespace Export

/-! ## Results that are there on both sides -/

section

variable {α β γ δ : Type} {P : α → β → Prop} {Q : γ → δ → Prop} {a : Option α} {b : Option β}

theorem rel_cases (h : Option.Rel P a b) :
    a = none ∧ b = none ∨ ∃ x y, a = some x ∧ b = some y ∧ P x y := by
  cases h with
  | none => exact .inl ⟨rfl, rfl⟩
  | some h => exact .inr ⟨_, _, rfl, rfl, h⟩

theorem rel_bind (h : Option.Rel P a b) {f : α → Option γ} {g : β → Option δ}
    (hnext : ∀ x y, P x y → Option.Rel Q (f x) (g y)) : Option.Rel Q (a >>= f) (b >>= g) := by
  cases h with
  | none => exact .none
  | some h => exact hnext _ _ h

end

/-! ## Records -/

/-- Two drafts of values that are related, or none. -/
inductive Drafts (R : Json → Json → Prop) : Option Draft → Option Draft → Prop
  | absent : Drafts R none none
  | present {v v' : Json} (h : R v v') : Drafts R (some v.draft) (some v'.draft)

/-- Fields that are related one by one. -/
inductive Aligned (R : String → Json → Json → Prop) :
    List String → List (Option Draft) → List (Option Draft) → Prop
  | nil : Aligned R [] [] []
  | cons {name : String} {names : List String} {d d' : Option Draft}
      {ds ds' : List (Option Draft)} (h : Drafts (R name) d d') (rest : Aligned R names ds ds') :
      Aligned R (name :: names) (d :: ds) (d' :: ds')

variable {R : String → Json → Json → Prop} {fields fields' : List (String × Json)}

theorem Fields.filter (h : Fields R fields fields') (key : String) :
    Fields R (fields.filter fun a => a.1 = key) (fields'.filter fun a => a.1 = key) := by
  induction h with
  | nil => exact .nil
  | @cons a b l l' hab h ih =>
    rw [List.filter_cons, List.filter_cons, ← hab.1]
    split
    · exact .cons hab ih
    · exact ih

theorem filter_draftFields (fields : List (String × Json)) (key : String) :
    (Json.draftFields fields).filter (fun a => a.1 = key) =
      Json.draftFields (fields.filter fun a => a.1 = key) := by
  rw [Json.draftFields_eq_map, Json.draftFields_eq_map, List.filter_map]
  rfl

/-- The fields of one name are related, or there is an object that repeats them. -/
theorem fieldOnce?_cases (h : Fields R fields fields') (key : String) :
    Draft.fieldOnce? key (Json.draftFields fields) = none ∧
        Draft.fieldOnce? key (Json.draftFields fields') = none ∨
      ∃ d d', Draft.fieldOnce? key (Json.draftFields fields) = some d ∧
        Draft.fieldOnce? key (Json.draftFields fields') = some d' ∧ Drafts (R key) d d' := by
  have hkey : ∀ a ∈ fields.filter (fun a => a.1 = key), a.1 = key := fun a ha => by
    simpa using (List.mem_filter.mp ha).2
  have hfilter := h.filter key
  unfold Draft.fieldOnce?
  rw [filter_draftFields, filter_draftFields]
  generalize fields.filter (fun a => a.1 = key) = found at hkey hfilter ⊢
  generalize fields'.filter (fun a => a.1 = key) = found' at hfilter ⊢
  cases hfilter with
  | nil => exact .inr ⟨none, none, rfl, rfl, .absent⟩
  | @cons a b l l' hab hrest =>
    cases hrest with
    | nil =>
      obtain rfl := hkey a List.mem_cons_self
      exact .inr ⟨some a.2.draft, some b.2.draft, rfl, rfl, .present hab.2⟩
    | cons hab' hrest => exact .inl ⟨rfl, rfl⟩

theorem mapM_fieldOnce? (h : Fields R fields fields') (names : List String) :
    names.mapM (Draft.fieldOnce? · (Json.draftFields fields)) = none ∧
        names.mapM (Draft.fieldOnce? · (Json.draftFields fields')) = none ∨
      ∃ ds ds', names.mapM (Draft.fieldOnce? · (Json.draftFields fields)) = some ds ∧
        names.mapM (Draft.fieldOnce? · (Json.draftFields fields')) = some ds' ∧
        Aligned R names ds ds' := by
  induction names with
  | nil => exact .inr ⟨[], [], rfl, rfl, .nil⟩
  | cons name names ih =>
    rw [List.mapM_cons, List.mapM_cons]
    obtain ⟨h₁, h₂⟩ | ⟨d, d', h₁, h₂, hdrafts⟩ := fieldOnce?_cases h name
    · exact .inl ⟨by rw [h₁]; rfl, by rw [h₂]; rfl⟩
    · obtain ⟨h₃, h₄⟩ | ⟨ds, ds', h₃, h₄, haligned⟩ := ih
      · exact .inl ⟨by rw [h₁, h₃]; rfl, by rw [h₂, h₄]; rfl⟩
      · exact .inr ⟨_, _, by rw [h₁, h₃]; rfl, by rw [h₂, h₄]; rfl, .cons hdrafts haligned⟩

theorem aligned_absent (R : String → Json → Json → Prop) (names : List String) :
    Aligned R names (List.replicate names.length none) (List.replicate names.length none) := by
  induction names with
  | nil => exact .nil
  | cons name names ih => exact .cons .absent ih

theorem aligned_placed {names : List String} {items items' : List Json}
    (hlength : items.length = items'.length) (hle : items.length ≤ names.length)
    (h : ∀ (i : Nat) (name : String), names[i]? = some name →
        Option.Rel (R name) items[i]? items'[i]?) :
    Aligned R names
      (items.map (fun v => some v.draft) ++ List.replicate (names.length - items.length) none)
      (items'.map (fun v => some v.draft) ++ List.replicate (names.length - items'.length) none) := by
  induction names generalizing items items' with
  | nil =>
    obtain rfl := List.length_eq_zero_iff.mp (Nat.le_zero.mp hle)
    obtain rfl := List.length_eq_zero_iff.mp hlength.symm
    exact .nil
  | cons name names ih =>
    cases items with
    | nil =>
      obtain rfl := List.length_eq_zero_iff.mp hlength.symm
      exact aligned_absent R (name :: names)
    | cons v items =>
      cases items' with
      | nil => cases hlength
      | cons v' items' =>
        have hrest := ih (Nat.succ.inj hlength) (Nat.le_of_succ_le_succ hle) fun i => h (i + 1)
        simp only [List.map_cons, List.length_cons, Nat.add_sub_add_right, List.cons_append]
        cases h 0 name rfl with
        | some hrel => exact .cons (.present hrel) hrest

/-- Of two forms of a record both have their fields, and these are related, or none has. -/
theorem Record.fields? {names : List String} {v v' : Json} (h : Record names R v v') :
    v.draft.fields? names = none ∧ v'.draft.fields? names = none ∨
      ∃ ds ds', v.draft.fields? names = some ds ∧ v'.draft.fields? names = some ds' ∧
        Aligned R names ds ds' := by
  cases h with
  | named h =>
    simp only [Json.draft, Draft.fields?]
    exact mapM_fieldOnce? h names
  | @placed items items' hlength h =>
    simp only [Json.draft, Draft.fields?, Json.draftItems_eq_map, List.length_map, List.map_map]
    by_cases hle : items.length ≤ names.length
    · rw [if_pos hle, if_pos (hlength ▸ hle)]
      exact .inr ⟨_, _, rfl, rfl, aligned_placed hlength hle h⟩
    · rw [if_neg hle, if_neg (hlength ▸ hle)]
      exact .inl ⟨rfl, rfl⟩
  | other hobj harr =>
    have hnone : v.draft.fields? names = none := by
      cases v with
      | obj fields => exact absurd rfl (hobj fields)
      | arr items => exact absurd rfl (harr items)
      | _ => simp only [Json.draft, Draft.fields?]
    exact .inl ⟨hnone, hnone⟩

/-! ## Events -/

variable {f : Int → Int}

theorem Fields.findField (h : Fields R fields fields') (key : String) :
    Option.Rel (R key) (Json.findField key fields) (Json.findField key fields') := by
  induction h with
  | nil => exact .none
  | @cons a b l l' hab h ih =>
    obtain ⟨hkey, hrel⟩ := hab
    obtain ⟨k, v⟩ := a
    obtain ⟨k', v'⟩ := b
    obtain rfl : k = k' := hkey
    by_cases hk : k = key
    · subst hk
      simpa [Json.findField] using Option.Rel.some hrel
    · simpa [Json.findField, hk] using ih

/-- The attributes that count are related. -/
theorem Attributes.field? {v v' : Json} (h : Attributes f v v') (key : String) :
    Option.Rel (Attribute f key) (v.field? key) (v'.field? key) := by
  cases h with
  | named h => exact Fields.findField (List.rel_reverse h) key
  | other hobj =>
    have hnone : v.field? key = none := by
      cases v with
      | obj fields => exact absurd rfl (hobj fields)
      | _ => rfl
    rw [hnone]
    exact .none

theorem Attributes.get?_canonical {v v' : Json} (h : Attributes f v v') {key : String}
    (hkey : key ≠ "scheduledEventId") : v'.canonical.get? key = v.canonical.get? key := by
  rw [Json.get?_canonical, Json.get?_canonical]
  obtain ⟨h₁, h₂⟩ | ⟨a, a', h₁, h₂, hrel⟩ := rel_cases (h.field? key)
  · rw [h₁, h₂]
  · rw [h₁, h₂, hrel.other hkey]

theorem Attributes.reference {v v' : Json} (h : Attributes f v v') :
    (v'.canonical.get? "scheduledEventId").bind eventRef? =
      ((v.canonical.get? "scheduledEventId").bind eventRef?).map f := by
  rw [Json.get?_canonical, Json.get?_canonical]
  obtain ⟨h₁, h₂⟩ | ⟨a, a', h₁, h₂, hrel⟩ := rel_cases (h.field? "scheduledEventId")
  · rw [h₁, h₂]
    rfl
  · rw [h₁, h₂]
    simp only [Option.map_some, Option.bind_some, eventRef?_canonical]
    exact (hrel.reference rfl).eventRef?

variable {d d' : Option Draft}

theorem Drafts.eventId (h : Drafts (EventField f "eventId") d d') :
    required HistoryEvent.decodeId? d' = (required HistoryEvent.decodeId? d).map f ∧
      ∀ n, required HistoryEvent.decodeId? d = some n → IsEventId n := by
  cases h with
  | absent => exact ⟨rfl, fun n hn => nomatch hn⟩
  | @present v v' h =>
    simp only [required, Option.bind_some, HistoryEvent.decodeId?_draft]
    exact ⟨(h.eventId rfl).eventRef?, fun n => eventRef?_mem⟩

theorem Drafts.eventType (h : Drafts (EventField f "eventType") d d') : d' = d := by
  cases h with
  | absent => rfl
  | present h => rw [h.other (by decide) (by decide)]

theorem Drafts.attributes (h : Drafts (EventField f "attributes") d d') :
    ∃ a a', optional .null Draft.value? d = some a ∧ optional .null Draft.value? d' = some a' ∧
      (∀ key, key ≠ "scheduledEventId" → a'.get? key = a.get? key) ∧
      (a'.get? "scheduledEventId").bind eventRef? =
        ((a.get? "scheduledEventId").bind eventRef?).map f := by
  cases h with
  | absent => exact ⟨.null, .null, rfl, rfl, fun _ _ => rfl, rfl⟩
  | @present v v' h =>
    have hattributes := h.attributes rfl
    exact ⟨v.canonical, v'.canonical, Json.value?_draft v, Json.value?_draft v',
      fun _ => hattributes.get?_canonical, hattributes.reference⟩

/-- Of two forms of an event both can be read, or none. What is read differs in the event id. -/
theorem Event.decode {v v' : Json} (h : Event f v v') :
    Option.Rel (HistoryEvent.Renumbered f) (HistoryEvent.decode? v.draft)
      (HistoryEvent.decode? v'.draft) := by
  unfold HistoryEvent.decode?
  obtain ⟨h₁, h₂⟩ | ⟨ds, ds', h₁, h₂, haligned⟩ := h.fields?
  · rw [h₁, h₂]
    exact .none
  rw [h₁, h₂]
  clear h₁ h₂
  obtain _ | ⟨hid, _ | ⟨htype, _ | ⟨hattributes, _ | _⟩⟩⟩ := haligned
  obtain ⟨a, a', ha, ha', hothers, hreference⟩ := hattributes.attributes
  obtain ⟨hid, hrange⟩ := hid.eventId
  simp only [bind, Option.bind, hid, htype.eventType, ha, ha']
  clear hid
  generalize required HistoryEvent.decodeId? _ = n at hrange ⊢
  generalize required EventType.decode? _ = t
  cases n with
  | none => exact .none
  | some n =>
    cases t with
    | none => exact .none
    | some t => exact .some ⟨rfl, hrange n rfl, rfl, hothers, hreference⟩

/-! ## Histories -/

/-- Of two forms of a list of events both can be read, or none. -/
theorem Events.decode {vs vs' : List Json} (h : Events f vs vs') :
    Option.Rel (History.Reexported f) ((vs.map Json.draft).mapM HistoryEvent.decode?)
      ((vs'.map Json.draft).mapM HistoryEvent.decode?) := by
  induction h with
  | nil => exact .some .nil
  | same h _ ih =>
    rw [List.map_cons, List.map_cons, List.mapM_cons, List.mapM_cons]
    refine rel_bind h.decode fun e e' hevent => ?_
    exact rel_bind ih fun es es' hrest => .some (.same hevent hrest)
  | inserted h _ ih =>
    obtain ⟨e', he', hidle⟩ := h
    rw [List.map_cons, List.mapM_cons, he']
    obtain ⟨h₁, h₂⟩ | ⟨es, es', h₁, h₂, hrest⟩ := rel_cases ih
    · rw [h₁, h₂]
      exact .none
    · rw [h₁, h₂]
      exact .some (.inserted hidle hrest)
  | removed h _ ih =>
    obtain ⟨e, he, hidle⟩ := h
    rw [List.map_cons, List.mapM_cons, he]
    obtain ⟨h₁, h₂⟩ | ⟨es, es', h₁, h₂, hrest⟩ := rel_cases ih
    · rw [h₁, h₂]
      exact .none
    · rw [h₁, h₂]
      exact .some (.removed hidle hrest)

/-- Of two exports of a history both can be read, or none. What is read differs in the event ids,
and in events that mean nothing. -/
theorem OfHistory.decode {v v' : Json} (h : OfHistory f v v') :
    Option.Rel (fun h h' => History.Reexported f h.events h'.events) (History.ofJson? v)
      (History.ofJson? v') := by
  unfold History.ofJson? History.decode?
  obtain ⟨h₁, h₂⟩ | ⟨ds, ds', h₁, h₂, haligned⟩ := h.fields?
  · rw [h₁, h₂]
    exact .none
  rw [h₁, h₂]
  clear h₁ h₂
  obtain _ | ⟨hevents, _ | _⟩ := haligned
  cases hevents with
  | absent => exact .none
  | @present v v' hfield =>
    cases hfield.events rfl with
    | @items vs vs' h =>
      simp only [required, Json.draft, Draft.arr?, Json.draftItems_eq_map]
      exact rel_bind h.decode fun es es' hevents => .some hevents
    | other harr =>
      have hnone : v.draft.arr? = none := by
        cases v with
        | arr items => exact absurd rfl (harr items)
        | _ => simp only [Json.draft, Draft.arr?]
      simp only [bind, Option.bind, required, hnone]
      exact .none

end Export

end Conformance
