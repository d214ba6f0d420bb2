import Mathlib.Data.List.Forall2
import Conformance.History.Codec
import Conformance.Proofs.Json.Canonical

/-!
# The forms in which records are read

A record is written in one form, and more than that one is read. Its fields may be given by name, among
others and in any order, or by position; some may be left out; a variant without data may be a name or
an object. These forms are described here without the readers, and each reader accepts its forms and
nothing else.

## Main definitions

- `Draft.VariantOf` — the forms of a variant without data
- `Draft.RecordOf` — the forms of a record with given fields
- `Draft.ListOf` — the form of a list
- `Reads` — a value is read from its forms and from nothing else
- `Given`, `GivenOr` — a field that has to be there, and one that may be left out
- `ReadsBack` — a type is read from the forms of its values, and what is written is one of them

## Main statements

- `Draft.variant?_eq_some_iff`, `Draft.fields?_eq_some_iff`, `Reads.list` — each reader accepts exactly
  its forms
- `readsBack_of_forms` — when a type is read back
-/

namespace Conformance

namespace Draft

variable {name : String} {names : List String} {members : List (String × Draft)}

/-! ## Variants -/

/-- A variant without data is its name, or an object with this one key that has no value. -/
inductive VariantOf (name : String) : Draft → Prop
  | text : VariantOf name (.str name)
  | object : VariantOf name (.obj [(name, .null)])

theorem variant?_eq_some_iff {d : Draft} : d.variant? = some name ↔ VariantOf name d := by
  constructor
  · intro h
    unfold variant? at h
    split at h
    · cases h
      exact .text
    · cases h
      exact .object
    · cases h
  · rintro (_ | _) <;> rfl

/-! ## Fields of an object -/

/-- What an object has under a name: nothing, or one field. -/
inductive MemberOf (members : List (String × Draft)) (name : String) : Option Draft → Prop
  | absent (h : ∀ m ∈ members, m.1 ≠ name) : MemberOf members name none
  | once {before after : List (String × Draft)} {d : Draft}
      (hsplit : members = before ++ (name, d) :: after) (hbefore : ∀ m ∈ before, m.1 ≠ name)
      (hafter : ∀ m ∈ after, m.1 ≠ name) : MemberOf members name (some d)

theorem filter_eq_nil_iff :
    members.filter (fun m => m.1 = name) = [] ↔ ∀ m ∈ members, m.1 ≠ name := by
  simp only [List.filter_eq_nil_iff, decide_eq_true_eq]

theorem fieldOnce?_eq_some_iff {field : Option Draft} :
    fieldOnce? name members = some field ↔ MemberOf members name field := by
  constructor
  · intro h
    unfold fieldOnce? at h
    split at h
    · rename_i hnone
      cases h
      exact .absent (filter_eq_nil_iff.mp hnone)
    · rename_i key d hone
      cases h
      obtain ⟨before, after, rfl, hbefore, hkey, hafter⟩ := List.filter_eq_cons_iff.mp hone
      obtain rfl : key = name := by simpa using hkey
      exact .once rfl (fun m hm => by simpa using hbefore m hm) (filter_eq_nil_iff.mp hafter)
    · cases h
  · intro h
    unfold fieldOnce?
    cases h with
    | absent h => rw [filter_eq_nil_iff.mpr h]
    | once hsplit hbefore hafter =>
      rw [hsplit, List.filter_append, List.filter_cons_of_pos (by simp),
        filter_eq_nil_iff.mpr hbefore, filter_eq_nil_iff.mpr hafter]
      rfl

/-! ## Records -/

/-- The forms of a record with fields of these names, in this order; a field that is left out is
`none`. In an object there may be other members, and each name is there once at most. An array has the
fields by position; only at its end some may be missing. -/
inductive RecordOf (names : List String) (fields : List (Option Draft)) : Draft → Prop
  | named {members : List (String × Draft)} (h : List.Forall₂ (MemberOf members) names fields) :
      RecordOf names fields (.obj members)
  | placed {items : List Draft} {missing : Nat} (hlength : items.length + missing = names.length)
      (h : fields = items.map some ++ List.replicate missing none) :
      RecordOf names fields (.arr items)

theorem mapM_eq_some_iff {α β : Type} {read : α → Option β} {as : List α} {bs : List β} :
    as.mapM read = some bs ↔ List.Forall₂ (fun a b => read a = some b) as bs := by
  induction as generalizing bs with
  | nil =>
    rw [List.mapM_nil, List.forall₂_nil_left_iff]
    exact ⟨fun h => (Option.some.inj h).symm, fun h => h ▸ rfl⟩
  | cons a as ih =>
    rw [List.mapM_cons, List.forall₂_cons_left_iff]
    constructor
    · intro h
      obtain ⟨b, hb, h⟩ := Option.bind_eq_some_iff.mp h
      obtain ⟨rest, hrest, h⟩ := Option.bind_eq_some_iff.mp h
      cases h
      exact ⟨b, rest, hb, ih.mp hrest, rfl⟩
    · rintro ⟨b, rest, hb, hrest, rfl⟩
      rw [hb, ih.mpr hrest]
      rfl

/-- The fields of a record are read from its forms and from nothing else. -/
theorem fields?_eq_some_iff {fields : List (Option Draft)} {d : Draft} :
    d.fields? names = some fields ↔ RecordOf names fields d := by
  constructor
  · intro h
    unfold fields? at h
    split at h
    · refine .named ((mapM_eq_some_iff.mp h).imp fun _ _ => fieldOnce?_eq_some_iff.mp)
    · rename_i items
      split at h
      · rename_i hle
        cases h
        exact .placed (Nat.add_sub_cancel' hle) rfl
      · cases h
    · cases h
  · intro h
    cases h with
    | named h => exact mapM_eq_some_iff.mpr (h.imp fun _ _ => fieldOnce?_eq_some_iff.mpr)
    | placed hlength h =>
      rw [fields?, if_pos (Nat.le.intro hlength), Nat.sub_eq_of_eq_add' hlength.symm, h]

/-! ## Values of a field -/

/-- Any value. -/
def ValueOf (v : Json) (d : Draft) : Prop := d.value? = some v

/-- A text. -/
def TextOf (s : String) (d : Draft) : Prop := d = .str s

/-- A whole number between two bounds. -/
def NumberOf (low high n : Int) (d : Draft) : Prop := d = .int n ∧ low ≤ n ∧ n ≤ high

/-- A list, each item of which has a form of its value. -/
def ListOf {α : Type} (Form : α → Draft → Prop) (xs : List α) (d : Draft) : Prop :=
  ∃ items, d = .arr items ∧ List.Forall₂ (fun item x => Form x item) items xs

theorem ListOf.exists_form {α : Type} {Form : α → Draft → Prop} {xs : List α} {d : Draft}
    (h : ListOf Form xs d) {x : α} (hx : x ∈ xs) : ∃ item, Form x item := by
  obtain ⟨items, -, hitems⟩ := h
  induction hitems with
  | nil => cases hx
  | cons hfirst _ ih =>
    obtain rfl | hx := List.mem_cons.mp hx
    · exact ⟨_, hfirst⟩
    · exact ih hx

end Draft

/-! ## Readers and forms -/

section

variable {α : Type} {decode? : Draft → Option α} {Form : α → Draft → Prop}

/-- A value is read from its forms and from nothing else. -/
def Reads (decode? : Draft → Option α) (Form : α → Draft → Prop) : Prop :=
  ∀ x d, decode? d = some x ↔ Form x d

/-- A field that has to be there. -/
inductive Given (Form : α → Draft → Prop) (x : α) : Option Draft → Prop
  | present {d : Draft} (h : Form x d) : Given Form x (some d)

/-- A field that may be left out, and then has a certain value. -/
inductive GivenOr (absent : α) (Form : α → Draft → Prop) : α → Option Draft → Prop
  | present {x : α} {d : Draft} (h : Form x d) : GivenOr absent Form x (some d)
  | absent : GivenOr absent Form absent none

theorem reads_str : Reads Draft.str? Draft.TextOf := by
  intro s d
  cases d <;> simp [Draft.str?, Draft.TextOf]

theorem reads_int (low high : Int) : Reads (Draft.int? low high) (Draft.NumberOf low high) := by
  intro n d
  cases d with
  | int m =>
    simp only [Draft.int?, Draft.NumberOf, Option.ite_none_right_eq_some, Option.some.injEq,
      Draft.int.injEq]
    exact ⟨fun ⟨h, hm⟩ => ⟨hm, hm ▸ h⟩, fun ⟨hm, h⟩ => ⟨hm ▸ h, hm⟩⟩
  | _ => simp [Draft.int?, Draft.NumberOf]

theorem reads_value : Reads Draft.value? Draft.ValueOf := fun _ _ => Iff.rfl

/-- A variant is read by its name. -/
theorem reads_variant {text : α → String} {ofText? : String → Option α}
    (h : ∀ name x, ofText? name = some x ↔ text x = name) :
    Reads (fun d => d.variant?.bind ofText?) fun x => Draft.VariantOf (text x) := by
  intro x d
  simp only [Option.bind_eq_some_iff, Draft.variant?_eq_some_iff, h]
  exact ⟨fun ⟨name, hname, hx⟩ => hx ▸ hname, fun hx => ⟨text x, hx, rfl⟩⟩

theorem Reads.list (h : Reads decode? Form) :
    Reads (fun d => d.arr?.bind (·.mapM decode?)) (Draft.ListOf Form) := by
  intro xs d
  have hitems : ∀ items : List Draft,
      items.mapM decode? = some xs ↔ List.Forall₂ (fun item x => Form x item) items xs := fun items =>
    Draft.mapM_eq_some_iff.trans
      ⟨fun hall => hall.imp fun item x => (h x item).mp,
        fun hall => hall.imp fun item x => (h x item).mpr⟩
  cases d with
  | arr items => simp [Draft.arr?, Draft.ListOf, hitems]
  | _ => simp [Draft.arr?, Draft.ListOf]

theorem Reads.required (h : Reads decode? Form) {x : α} {field : Option Draft} :
    required decode? field = some x ↔ Given Form x field := by
  cases field with
  | none => exact ⟨(nomatch ·), (nomatch ·)⟩
  | some d => exact (h x d).trans ⟨.present, fun (.present h) => h⟩

theorem Reads.optional (h : Reads decode? Form) {absent x : α} {field : Option Draft} :
    optional absent decode? field = some x ↔ GivenOr absent Form x field := by
  cases field with
  | none =>
    constructor
    · rintro ⟨⟩
      exact .absent
    · rintro ⟨⟩
      rfl
  | some d => exact (h x d).trans ⟨.present, fun (.present h) => h⟩

/-- A type whose sound values are read back as they are written. Exactly the forms of a value are read
as it, and writing what has been read changes nothing, whether the fields are in the order of the record
or in key order. -/
structure ReadsBack (encode : α → Json) (decode? : Draft → Option α) (Form : α → Draft → Prop)
    (Sound : α → Prop) : Prop where
  written : ∀ x, Sound x →
    decode? (encode x).draft = some x ∧ decode? (encode x).canonical.draft = some x
  forms : ∀ x d, decode? d = some x ↔ Form x d
  sound : ∀ x d, decode? d = some x → Sound x
  again : ∀ d, ((decode? d).bind fun x => decode? (encode x).draft) = decode? d ∧
    ((decode? d).bind fun x => decode? (encode x).canonical.draft) = decode? d

/-- It is enough that what is written is a form, and that only sound values have forms. -/
theorem readsBack_of_forms {encode : α → Json} {Sound : α → Prop} (hreads : Reads decode? Form)
    (hsound : ∀ x d, Form x d → Sound x)
    (hwritten : ∀ x, Sound x → Form x (encode x).draft ∧ Form x (encode x).canonical.draft) :
    ReadsBack encode decode? Form Sound where
  written x hx := ⟨(hreads x _).mpr (hwritten x hx).1, (hreads x _).mpr (hwritten x hx).2⟩
  forms := hreads
  sound x d hd := hsound x d ((hreads x d).mp hd)
  again d := by
    cases hd : decode? d with
    | none => exact ⟨rfl, rfl⟩
    | some x =>
      have hform := hwritten x (hsound x d ((hreads x d).mp hd))
      exact ⟨(hreads x _).mpr hform.1, (hreads x _).mpr hform.2⟩

end

end Conformance
