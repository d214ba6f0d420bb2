/-!
# Finite tables

A table holds at most one value per key and remembers the order in which keys first came in.
Server state is kept in such tables, and every operation is described by what `get?` answers
afterwards.

## Main definitions

- `Table` — entries in order of first insertion
- `Table.get?`, `Table.insert`, `Table.erase` — look up, add or replace, remove
-/

namespace Conformance

/-- A finite map that lists its entries in order of first insertion. -/
structure Table (κ α : Type) where
  entries : List (κ × α) := []
  deriving DecidableEq

namespace Table

variable {κ α : Type} [DecidableEq κ]

/-- The table without entries. -/
def empty : Table κ α := ⟨[]⟩

instance : Inhabited (Table κ α) := ⟨empty⟩

/-- The value stored under a key in a list of entries. -/
def find? (key : κ) : List (κ × α) → Option α
  | [] => none
  | (k, v) :: rest => if k = key then some v else find? key rest

/-- Stores a value in a list of entries: in place for a known key, at the end for a new one. -/
def put (key : κ) (value : α) : List (κ × α) → List (κ × α)
  | [] => [(key, value)]
  | (k, v) :: rest => if k = key then (k, value) :: rest else (k, v) :: put key value rest

/-- The value stored under a key. -/
def get? (t : Table κ α) (key : κ) : Option α := find? key t.entries

/-- Stores a value under a key, replacing the one that was there. -/
def insert (t : Table κ α) (key : κ) (value : α) : Table κ α := ⟨put key value t.entries⟩

/-- Removes a key. -/
def erase (t : Table κ α) (key : κ) : Table κ α := ⟨t.entries.filter (fun e => e.1 ≠ key)⟩

/-- Changes the value stored under a key, if there is one. -/
def modify (t : Table κ α) (key : κ) (f : α → α) : Table κ α :=
  match t.get? key with
  | none => t
  | some v => t.insert key (f v)

/-- Whether a key holds a value. -/
def contains (t : Table κ α) (key : κ) : Bool := (t.get? key).isSome

/-- The keys, in order of first insertion. -/
def keys (t : Table κ α) : List κ := t.entries.map (·.1)

/-- The number of entries. -/
def size (t : Table κ α) : Nat := t.entries.length

@[simp] theorem get?_empty (key : κ) : (empty : Table κ α).get? key = none := rfl

theorem find?_put (key k : κ) (value : α) (entries : List (κ × α)) :
    find? k (put key value entries) = if key = k then some value else find? k entries := by
  induction entries with
  | nil => rfl
  | cons e rest ih =>
    obtain ⟨k', v⟩ := e
    by_cases h : k' = key
    · subst h
      by_cases hk : k' = k <;> simp [put, find?, hk]
    · by_cases hk : k' = k
      · subst hk
        simp [put, find?, h, Ne.symm h]
      · simp [put, find?, h, hk, ih]

/-- A new key comes to the end. -/
theorem put_of_none {entries : List (κ × α)} {key : κ} (h : find? key entries = none) (value : α) :
    put key value entries = entries ++ [(key, value)] := by
  induction entries with
  | nil => rfl
  | cons e rest ih =>
    obtain ⟨k, v⟩ := e
    by_cases hk : k = key
    · simp [find?, hk] at h
    · simp only [find?, if_neg hk] at h
      rw [put, if_neg hk, ih h, List.cons_append]

/-- A stored value is found again, and every other key keeps its value. -/
theorem get?_insert (t : Table κ α) (key k : κ) (value : α) :
    (t.insert key value).get? k = if key = k then some value else t.get? k :=
  find?_put key k value t.entries

@[simp] theorem get?_insert_self (t : Table κ α) (key : κ) (value : α) :
    (t.insert key value).get? key = some value := by
  simp [get?_insert]

theorem get?_insert_of_ne (t : Table κ α) {key k : κ} (value : α) (h : key ≠ k) :
    (t.insert key value).get? k = t.get? k := by
  simp [get?_insert, h]

/-- A removed key holds nothing, and every other key keeps its value. -/
theorem get?_erase (t : Table κ α) (key k : κ) :
    (t.erase key).get? k = if key = k then none else t.get? k := by
  obtain ⟨entries⟩ := t
  simp only [erase, get?]
  induction entries with
  | nil => simp [find?]
  | cons e rest ih =>
    obtain ⟨k', v⟩ := e
    by_cases h : k' = key
    · subst h
      by_cases hk : k' = k
      · subst hk
        simpa [find?] using ih
      · simpa [find?, hk] using ih
    · by_cases hk : k' = k
      · subst hk
        simp [find?, h, Ne.symm h]
      · simpa [find?, h, hk] using ih

/-- A change is seen under its key only. -/
theorem get?_modify (t : Table κ α) (key k : κ) (f : α → α) :
    (t.modify key f).get? k = if key = k then (t.get? key).map f else t.get? k := by
  unfold modify
  cases hv : t.get? key with
  | none =>
    by_cases h : key = k
    · subst h
      simp [hv]
    · simp [h]
  | some v =>
    by_cases h : key = k
    · subst h
      simp
    · simp [get?_insert, h]

end Table

end Conformance
