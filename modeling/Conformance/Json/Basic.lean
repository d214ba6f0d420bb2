import Conformance.Number.Binary64

/-!
# JSON values

Payloads, event attributes and stored histories are JSON values. Whole numbers and
floating-point numbers are different values, even when they denote the same number.

## Main definitions

- `Json` — a value
- `Json.get?`, `Json.item?` — a field of an object, an item of an array
- `Json.put` — stores a field, keeping the keys in ascending order
- `Json.canonical` — the value with every object in key order, the last of equal keys winning
- `Json.same` — equality of canonical values, in which the two floating-point zeros agree
- `Json.decEq` — equality can be decided
-/

namespace Conformance

/-- A JSON value. -/
inductive Json where
  | null
  | bool (b : Bool)
  | int (n : Int)
  | float (x : Binary64)
  | str (s : String)
  | arr (items : List Json)
  | obj (fields : List (String × Json))
  deriving Inhabited, Repr

namespace Json

/-- The value of a key in a list of fields, the first one if there are several. -/
def findField (key : String) : List (String × Json) → Option Json
  | [] => none
  | (k, v) :: rest => if k = key then some v else findField key rest

/-- Stores a field in a list of fields in key order. -/
def put (key : String) (value : Json) : List (String × Json) → List (String × Json)
  | [] => [(key, value)]
  | (k, v) :: rest =>
    if key = k then (key, value) :: rest
    else if key < k then (key, value) :: (k, v) :: rest
    else (k, v) :: put key value rest

/-- The object with the given fields, in key order. -/
def ofFields (fields : List (String × Json)) : Json :=
  .obj (fields.foldl (fun done f => put f.1 f.2 done) [])

/-- The value of a field, if this is an object that has it. -/
def get? : Json → String → Option Json
  | obj fields, key => findField key fields
  | _, _ => none

/-- An item by position, if this is an array that is long enough. -/
def item? : Json → Nat → Option Json
  | arr items, i => items[i]?
  | _, _ => none

/-- The text, if this is a string. -/
def str? : Json → Option String
  | str s => some s
  | _ => none

/-- The items, if this is an array. -/
def arr? : Json → Option (List Json)
  | arr items => some items
  | _ => none

/-- The number, if this is a whole number of 64 bits with sign. -/
def signed64? : Json → Option Int
  | int n => if -9223372036854775808 ≤ n ∧ n ≤ 9223372036854775807 then some n else none
  | _ => none

mutual

/-- The value with the fields of every object in key order, the last of equal keys winning. -/
def canonical : Json → Json
  | arr items => arr (canonicalItems items)
  | obj fields => obj (canonicalFields fields [])
  | v => v

/-- The canonical items of an array. -/
def canonicalItems : List Json → List Json
  | [] => []
  | v :: rest => canonical v :: canonicalItems rest

/-- Stores the canonical fields of an object one after another. -/
def canonicalFields : List (String × Json) → List (String × Json) → List (String × Json)
  | [], done => done
  | (k, v) :: rest, done => canonicalFields rest (put k (canonical v) done)

end

mutual

/-- Equality of canonical values; the two floating-point zeros are equal. -/
def same : Json → Json → Bool
  | null, null => true
  | bool a, bool b => a == b
  | int a, int b => a == b
  | float a, float b => a.same b
  | str a, str b => a == b
  | arr a, arr b => sameItems a b
  | obj a, obj b => sameFields a b
  | _, _ => false

/-- Item by item equality. -/
def sameItems : List Json → List Json → Bool
  | [], [] => true
  | a :: as, b :: bs => same a b && sameItems as bs
  | _, _ => false

/-- Field by field equality. -/
def sameFields : List (String × Json) → List (String × Json) → Bool
  | [], [] => true
  | (k, a) :: as, (l, b) :: bs => k == l && same a b && sameFields as bs
  | _, _ => false

end

mutual

/-- Whether two values are equal. -/
def decEq : (v w : Json) → Decidable (v = w)
  | null, null => isTrue rfl
  | bool a, bool b => decidable_of_decidable_of_iff (.of_eq (bool.injEq a b).symm)
  | int a, int b => decidable_of_decidable_of_iff (.of_eq (int.injEq a b).symm)
  | float a, float b => decidable_of_decidable_of_iff (.of_eq (float.injEq a b).symm)
  | str a, str b => decidable_of_decidable_of_iff (.of_eq (str.injEq a b).symm)
  | arr a, arr b =>
    have := decEqItems a b
    decidable_of_decidable_of_iff (.of_eq (arr.injEq a b).symm)
  | obj a, obj b =>
    have := decEqFields a b
    decidable_of_decidable_of_iff (.of_eq (obj.injEq a b).symm)
  | null, bool _ | null, int _ | null, float _ | null, str _ | null, arr _ | null, obj _
  | bool _, null | bool _, int _ | bool _, float _ | bool _, str _ | bool _, arr _ | bool _, obj _
  | int _, null | int _, bool _ | int _, float _ | int _, str _ | int _, arr _ | int _, obj _
  | float _, null | float _, bool _ | float _, int _ | float _, str _ | float _, arr _ | float _, obj _
  | str _, null | str _, bool _ | str _, int _ | str _, float _ | str _, arr _ | str _, obj _
  | arr _, null | arr _, bool _ | arr _, int _ | arr _, float _ | arr _, str _ | arr _, obj _
  | obj _, null | obj _, bool _ | obj _, int _ | obj _, float _ | obj _, str _ | obj _, arr _ =>
    isFalse nofun

/-- Whether two lists of items are equal. -/
def decEqItems : (as bs : List Json) → Decidable (as = bs)
  | [], [] => isTrue rfl
  | [], _ :: _ | _ :: _, [] => isFalse nofun
  | a :: as, b :: bs =>
    have := decEq a b
    have := decEqItems as bs
    decidable_of_decidable_of_iff (.of_eq (List.cons.injEq a as b bs).symm)

/-- Whether two lists of fields are equal. -/
def decEqFields : (as bs : List (String × Json)) → Decidable (as = bs)
  | [], [] => isTrue rfl
  | [], _ :: _ | _ :: _, [] => isFalse nofun
  | (k, a) :: as, (l, b) :: bs =>
    have := decEq a b
    have := decEqFields as bs
    have hiff : (k = l ∧ a = b) ∧ as = bs ↔ (k, a) :: as = (l, b) :: bs := by simp
    decidable_of_decidable_of_iff hiff

end

instance : DecidableEq Json := decEq

/-- A stored field is found again, and every other key keeps its value. -/
theorem findField_put (key k : String) (value : Json) (fields : List (String × Json)) :
    findField k (put key value fields) = if key = k then some value else findField k fields := by
  induction fields with
  | nil => rfl
  | cons f rest ih =>
    obtain ⟨l, v⟩ := f
    simp only [put]
    split
    · rename_i heq
      subst heq
      by_cases h : key = k <;> simp [findField, h]
    · rename_i hne
      split
      · simp [findField]
      · by_cases hk : key = k
        · subst hk
          simp [findField, Ne.symm hne, ih]
        · simp [findField, ih, hk]

theorem findField_append (key : String) (a b : List (String × Json)) :
    findField key (a ++ b) = (findField key a).or (findField key b) := by
  induction a with
  | nil => rfl
  | cons f rest ih =>
    obtain ⟨k, v⟩ := f
    by_cases h : k = key <;> simp [findField, h, ih]

/-- A field of an object that is given by its fields is the last one with its key. -/
theorem get?_ofFields (fields : List (String × Json)) (key : String) :
    (ofFields fields).get? key = findField key fields.reverse := by
  have hfold : ∀ done, findField key (fields.foldl (fun done f => put f.1 f.2 done) done) =
      (findField key fields.reverse).or (findField key done) := by
    induction fields with
    | nil => simp [findField]
    | cons f rest ih =>
      intro done
      rw [List.foldl_cons, ih, findField_put, List.reverse_cons, findField_append]
      by_cases h : f.1 = key <;> simp [findField, h]
  rw [ofFields, get?, hfold]
  simp [findField]

end Json

end Conformance
