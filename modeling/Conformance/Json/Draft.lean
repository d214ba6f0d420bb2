import Conformance.Json.Basic

/-!
# JSON text before its values are fixed

Reading JSON happens in two steps. The first checks the grammar and yields a draft, in which a
part that has correct syntax but denotes no value — a number beyond the finite ones, half a
surrogate pair, nesting that is too deep — is only marked. The second step turns a draft into a
value, or reads a record from it; a record may skip marked parts in fields that it does not have.

## Main definitions

- `Draft` — a tree with the shape of the text, keeping repeated keys
- `Draft.value?` — the canonical value, if no part is marked
- `Json.draft` — a value as a draft
- `Draft.fields?` — the fields of a record, given by name or by position
-/

namespace Conformance

/-- The tree of a JSON text. -/
inductive Draft where
  | unreadable
  | null
  | bool (b : Bool)
  | int (n : Int)
  | float (x : Binary64)
  | str (s : String)
  | arr (items : List Draft)
  | obj (fields : List (String × Draft))
  deriving Inhabited

mutual

/-- A value as a draft. -/
def Json.draft : Json → Draft
  | .null => .null
  | .bool b => .bool b
  | .int n => .int n
  | .float x => .float x
  | .str s => .str s
  | .arr items => .arr (Json.draftItems items)
  | .obj fields => .obj (Json.draftFields fields)

/-- The items of an array as drafts. -/
def Json.draftItems : List Json → List Draft
  | [] => []
  | v :: rest => Json.draft v :: Json.draftItems rest

/-- The fields of an object as drafts. -/
def Json.draftFields : List (String × Json) → List (String × Draft)
  | [] => []
  | (k, v) :: rest => (k, Json.draft v) :: Json.draftFields rest

end

namespace Draft

mutual

/-- The canonical value of a draft without marked parts. -/
def value? : Draft → Option Json
  | unreadable => none
  | null => some .null
  | bool b => some (.bool b)
  | int n => some (.int n)
  | float x => some (.float x)
  | str s => some (.str s)
  | arr items => (itemValues? items).map .arr
  | obj fields => (fieldValues? fields []).map .obj

/-- The values of the items of an array. -/
def itemValues? : List Draft → Option (List Json)
  | [] => some []
  | d :: rest =>
    match value? d, itemValues? rest with
    | some v, some vs => some (v :: vs)
    | _, _ => none

/-- Stores the fields of an object one after another, in key order. -/
def fieldValues? : List (String × Draft) → List (String × Json) → Option (List (String × Json))
  | [], done => some done
  | (k, d) :: rest, done =>
    match value? d with
    | some v => fieldValues? rest (Json.put k v done)
    | none => none

end

/-- The text of a string. -/
def str? : Draft → Option String
  | str s => some s
  | _ => none

/-- The items of an array. -/
def arr? : Draft → Option (List Draft)
  | arr items => some items
  | _ => none

/-- A whole number between two bounds. -/
def int? (low high : Int) : Draft → Option Int
  | int n => if low ≤ n ∧ n ≤ high then some n else none
  | _ => none

/-- A field that occurs at most once: nothing if it is repeated. -/
def fieldOnce? (key : String) (fields : List (String × Draft)) : Option (Option Draft) :=
  match fields.filter (fun f => f.1 = key) with
  | [] => some none
  | [(_, d)] => some (some d)
  | _ => none

/-- The fields of a record with the given names. An object gives them by name: it may have
others, but none of these twice. An array gives them by position: it may end early, but not run
on. An absent field is `none`. -/
def fields? (names : List String) : Draft → Option (List (Option Draft))
  | obj fields => names.mapM (fieldOnce? · fields)
  | arr items =>
    if items.length ≤ names.length then
      some (items.map some ++ List.replicate (names.length - items.length) none)
    else none
  | _ => none

/-- The name of a variant without data: a string, or an object with that one key and `null`. -/
def variant? : Draft → Option String
  | str s => some s
  | obj [(k, null)] => some k
  | _ => none

end Draft

end Conformance
