import Conformance.Duration
import Conformance.Json.Basic

/-!
# Fields of descriptions

Scenarios are described by JSON values. A description that cannot be understood is refused, with
the reason. A field that is `null` counts as absent.

## Main definitions

- `Described` — what a description yields, or why it cannot be understood
- `text`, `nat`, `items` — fields that have to be there
- `textOr`, `natOr`, `itemsOr`, `flagOr` — fields that have a value when they are absent
-/

namespace Conformance.Scenario

/-- What a description yields, or why it cannot be understood. -/
abbrev Described := Except String

/-- The value of a field, `null` if it is absent. -/
def field (v : Json) (key : String) : Json := (v.get? key).getD .null

/-- Whether a field is absent. -/
def isMissing (v : Json) (key : String) : Bool :=
  match field v key with
  | .null => true
  | _ => false

/-- Reads a field unless it is absent. -/
def optional {α : Type} (v : Json) (key : String) (read : Json → Described α) :
    Described (Option α) :=
  if isMissing v key then .ok none else (read (field v key)).map some

/-- The text in a field. -/
def text (v : Json) (key : String) : Described String :=
  match field v key with
  | .str s => .ok s
  | _ => .error ("string field " ++ key)

/-- The text in a field that may be absent. -/
def optionalText (v : Json) (key : String) : Described (Option String) :=
  optional v key fun _ => text v key

/-- The text in a field, or another one if it is absent. -/
def textOr (v : Json) (key absent : String) : Described String := do
  return (← optionalText v key).getD absent

/-- The natural number in a field. -/
def nat (v : Json) (key : String) : Described Nat :=
  match field v key with
  | .int (.ofNat n) => .ok n
  | _ => .error ("integer field " ++ key)

/-- The natural number in a field that may be absent. -/
def optionalNat (v : Json) (key : String) : Described (Option Nat) :=
  optional v key fun _ => nat v key

/-- The natural number in a field, or another one if it is absent. -/
def natOr (v : Json) (key : String) (absent : Nat) : Described Nat := do
  return (← optionalNat v key).getD absent

/-- The milliseconds in a field, none if it is absent. -/
def millis (v : Json) (key : String) : Described Duration :=
  (natOr v key 0).map Duration.ofMillis

/-- The truth value in a field, or another one if there is none. -/
def flagOr (v : Json) (key : String) (absent : Bool) : Bool :=
  match field v key with
  | .bool b => b
  | _ => absent

/-- The items in a field. -/
def items (v : Json) (key : String) : Described (List Json) :=
  match field v key with
  | .arr xs => .ok xs
  | _ => .error ("array field " ++ key)

/-- The items in a field, none if it is absent. -/
def itemsOr (v : Json) (key : String) : Described (List Json) := do
  return (← optional v key fun _ => items v key).getD []

/-- A description that is a text. -/
def asText : Json → Described String
  | .str s => .ok s
  | _ => .error "string"

/-- The texts in a field, none if it is absent. -/
def textsOr (v : Json) (key : String) : Described (List String) := do
  (← itemsOr v key).mapM asText

/-- A description that is a pair of texts. -/
def asPair : Json → Described (String × String)
  | .arr [.str k, .str v] => .ok (k, v)
  | _ => .error "pair of strings"

end Conformance.Scenario
