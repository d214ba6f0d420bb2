import Conformance.History.Codec
import Conformance.Outcome

/-!
# Summary entries

One line of JSON per feature: its name, its outcome and a message.

## Main definitions

- `SummaryEntry` — one entry
- `SummaryEntry.encode`, `SummaryEntry.decode?` — its JSON form
- `SummaryEntry.line` — the line that is written
-/

namespace Conformance

/-- The kinds of outcomes. -/
inductive OutcomeKind where
  | passed
  | failed
  | skipped
  deriving DecidableEq, Repr, Inhabited

namespace OutcomeKind

/-- The name of a kind. -/
def text : OutcomeKind → String
  | passed => "PASSED"
  | failed => "FAILED"
  | skipped => "SKIPPED"

/-- The kind with a given name. -/
def ofText? (name : String) : Option OutcomeKind :=
  [passed, failed, skipped].find? fun k => k.text = name

theorem ofText?_text (k : OutcomeKind) : ofText? k.text = some k := by
  cases k <;> decide

/-- The kind of an outcome. -/
def ofOutcome : Outcome → OutcomeKind
  | .passed => passed
  | .failed _ => failed
  | .skipped _ => skipped

end OutcomeKind

/-- What is reported for one feature. -/
structure SummaryEntry where
  name : String
  outcome : OutcomeKind
  message : String := ""
  deriving DecidableEq, Repr, Inhabited

namespace SummaryEntry

/-- The entry of a feature with an outcome. -/
def ofOutcome (name : String) (o : Outcome) : SummaryEntry :=
  { name, outcome := OutcomeKind.ofOutcome o, message := o.message }

/-- The JSON form of an entry. -/
def encode (e : SummaryEntry) : Json :=
  .obj [("name", .str e.name), ("outcome", .str e.outcome.text), ("message", .str e.message)]

/-- Reads an entry. -/
def decode? (d : Draft) : Option SummaryEntry := do
  match ← d.fields? ["name", "outcome", "message"] with
  | [name, outcome, message] =>
    return { name := ← required Draft.str? name
             outcome := ← required (fun d => d.variant?.bind OutcomeKind.ofText?) outcome
             message := ← optional "" Draft.str? message }
  | _ => none

/-- The line that is written for an entry. -/
def line (e : SummaryEntry) : String := e.encode.compact ++ "\n"

end SummaryEntry

end Conformance
