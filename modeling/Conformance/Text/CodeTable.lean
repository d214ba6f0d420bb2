import Conformance.Text.Split

/-!
# Tables of characters

A property of characters is a table of spans of codes in ascending order, each with the values
that belong to it. Tables are written as words between blanks: `41-5A:61` is the span from 41 to
5A, in hexadecimal notation, with the value 61. A span of one code has no end (`A8:20.308`), a
span of every second code has a step (`100-12E/2:101`), and several values have dots between
them.

## Main definitions

- `CodeSpan` — a span with its values
- `CodeTable.read` — the table that a text describes
- `CodeTable.find?` — the span that a code belongs to
- `CodeTable.values?`, `CodeTable.contains` — what the table says of a code
-/

namespace Conformance

/-- A span of codes: those from `low` to `high` in steps, with their values. -/
structure CodeSpan where
  low : Nat
  high : Nat
  step : Nat := 1
  values : List Nat := []
  deriving DecidableEq, Repr, Inhabited

/-- Spans in ascending order. -/
abbrev CodeTable := Array CodeSpan

/-- Whether a code belongs to a span. -/
def CodeSpan.contains (s : CodeSpan) (code : Nat) : Bool :=
  s.low ≤ code && code ≤ s.high && (code - s.low) % s.step = 0

namespace CodeTable

/-! ## Reading -/

/-- A number in hexadecimal notation with capital letters. -/
def number (cs : List Char) : Nat :=
  cs.foldl (fun n c => 16 * n + (if c ≤ '9' then c.toNat - 0x30 else c.toNat - 0x37)) 0

/-- Splits a text at the first occurrence of a mark, which belongs to neither part. -/
def cut (mark : Char) (cs : List Char) : List Char × Option (List Char) :=
  match cs.span (· ≠ mark) with
  | (before, _ :: after) => (before, some after)
  | (before, []) => (before, none)

/-- The span that a word describes. -/
def spanOf (word : List Char) : CodeSpan :=
  let (codes, values) := cut ':' word
  let (bounds, step) := cut '/' codes
  let (low, high) := cut '-' bounds
  { low := number low
    high := number (high.getD low)
    step := (step.map number).getD 1
    values := (values.map fun cs => (Text.splitAll (· = '.') cs).map number).getD [] }

/-- The table that a text describes. -/
def read (text : String) : CodeTable :=
  let words := (Text.splitAll (fun c => c = ' ' || c = '\n') text.toList).filter (!·.isEmpty)
  (words.map spanOf).toArray

/-! ## Searching -/

/-- The span that a code belongs to, among those with an index from `first` up to `last`. Half of
them are left after every step. -/
def findIn? (t : CodeTable) (code first last : Nat) : Option CodeSpan :=
  if _h : first < last then
    let middle := (first + last) / 2
    match t[middle]? with
    | none => none
    | some s =>
      if code < s.low then findIn? t code first middle
      else if s.high < code then findIn? t code (middle + 1) last
      else if s.contains code then some s
      else none
  else none
termination_by last - first

/-- The span that a code belongs to. -/
def find? (t : CodeTable) (code : Nat) : Option CodeSpan := t.findIn? code 0 t.size

/-- The values of a code. -/
def values? (t : CodeTable) (code : Nat) : Option (List Nat) := (t.find? code).map (·.values)

/-- Whether a code belongs to a span of the table. -/
def contains (t : CodeTable) (code : Nat) : Bool := (t.find? code).isSome

end CodeTable

end Conformance
