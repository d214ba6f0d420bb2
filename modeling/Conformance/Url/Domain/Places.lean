/-!
# Labels in ASCII

A label with characters beyond ASCII is written as its ASCII characters and the places of the
others. A place is a number to base 36 whose digits have thresholds; these adapt to the places
written before. Places are counted through the label once for each code, so that the next one says
both which character comes next and where it stands.

## Main definitions

- `Domain.placesText` — the text of a label
- `Domain.ofPlaces?` — the label of a text
-/

namespace Conformance.Domain

/-! ## Digits -/

/-- A digit to base 36. -/
def digit (d : Nat) : Char := if d < 26 then Char.ofNat (0x61 + d) else Char.ofNat (0x30 + (d - 26))

/-- The threshold of a digit, from 1 to 26. -/
def threshold (place bias : Nat) : Nat := max 1 (min 26 (place - bias))

/-- The digits of a number, the lowest first. A digit below its threshold is the last one. -/
def digits (bias place n : Nat) : List Char :=
  let t := threshold place bias
  if _h : n < t then [digit n]
  else digit (t + (n - t) % (36 - t)) :: digits bias (place + 36) ((n - t) / (36 - t))
termination_by n
decreasing_by
  have : 1 ≤ threshold place bias := Nat.le_max_left ..
  exact Nat.lt_of_le_of_lt (Nat.div_le_self ..) (by omega)

/-- Divides a number until it is small: the number that is left, and 36 for each division. -/
def shrink (n : Nat) : Nat × Nat :=
  if _h : 455 < n then
    let (left, steps) := shrink (n / 35)
    (left, steps + 36)
  else (n, 0)
termination_by n

/-- The bias after a place has been written, as the one of a number of characters. -/
def adapt (place characters : Nat) (isFirst : Bool) : Nat :=
  let halved := if isFirst then place / 700 else place / 2
  let (left, steps) := shrink (halved + halved / characters)
  steps + 36 * left / (left + 38)

/-- How far the places of a label have been written: the text, the number of characters that it
stands for, the distance to the next place, and the bias. -/
structure Progress where
  text : List Char := []
  characters : Nat
  distance : Nat := 0
  bias : Nat := 72

/-- Passes a character of the label, while those with a code are written. -/
def pass (basic code : Nat) (p : Progress) (c : Char) : Progress :=
  if c.toNat < code then { p with distance := p.distance + 1 }
  else if c.toNat = code then
    { text := p.text ++ digits p.bias 36 p.distance
      characters := p.characters + 1
      distance := 0
      bias := adapt p.distance (p.characters + 1) (p.characters = basic) }
  else p

/-- Writes the places of the characters with the given codes, in ascending order; `next` is the
first code that has not been looked at. -/
def places (label : List Char) (basic : Nat) : (codes : List Nat) → (next : Nat) → Progress → List Char
  | [], _, p => p.text
  | code :: codes, next, p =>
    let p := { p with distance := p.distance + (code - next) * (p.characters + 1) }
    let p := label.foldl (pass basic code) p
    places label basic codes (code + 1) { p with distance := p.distance + 1 }

/-- The text of a label: its ASCII characters, a hyphen behind them, and the places of the
others. -/
def placesText (label : List Char) : List Char :=
  let (basic, others) := label.partition fun c => c.toNat < 0x80
  let codes := ((others.map Char.toNat).mergeSort fun a b => a ≤ b).eraseDups
  let start := if basic.isEmpty then [] else basic ++ ['-']
  start ++ places label basic.length codes 0x80 { characters := basic.length }

/-! ## Reading places -/

/-- The value of a digit. -/
def digitValue? (c : Char) : Option Nat :=
  let n := c.toNat
  if 0x61 ≤ n ∧ n ≤ 0x7A then some (n - 0x61)
  else if 0x30 ≤ n ∧ n ≤ 0x39 then some (n - 0x30 + 26)
  else none

/-- How far the places of a label have been read: the label so far, the code of the latest
character, where counting started and how far it has come, the weight and the place of the next
digit, and the bias. -/
structure Filling where
  label : List Char
  code : Nat := 0x80
  start : Nat := 0
  position : Nat := 0
  weight : Nat := 1
  place : Nat := 36
  bias : Nat := 72

/-- Puts the next character where counting has come to. -/
def Filling.put? (f : Filling) : Option Filling :=
  let count := f.label.length + 1
  let code := f.code + f.position / count
  let index := f.position % count
  if code.isValidChar then
    some
      { label := f.label.take index ++ Char.ofNat code :: f.label.drop index
        code
        start := index + 1
        position := index + 1
        bias := adapt (f.position - f.start) count (f.start = 0) }
  else none

/-- Reads the next digit. One below its threshold is the last one of a place. -/
def Filling.read? (f : Filling) (c : Char) : Option Filling := do
  let d ← digitValue? c
  let f := { f with position := f.position + d * f.weight }
  let t := threshold f.place f.bias
  if d < t then f.put?
  else return { f with weight := f.weight * (36 - t), place := f.place + 36 }

/-- The label of a text. The last hyphen of the text stands behind the ASCII characters, unless it
comes first; a text that ends inside a place has no label. -/
def ofPlaces? (cs : List Char) : Option (List Char) := do
  let (basic, digits) :=
    match cs.reverse.span (· ≠ '-') with
    | (digits, _ :: c :: basic) => ((c :: basic).reverse, digits.reverse)
    | _ => ([], cs)
  let f ← digits.foldlM Filling.read? { label := basic }
  if f.place = 36 then return f.label else none

end Conformance.Domain
