import Conformance.Text.Composition

/-!
# Composed form of a text

Texts that look the same may be written in several ways: with composed characters or with their
parts, and with marks in any order. In composed form there is one way. To find it, all characters
are taken apart, marks are put into the order of their classes, and what can be composed is.

## Main definitions

- `takenApart` — the parts of a character
- `ordered` — a text with its marks in order
- `composedForm` — the composed form of a text
-/

namespace Conformance.Text

/-- The parts of a character that are not composed themselves. -/
def takenApart (code : Nat) : List Nat :=
  match parts? code with
  | some (a, b) => if _h : a < code then takenApart a ++ [b] else [a, b]
  | none => [code]
termination_by code

/-- Puts a character behind a text that is given in reverse. A mark goes in front of the marks of
higher classes at its end. -/
def putBehind (code : Nat) : List Nat → List Nat
  | [] => [code]
  | last :: before =>
    if combiningClass code ≠ 0 ∧ combiningClass code < combiningClass last then
      last :: putBehind code before
    else code :: last :: before

/-- A text with its marks in order. -/
def ordered (codes : List Nat) : List Nat :=
  (codes.foldl (fun reversed code => putBehind code reversed) []).reverse

/-- A text that is being composed: what is finished, in reverse, the character that others may be
composed with, and the marks behind it, in reverse. -/
structure Composing where
  finished : List Nat := []
  base : Option Nat := none
  marks : List Nat := []

/-- What has been composed so far, in reverse. -/
def Composing.reversed (p : Composing) : List Nat := p.marks ++ (p.base.toList ++ p.finished)

/-- Takes the next character. It is composed with the base if no mark of the same or of a higher
class stands between them. -/
def Composing.take (p : Composing) (code : Nat) : Composing :=
  let rank := combiningClass code
  let isFree := p.marks.head?.all fun last => combiningClass last < rank
  match if isFree then p.base.bind fun base => composed? base code else none with
  | some whole => { p with base := some whole }
  | none =>
    if rank = 0 then { finished := p.reversed, base := some code }
    else { p with marks := code :: p.marks }

/-- The composed form of a text. Characters below 300 are in it already, if there are no others. -/
def composedForm (cs : List Char) : List Char :=
  if cs.all fun c => c.toNat < 0x300 then cs
  else
    let codes := ordered (cs.flatMap fun c => takenApart c.toNat)
    ((codes.foldl Composing.take {}).reversed.reverse).map Char.ofNat

end Conformance.Text
