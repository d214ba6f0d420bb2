import Conformance.Text.Normal
import Conformance.Url.Domain.Direction
import Conformance.Url.Domain.Joining
import Conformance.Url.Domain.Mapping
import Conformance.Url.Domain.Places

/-!
# Domain names

A domain name is made of labels between dots. Names that people cannot tell apart are the same
name: what is written is replaced by its plain and composed form first. Then every label is checked
and written in ASCII, as `xn--` and the text of its places if it holds other characters. A label
that is written like this already has to be the ASCII form of a label.

## Main definitions

- `Domain.label?` — a label and its ASCII form
- `Domain.ascii?` — the ASCII form of a name
-/

namespace Conformance.Domain

/-- A text in ASCII. -/
def isAscii (cs : List Char) : Bool := cs.all fun c => c.toNat < 0x80

/-- What the ASCII form of a label with other characters starts with. -/
def asciiMark : List Char := ['x', 'n', '-', '-']

/-- The longest label that is written in ASCII. -/
def maxLabel : Nat := 1000

/-- The longest text of places that is read. -/
def maxPlaces : Nat := 2000

/-- Whether a label with characters beyond ASCII is one: it does not start with a mark, its joiners
stand where they may, and it is not too long. -/
def isLabel (label : List Char) : Bool :=
  !label.head?.any isMark && joinersFit [] label && label.length ≤ maxLabel

/-- Whether a text is its own plain and composed form. -/
def isPlain (cs : List Char) : Bool := mapAll? cs = some cs && Text.composedForm cs = cs

/-- The label that a text of places stands for. Texts of labels in ASCII are not read. -/
def hiddenLabel? (text : List Char) : Option (List Char) :=
  if isAscii text ∧ text.getLast? ≠ some '-' ∧ text.length ≤ maxPlaces then
    (ofPlaces? text).filter fun label => !isAscii label && isPlain label && isLabel label
  else none

/-- A label of a name in plain and composed form, and its ASCII form. -/
def label? (label : List Char) : Option (List Char × List Char) :=
  if asciiMark.isPrefixOf label then
    (hiddenLabel? (label.drop asciiMark.length)).map fun hidden => (hidden, label)
  else if isAscii label then some (label, label)
  else if isLabel label then some (label, asciiMark ++ placesText label)
  else none

/-- The ASCII form of a name. -/
def ascii? (name : List Char) : Option (List Char) := do
  let plain := Text.composedForm (← mapAll? name)
  let labels ← (Text.splitAll (· = '.') plain).mapM label?
  if namesAgree (labels.map (·.1)) then return ['.'].intercalate (labels.map (·.2)) else none

end Conformance.Domain
