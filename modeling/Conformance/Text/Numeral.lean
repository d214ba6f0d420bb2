/-!
# Whole numbers in decimal notation

Readers for unsigned and signed whole numbers of limited size. Leading zeros and one leading
sign are allowed; anything else that is not an ASCII digit is refused.

## Main definitions

- `natural?` — one or more digits
- `unsigned?` — an optional `+`, then digits, up to a bound
- `signed?` — an optional `+` or `-`, then digits, between two bounds
-/

namespace Conformance.Text

/-- An ASCII digit. -/
def isDigit (c : Char) : Bool := '0' ≤ c && c ≤ '9'

/-- The value of a text of one or more digits. -/
def natural? (cs : List Char) : Option Nat :=
  if cs.isEmpty || !cs.all isDigit then none else some (Nat.ofDigitChars 10 cs 0)

/-- A text without one leading plus sign. -/
def dropPlus : List Char → List Char
  | '+' :: rest => rest
  | cs => cs

/-- Reads a number up to `bound`, with an optional plus sign. -/
def unsigned? (bound : Nat) (s : String) : Option Nat :=
  (natural? (dropPlus s.toList)).filter (· ≤ bound)

/-- Reads a number from `low` to `high`, with an optional sign. -/
def signed? (low high : Int) (s : String) : Option Int :=
  let value : Option Int :=
    match s.toList with
    | '-' :: rest => (natural? rest).map fun n => -(n : Int)
    | cs => (natural? (dropPlus cs)).map fun n => (n : Int)
  value.filter fun v => low ≤ v && v ≤ high

/-- The largest number of 32 bits. -/
def maxUnsigned32 : Nat := 4294967295

/-- The largest number of 64 bits. -/
def maxUnsigned64 : Nat := 18446744073709551615

/-- The smallest signed number of 64 bits. -/
def minSigned64 : Int := -9223372036854775808

/-- The largest signed number of 64 bits. -/
def maxSigned64 : Int := 9223372036854775807

end Conformance.Text
