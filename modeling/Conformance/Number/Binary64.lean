/-!
# Binary floating-point numbers of 64 bits

The finite numbers of the binary64 format, with the arithmetic that reading a decimal numeral
needs. All of it is exact arithmetic on natural numbers followed by one rounding.

## Main definitions

- `Binary64` — a sign and the position of the magnitude among the finite non-negative numbers
- `Binary64.significand`, `Binary64.exponent` — the magnitude as `significand * 2 ^ exponent`
- `Binary64.ofRatio?` — the number nearest to a quotient, ties going to the even neighbour
- `Binary64.mul?`, `Binary64.div?` — rounded products and quotients of magnitudes
-/

namespace Conformance

/-- A finite binary64 number. The magnitudes are numbered in ascending order, zero being 0, so
that the numbering coincides with the low 63 bits of the interchange format. -/
structure Binary64 where
  negative : Bool
  magnitude : Nat
  deriving DecidableEq, Repr, Inhabited

namespace Binary64

/-- The number of magnitudes that share one exponent. -/
def binadeSize : Nat := Nat.pow 2 52

/-- The position after that of the largest finite magnitude. -/
def limit : Nat := 2047 * binadeSize

/-- The number zero with a plus sign. -/
def zero : Binary64 := ⟨false, 0⟩

/-- The whole-number part of the representation `significand * 2 ^ exponent`. -/
def significand (x : Binary64) : Nat :=
  if x.magnitude < binadeSize then x.magnitude else x.magnitude % binadeSize + binadeSize

/-- The power of two in the representation `significand * 2 ^ exponent`. -/
def exponent (x : Binary64) : Int :=
  if x.magnitude < binadeSize then -1074 else (x.magnitude / binadeSize : Nat) - 1075

/-- The magnitude as a numerator and a denominator. -/
def ratio (x : Binary64) : Nat × Nat :=
  if 0 ≤ x.exponent then (x.significand * Nat.pow 2 x.exponent.toNat, 1)
  else (x.significand, Nat.pow 2 (-x.exponent).toNat)

/-- The whole number nearest to a quotient; a tie goes to the even neighbour. -/
def roundHalfEven (num den : Nat) : Nat :=
  let quotient := num / den
  let rest := num % den
  if 2 * rest < den then quotient
  else if den < 2 * rest then quotient + 1
  else quotient + quotient % 2

/-- The quotient `num / den / 2 ^ e` as a numerator and a denominator. -/
def scaled (num den : Nat) (e : Int) : Nat × Nat :=
  if 0 ≤ e then (num, den * Nat.pow 2 e.toNat) else (num * Nat.pow 2 (-e).toNat, den)

/-- An exponent for which the quotient has at most 53 binary digits before the point. -/
def exponentFor (num den : Nat) : Int :=
  let guess : Int := max (-1074) ((num.log2 : Int) - (den.log2 : Int) - 53)
  let (n, d) := scaled num den guess
  if n / d < Nat.pow 2 53 then guess else guess + 1

/-- The magnitude nearest to a positive quotient, ties going to the even neighbour, or nothing
if it lies beyond the finite numbers. -/
def ofRatio? (num den : Nat) : Option Nat :=
  if num = 0 then some 0
  else
    let e := exponentFor num den
    let (n, d) := scaled num den e
    let position := (e + 1074).toNat * binadeSize + roundHalfEven n d
    if position < limit then some position else none

/-- The number nearest to a natural number. -/
def ofNat? (n : Nat) : Option Binary64 := (ofRatio? n 1).map fun m => ⟨false, m⟩

/-- The rounded product of two magnitudes. -/
def mul? (x y : Binary64) : Option Binary64 :=
  let (a, b) := x.ratio
  let (c, d) := y.ratio
  (ofRatio? (a * c) (b * d)).map fun m => ⟨x.negative != y.negative, m⟩

/-- The rounded quotient of two magnitudes. -/
def div? (x y : Binary64) : Option Binary64 :=
  let (a, b) := x.ratio
  let (c, d) := y.ratio
  (ofRatio? (a * d) (b * c)).map fun m => ⟨x.negative != y.negative, m⟩

/-- The number nearest to a power of ten. -/
def powerOfTen? (n : Nat) : Option Binary64 := ofNat? (Nat.pow 10 n)

/-- Numeric equality: the two zeros are equal, and otherwise signs and magnitudes agree. -/
def same (x y : Binary64) : Bool :=
  x.magnitude == y.magnitude && (x.negative == y.negative || x.magnitude == 0)

end Binary64

end Conformance
