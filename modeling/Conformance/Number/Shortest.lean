import Conformance.Number.Binary64

/-!
# Shortest decimal digits

The fewest decimal digits that read back as a given binary64 number, and among those the ones
nearest to it.

## Main definitions

- `Shortest.Interval` — the quotients that round to a magnitude
- `Shortest.digitsOf` — digits and the power of ten of the first of them
- `Shortest.text` — the numeral written for a number
-/

namespace Conformance

namespace Shortest

/-- The quotients that round to a magnitude, over one denominator: the value itself, the two
ends, and whether the ends belong to it. -/
structure Interval where
  low : Nat
  value : Nat
  high : Nat
  denominator : Nat
  closed : Bool

/-- The interval of the magnitude `significand * 2 ^ exponent`. The neighbour below is half as
far away where a new power of two begins. -/
def intervalOf (x : Binary64) : Interval :=
  let m := x.significand
  let e := x.exponent
  let narrow := m = Binary64.binadeSize ∧ -1074 < e
  let low := if narrow then 4 * m - 1 else 4 * m - 2
  let scale := if 0 ≤ e then Nat.pow 2 e.toNat else 1
  let denominator := if 0 ≤ e then 4 else 4 * Nat.pow 2 (-e).toNat
  ⟨low * scale, 4 * m * scale, (4 * m + 2) * scale, denominator, m % 2 = 0⟩

/-- Whether the quotient `num / den` lies in an interval. -/
def Interval.holds (i : Interval) (num den : Nat) : Bool :=
  let point := num * i.denominator
  if i.closed then i.low * den ≤ point && point ≤ i.high * den
  else i.low * den < point && point < i.high * den

/-- The number of decimal digits of a natural number. -/
def digitCount (n : Nat) : Nat := (Nat.toDigits 10 n).length

/-- The power of ten of the first digit of a positive quotient. -/
def leadingPower (num den : Nat) : Int :=
  if den ≤ num then (digitCount (num / den) : Int) - 1
  else -(digitCount ((den + num - 1) / num - 1) : Int)

/-- The point `n * 10 ^ k` as a numerator and a denominator. -/
def gridPoint (n : Nat) (k : Int) : Nat × Nat :=
  if 0 ≤ k then (n * Nat.pow 10 k.toNat, 1) else (n, Nat.pow 10 (-k).toNat)

/-- The point of the grid of multiples of `10 ^ k` that lies in an interval and is nearest to
its value; of two equally near ones the even one. -/
def onGrid (i : Interval) (k : Int) : Option Nat :=
  let below :=
    if 0 ≤ k then i.value / (i.denominator * Nat.pow 10 k.toNat)
    else i.value * Nat.pow 10 (-k).toNat / i.denominator
  let inside (n : Nat) : Bool := i.holds (gridPoint n k).1 (gridPoint n k).2
  -- twice the value against the sum of the two neighbours, over a common denominator
  let (sum, den) := gridPoint (2 * below + 1) k
  let twice := 2 * i.value * den
  let middle := sum * i.denominator
  let lowerWins := decide (twice < middle) || (decide (twice = middle) && below % 2 == 0)
  match inside below, inside (below + 1) with
  | true, true => some (if lowerWins then below else below + 1)
  | true, false => some below
  | false, true => some (below + 1)
  | false, false => none

/-- Tries grids of ever more digits; 17 digits always suffice. -/
def search (i : Interval) (top : Int) : (tries : Nat) → (count : Nat) → Nat × Int
  | 0, count => (i.value / i.denominator, top - count)
  | tries + 1, count =>
    let k := top - count
    match onGrid i k with
    | some n => (n, k)
    | none => search i top tries (count + 1)

/-- Drops trailing zero digits and counts them into the power of ten. -/
def stripZeros : (fuel : Nat) → Nat → Int → Nat × Int
  | 0, n, k => (n, k)
  | fuel + 1, n, k => if n % 10 = 0 ∧ n ≠ 0 then stripZeros fuel (n / 10) (k + 1) else (n, k)

/-- The shortest digits of a nonzero magnitude and the power of ten of the first of them. -/
def digitsOf (x : Binary64) : List Char × Int :=
  let i := intervalOf x
  let top := leadingPower i.value i.denominator
  let (n, k) := search i top 17 0
  let (n, k) := stripZeros 20 n k
  let digits := Nat.toDigits 10 n
  (digits, k + digits.length - 1)

/-- Positional notation is used from this power of ten of the first digit on. -/
def lowestPositional : Int := -5

/-- Positional notation is used below this power of ten of the first digit. -/
def firstScientific : Int := 16

/-- A numeral in positional notation, with at least one digit on both sides of the point. -/
def positional (digits : List Char) (power : Int) : List Char :=
  if power < 0 then
    '0' :: '.' :: (List.replicate (-power - 1).toNat '0' ++ digits)
  else
    let whole := power.toNat + 1
    let padded := digits ++ List.replicate (whole - digits.length) '0'
    let fraction := padded.drop whole
    padded.take whole ++ '.' :: (if fraction.isEmpty then ['0'] else fraction)

/-- A numeral in scientific notation; the exponent carries its sign. -/
def scientific (digits : List Char) (power : Int) : List Char :=
  let sign := if power < 0 then '-' else '+'
  let tail := sign :: Nat.toDigits 10 power.natAbs
  match digits with
  | [d] => d :: 'e' :: tail
  | d :: rest => d :: '.' :: (rest ++ 'e' :: tail)
  | [] => 'e' :: tail

/-- The numeral of a magnitude. -/
def magnitudeText (x : Binary64) : List Char :=
  if x.magnitude = 0 then ['0', '.', '0']
  else
    let (digits, power) := digitsOf x
    if lowestPositional ≤ power ∧ power < firstScientific then positional digits power
    else scientific digits power

/-- The numeral written for a number: the shortest digits that read back, positional from
`10 ^ -5` up to `10 ^ 16` and scientific beyond. -/
def text (x : Binary64) : List Char :=
  if x.negative then '-' :: magnitudeText x else magnitudeText x

end Shortest

end Conformance
