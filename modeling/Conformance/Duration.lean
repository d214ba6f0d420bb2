/-!
# Durations

Spans of time with a resolution of one nanosecond, and the text they are shown with.

## Main definitions

- `Duration` — a span of time
- `Duration.millis` — its whole milliseconds
- `Duration.ticks` — the milliseconds in which it has passed, the unit of the clock
- `Duration.text` — the largest unit that fits, with as many decimals as needed
-/

namespace Conformance

/-- A span of time. -/
structure Duration where
  nanos : Nat
  deriving DecidableEq, Repr, Inhabited

namespace Duration

/-- A span of whole milliseconds. -/
def ofMillis (ms : Nat) : Duration := ⟨ms * 1000000⟩

/-- A span of whole seconds. -/
def ofSeconds (s : Nat) : Duration := ⟨s * 1000000000⟩

/-- The whole milliseconds of a span. -/
def millis (d : Duration) : Nat := d.nanos / 1000000

/-- The milliseconds after which a span has passed: timers do not go off early. -/
def ticks (d : Duration) : Nat := (d.nanos + 999999) / 1000000

/-- A span has passed after its ticks. -/
theorem nanos_le_ticks (d : Duration) : d.nanos ≤ d.ticks * 1000000 := by
  unfold ticks
  omega

@[simp] theorem ticks_ofSeconds (s : Nat) : (ofSeconds s).ticks = s * 1000 := by
  simp only [ticks, ofSeconds]
  omega

/-- The decimals of `rest / scale`, without trailing zeros; `scale` is a power of ten. -/
def decimals : (places : Nat) → (rest scale : Nat) → List Char
  | 0, _, _ => []
  | places + 1, rest, scale =>
    if rest = 0 then []
    else Nat.toDigits 10 (rest / (scale / 10)) ++ decimals places (rest % (scale / 10)) (scale / 10)

/-- `nanos / scale` in decimal notation, followed by the name of the unit. -/
def inUnit (nanos scale : Nat) (unit : String) : String :=
  let fraction := decimals 9 (nanos % scale) scale
  let point := if fraction.isEmpty then [] else '.' :: fraction
  toString (nanos / scale) ++ String.ofList point ++ unit

/-- A span is shown in the largest unit of which it holds at least one: seconds, milliseconds,
microseconds or nanoseconds. -/
def text (d : Duration) : String :=
  if 1000000000 ≤ d.nanos then inUnit d.nanos 1000000000 "s"
  else if 1000000 ≤ d.nanos then inUnit d.nanos 1000000 "ms"
  else if 1000 ≤ d.nanos then inUnit d.nanos 1000 "µs"
  else inUnit d.nanos 1 "ns"

end Duration

end Conformance
