set_option autoImplicit false

/-!
# Spans of time

Delays are counted in nanoseconds. Settings are shown in the largest unit that leaves a whole
part, with as many decimal places as are needed.

## Main definitions

* `MergeTurn.Time.Span` — a span of time.
* `MergeTurn.Time.Span.toText` — its text, such as `1.5s` or `250ms`.
* `MergeTurn.Time.Span.ticks` — the milliseconds a clock that ticks in milliseconds waits for it.
-/

namespace MergeTurn.Time

/-- A span of time in nanoseconds. -/
structure Span where
  nanos : Nat
deriving DecidableEq, Repr

namespace Span

/-- A span of whole milliseconds. -/
def ofMillis (n : Nat) : Span := ⟨n * 1000000⟩

/-- A span of whole seconds. -/
def ofSeconds (n : Nat) : Span := ⟨n * 1000000000⟩

/-- The whole milliseconds of a span. -/
def millis (s : Span) : Nat := s.nanos / 1000000

/-- The number of milliseconds after which a clock that ticks in milliseconds has waited for all
of a span. -/
def ticks (s : Span) : Nat := (s.nanos + 999999) / 1000000

theorem ticks_ofMillis (n : Nat) : (ofMillis n).ticks = n := by
  simp only [ticks, ofMillis]; omega

/-- The decimal places of a fraction below `10 ^ width`, without trailing zeros. -/
def decimals (width fraction : Nat) : List Char :=
  let ds := Nat.toDigits 10 fraction
  let places := List.replicate (width - ds.length) '0' ++ ds
  let shown := (places.reverse.dropWhile (· == '0')).reverse
  if fraction = 0 then [] else '.' :: shown

/-- The written form of a span in a unit of `10 ^ width` nanoseconds. -/
def inUnit (width : Nat) (unit : String) (nanos : Nat) : String :=
  let whole := Nat.pow 10 width
  String.ofList (Nat.toDigits 10 (nanos / whole) ++ decimals width (nanos % whole)) ++ unit

/-- The text of a span, in the largest unit of which it is at least one. -/
def toText (s : Span) : String :=
  if 1000000000 ≤ s.nanos then inUnit 9 "s" s.nanos
  else if 1000000 ≤ s.nanos then inUnit 6 "ms" s.nanos
  else if 1000 ≤ s.nanos then inUnit 3 "µs" s.nanos
  else inUnit 0 "ns" s.nanos

example : (ofMillis 250).toText = "250ms" ∧ (ofMillis 1500).toText = "1.5s" ∧
    (ofMillis 0).toText = "0ns" ∧ (ofMillis 123456).toText = "123.456s" := by decide +kernel

end Span

end MergeTurn.Time
