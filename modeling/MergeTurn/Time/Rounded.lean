import MergeTurn.Time.Span

set_option autoImplicit false

/-!
# Spans and floating-point seconds

Delays that grow by a factor are computed in seconds as doubles. Only the result is rounded to
whole nanoseconds.

## Main definitions

* `MergeTurn.Time.Span.seconds` — the seconds of a span.
* `MergeTurn.Time.Span.ofSeconds?` — the span nearest to a number of seconds.
* `MergeTurn.Time.power` — powers of a double by squaring.
-/

namespace MergeTurn.Time

/-- A quotient rounded to the nearest whole number, a half to the even neighbour. -/
def divNearest (num den : Nat) : Nat :=
  let q := num / den
  let rest := 2 * (num % den)
  if den < rest ∨ (rest = den ∧ q % 2 = 1) then q + 1 else q

example : divNearest 5 2 = 2 ∧ divNearest 7 2 = 4 ∧ divNearest 8 3 = 3 ∧ divNearest 7 3 = 2 := by
  decide

/-- The mantissa and the exponent of two of the absolute value of a finite double. -/
def decompose (x : Float) : Nat × Int :=
  let bits : Nat := x.toBits.toNat
  let fraction : Nat := bits % Nat.pow 2 52
  let exponent : Nat := bits / Nat.pow 2 52 % Nat.pow 2 11
  if exponent = 0 then (fraction, -1074) else (fraction + Nat.pow 2 52, (exponent : Int) - 1075)

/-- A multiple of the absolute value of a finite double, rounded to the nearest whole number. -/
def timesNearest (n : Nat) (x : Float) : Nat :=
  let (mantissa, exponent) := decompose x
  if 0 ≤ exponent then n * mantissa * Nat.pow 2 exponent.toNat
  else divNearest (n * mantissa) (Nat.pow 2 exponent.natAbs)

namespace Span

/-- The seconds of a span, as a double. -/
def seconds (s : Span) : Float :=
  Float.ofNat (s.nanos / 1000000000) + Float.ofNat (s.nanos % 1000000000) / 1e9

/-- The span of a number of seconds to the nearest nanosecond. There is none for less than no time,
for what is not a number, and for more seconds than 64 bits can count. -/
def ofSeconds? (x : Float) : Option Span :=
  if 0 ≤ x ∧ x < 18446744073709551616 then some ⟨timesNearest 1000000000 x⟩ else none

end Span

/-- The powers of a double with natural exponents, by squaring, times a first factor. -/
def powerFrom (result base : Float) (exponent : Nat) : Float :=
  let result := if exponent % 2 = 1 then result * base else result
  if exponent / 2 = 0 then result else powerFrom result (base * base) (exponent / 2)
termination_by exponent

/-- A power of a double. -/
def power (base : Float) (exponent : Int) : Float :=
  let p := powerFrom 1 base exponent.natAbs
  if exponent < 0 then 1 / p else p

/-- The lesser of two doubles, where what is not a number is never the lesser. -/
def lesser (x y : Float) : Float :=
  if x < y then x else y

end MergeTurn.Time
