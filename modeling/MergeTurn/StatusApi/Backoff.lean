import MergeTurn.StatusApi.Error
import MergeTurn.Time.Rounded

set_option autoImplicit false

/-!
# Trying again

A call that failed for a reason that may pass is made again, after a delay that grows from attempt
to attempt.

## Main definitions

* `MergeTurn.StatusApi.Backoff` — how often and after which delays a call is made again.
* `MergeTurn.StatusApi.Backoff.delay?` — the delay after an attempt.
* `MergeTurn.StatusApi.Backoff.run?` — a call with its further attempts.

## Design

A delay may be undefined, since the factor may be any number. Then the call has no outcome.
-/

namespace MergeTurn.StatusApi

open Time (Span)

/-- How often and after which delays a call is made again. -/
structure Backoff where
  retries : Nat
  first : Span
  longest : Span
  /-- By what each delay is multiplied to give the next. -/
  factor : Float

/-- The outcome of a call with all its attempts. -/
structure Trial (α : Type) where
  /-- The outcome of the last attempt. -/
  result : Except Error α
  /-- The number of attempts. -/
  calls : Nat
  /-- The delays between the attempts. -/
  waits : List Span

namespace Backoff

/-- Three more attempts, after half a second, one and two seconds. -/
def standard : Backoff := ⟨3, .ofMillis 500, .ofSeconds 4, 2⟩

/-- No further attempts. -/
def never : Backoff := ⟨0, ⟨0⟩, ⟨0⟩, 1⟩

/-- The exponent of an attempt: its number as a signed 32-bit word. -/
def exponent (attempt : Nat) : Int :=
  if 2 * attempt < UInt32.size then attempt else (attempt : Int) - UInt32.size

/-- The delay after an attempt, counted from zero: the first delay times a power of the factor, but
no more than the longest. -/
def delay? (b : Backoff) (attempt : Nat) : Option Span :=
  Span.ofSeconds? (Time.lesser (b.first.seconds * Time.power b.factor (exponent attempt))
    b.longest.seconds)

/-- The delays after the first attempts, as many as may be waited for. -/
def delays? (b : Backoff) : Option (List Span) :=
  (List.range b.retries).mapM b.delay?

/-- The time that is waited for a call that never succeeds. -/
def total (delays : List Span) : Span :=
  ⟨delays.foldr (fun d n => d.nanos + n) 0⟩

/-- Makes a call from an attempt on, with a number of further attempts. The call is given by its
outcome at each attempt. -/
def runFrom? {α : Type} (b : Backoff) (call : Nat → Except Error α) :
    Nat → Nat → Option (Trial α)
  | left, attempt =>
    match call attempt with
    | .ok a => some ⟨.ok a, attempt + 1, []⟩
    | .error e =>
      if e.isRetriable then
        match left with
        | 0 => some ⟨.error e, attempt + 1, []⟩
        | left + 1 => do
          let delay ← b.delay? attempt
          let trial ← runFrom? b call left (attempt + 1)
          return { trial with waits := delay :: trial.waits }
      else some ⟨.error e, attempt + 1, []⟩

/-- Makes a call until it succeeds, fails for good, or no further attempt is left. -/
def run? {α : Type} (b : Backoff) (call : Nat → Except Error α) : Option (Trial α) :=
  b.runFrom? call b.retries 0

end Backoff

/-- The milliseconds that a trial takes by a clock that ticks in milliseconds. -/
def Trial.elapsed {α : Type} (t : Trial α) : Nat :=
  t.waits.foldr (fun d n => d.ticks + n) 0

end MergeTurn.StatusApi
