import Mathlib.Algebra.Order.BigOperators.Group.List
import Mathlib.Algebra.Order.Ring.Nat
import Mathlib.Data.List.Basic
import Mathlib.Data.Option.Basic
import MergeTurn.StatusApi.Backoff

set_option autoImplicit false

/-!
# How often a call is made

A call is made again as long as it fails for a reason that may pass, attempts are left and there is
a delay to wait for. This decides how many attempts are made, what the call comes to and what is
waited for between the attempts, for every way in which the call may go.

## Main definitions

* `MergeTurn.StatusApi.mayPass` — an outcome is a failure that may pass.
* `MergeTurn.StatusApi.Backoff.GoesOn` — an attempt is followed by another.
* `MergeTurn.StatusApi.Backoff.Attempted` — an attempt is made.
* `MergeTurn.StatusApi.Trial.slept` — the time that a trial waits.
* `MergeTurn.StatusApi.Trial.KeepsTo` — a trial makes the attempts that it should, and no other.

## Main results

* `MergeTurn.StatusApi.Backoff.run?_of_attempted` — a run goes on from every attempt that is made.
* `MergeTurn.StatusApi.Backoff.attempted_iff_lt_calls` — the attempts of a run that ends are
  counted.
* `MergeTurn.StatusApi.Backoff.run?_eq_none_iff` — when a run has no outcome.
* `MergeTurn.StatusApi.Backoff.run_keepsTo` — every run keeps to its backoff.

## Design

A call is given by its outcome at each attempt. Nothing is assumed of these, so that the call may
succeed at any time, or never. Whether an attempt is made is said without the loop, by what came of
those before it; so it also makes sense for a run that has no outcome since a delay is undefined. A
span may be of any length, so it does not matter how long all delays are together.
-/

namespace MergeTurn.StatusApi

open Time (Span)

variable {α : Type}

/-- Whether an outcome is a failure that may pass. -/
def mayPass : Except Error α → Bool
  | .ok _ => false
  | .error e => e.isRetriable

/-- A failure may pass exactly if it is worth another attempt. -/
lemma mayPass_iff {o : Except Error α} :
    mayPass o = true ↔ ∃ e, o = .error e ∧ e.isRetriable = true := by
  cases o <;> simp [mayPass]

namespace Backoff

variable {b : Backoff} {call : Nat → Except Error α} {n : Nat}

/-! ## Delays in order -/

/-- Delays are listed exactly if each of them is defined. -/
lemma mapM_delay?_eq_some_iff {attempts : List Nat} {ds : List Span} :
    attempts.mapM b.delay? = some ds ↔ attempts.map b.delay? = ds.map some := by
  induction attempts generalizing ds with
  | nil => cases ds <;> simp
  | cons n attempts ih =>
    rw [List.mapM_cons, List.map_cons]
    constructor
    · intro h
      obtain ⟨d, hd, h⟩ := Option.bind_eq_some_iff.1 h
      obtain ⟨rest, hrest, h⟩ := Option.bind_eq_some_iff.1 h
      cases h
      rw [hd, ih.1 hrest, List.map_cons]
    · intro h
      cases ds with
      | nil => cases h
      | cons d ds =>
        obtain ⟨hd, hds⟩ := List.cons_eq_cons.1 h
        rw [hd, ih.2 hds]
        rfl

/-- The delays after the first attempts are the first of all delays. -/
lemma map_delay?_range {ds : List Span} (hds : b.delays? = some ds) (hn : n ≤ b.retries) :
    (List.range n).map b.delay? = (ds.take n).map some := by
  rw [List.map_take, ← mapM_delay?_eq_some_iff.1 hds, ← List.map_take, List.take_range,
    Nat.min_eq_left hn]

/-- If all delays are defined, there is one after each attempt but the last. -/
lemma isSome_delay? {ds : List Span} (hds : b.delays? = some ds) (hn : n < b.retries) :
    (b.delay? n).isSome = true := by
  have hmem : b.delay? n ∈ ds.map some := by
    rw [← mapM_delay?_eq_some_iff.1 hds]
    exact List.mem_map_of_mem (List.mem_range.2 hn)
  obtain ⟨d, -, hd⟩ := List.mem_map.1 hmem
  rw [← hd]
  rfl

/-! ## Attempts -/

/-- An attempt is followed by another: it fails for a reason that may pass, attempts are left, and
there is a delay to wait for. -/
def GoesOn (b : Backoff) (call : Nat → Except Error α) (n : Nat) : Prop :=
  mayPass (call n) = true ∧ n < b.retries ∧ (b.delay? n).isSome = true

/-- An attempt is made, counted from zero: each one before it is followed by another. -/
def Attempted (b : Backoff) (call : Nat → Except Error α) (n : Nat) : Prop :=
  ∀ m < n, b.GoesOn call m

/-- The first attempt is made. -/
lemma attempted_zero : b.Attempted call 0 :=
  fun _ h => absurd h (Nat.not_lt_zero _)

/-- An attempt is made if the one before is made and followed by another. -/
lemma attempted_succ : b.Attempted call (n + 1) ↔ b.Attempted call n ∧ b.GoesOn call n :=
  Nat.forall_lt_succ_right

/-- No more attempts are made than are left after the first. -/
lemma Attempted.le (h : b.Attempted call n) : n ≤ b.retries := by
  cases n with
  | zero => exact Nat.zero_le _
  | succ n => exact (attempted_succ.1 h).2.2.1

/-- Some attempt is made that is not followed by another. -/
lemma exists_last (b : Backoff) (call : Nat → Except Error α) :
    ∃ n, b.Attempted call n ∧ ¬ b.GoesOn call n := by
  by_contra h
  push Not at h
  have hall : ∀ n, b.Attempted call n := fun n => by
    induction n with
    | zero => exact attempted_zero
    | succ n ih => exact attempted_succ.2 ⟨ih, h n ih⟩
  have hmore := (hall (b.retries + 1)).le
  omega

/-- What is attempted are the attempts up to the one that is not followed by another. -/
lemma attempted_iff_le {last : Nat} (h : b.Attempted call last) (hstop : ¬ b.GoesOn call last) :
    b.Attempted call n ↔ n ≤ last := by
  constructor
  · intro hn
    by_contra hlt
    exact hstop (hn last (Nat.not_le.1 hlt))
  · exact fun hle m hm => h m (Nat.lt_of_lt_of_le hm hle)

/-! ## Runs -/

/-- One attempt that is followed by another leaves the rest of the run, one attempt later. -/
lemma runFrom?_of_goesOn {left : Nat} {d : Span} (hpass : mayPass (call n) = true)
    (hd : b.delay? n = some d) :
    b.runFrom? call (left + 1) n =
      (b.runFrom? call left (n + 1)).map fun t => { t with waits := d :: t.waits } := by
  obtain ⟨e, hcall, hagain⟩ := mayPass_iff.1 hpass
  rw [runFrom?, hcall]
  dsimp only
  rw [if_pos hagain, hd]
  cases b.runFrom? call left (n + 1) <;> rfl

/-- An attempt ends the run if it does not fail for a reason that may pass, or none is left. -/
lemma runFrom?_of_ends {left : Nat} (h : mayPass (call n) = true → left = 0) :
    b.runFrom? call left n = some ⟨call n, n + 1, []⟩ := by
  unfold runFrom?
  cases hcall : call n with
  | ok a => rfl
  | error e =>
    by_cases hagain : e.isRetriable = true
    · rw [h (mayPass_iff.2 ⟨e, hcall, hagain⟩)]
      exact if_pos hagain
    · exact if_neg hagain

/-- A run breaks off where a delay is undefined. -/
lemma runFrom?_of_undefined {left : Nat} (hpass : mayPass (call n) = true)
    (hd : b.delay? n = none) : b.runFrom? call (left + 1) n = none := by
  obtain ⟨e, hcall, hagain⟩ := mayPass_iff.1 hpass
  rw [runFrom?, hcall]
  dsimp only
  rw [if_pos hagain, hd]
  rfl

/-- A run goes on from every attempt that is made, after the delays before it.

**Proof sketch.** By induction on the attempt: one that is followed by another adds its delay. -/
theorem run?_of_attempted (h : b.Attempted call n) :
    ∃ waits : List Span, (List.range n).map b.delay? = waits.map some ∧
      b.run? call =
        (b.runFrom? call (b.retries - n) n).map fun t => { t with waits := waits ++ t.waits } := by
  induction n with
  | zero => exact ⟨[], rfl, by simp [run?]⟩
  | succ n ih =>
    obtain ⟨hn, hpass, hleft, hdelay⟩ := attempted_succ.1 h
    obtain ⟨d, hd⟩ := Option.isSome_iff_exists.1 hdelay
    obtain ⟨waits, hwaits, hrun⟩ := ih hn
    refine ⟨waits ++ [d], by rw [List.range_succ, List.map_append, hwaits]; simp [hd], ?_⟩
    have hone : b.retries - n = b.retries - (n + 1) + 1 := by omega
    rw [hrun, hone, runFrom?_of_goesOn hpass hd, Option.map_map]
    simp [Function.comp_def]

/-- A run ends with the attempt that does not fail for a reason that may pass, or after which none
is left. -/
lemma run?_of_ends (h : b.Attempted call n) (hends : mayPass (call n) = true → b.retries ≤ n) :
    ∃ waits : List Span, (List.range n).map b.delay? = waits.map some ∧
      b.run? call = some ⟨call n, n + 1, waits⟩ := by
  obtain ⟨waits, hwaits, hrun⟩ := run?_of_attempted h
  refine ⟨waits, hwaits, ?_⟩
  rw [hrun, runFrom?_of_ends fun hpass => Nat.sub_eq_zero_of_le (hends hpass)]
  simp

/-- A run has no outcome if a delay that is to be waited for is undefined. -/
lemma run?_of_undefined (h : b.Attempted call n) (hpass : mayPass (call n) = true)
    (hleft : n < b.retries) (hd : b.delay? n = none) : b.run? call = none := by
  obtain ⟨waits, -, hrun⟩ := run?_of_attempted h
  have hone : b.retries - n = b.retries - (n + 1) + 1 := by omega
  rw [hrun, hone, runFrom?_of_undefined hpass hd]
  rfl

/-- The last attempt either ends the run or is left without a delay. -/
lemma ends_or_undefined (hstop : ¬ b.GoesOn call n) :
    (mayPass (call n) = true → b.retries ≤ n) ∨
      (mayPass (call n) = true ∧ n < b.retries ∧ b.delay? n = none) := by
  by_cases hends : mayPass (call n) = true → b.retries ≤ n
  · exact .inl hends
  · obtain ⟨hpass, hnone⟩ := Classical.not_imp.1 hends
    have hleft : n < b.retries := Nat.not_le.1 hnone
    refine .inr ⟨hpass, hleft, ?_⟩
    by_contra hd
    exact hstop ⟨hpass, hleft, Option.isSome_iff_ne_none.2 hd⟩

/-- A run that has an outcome counts the attempts up to the last, and has come to what that came
to. -/
lemma exists_of_run? {t : Trial α} (h : b.run? call = some t) :
    ∃ last, b.Attempted call last ∧ ¬ b.GoesOn call last ∧ t.calls = last + 1 ∧
      t.result = call last := by
  obtain ⟨last, hlast, hstop⟩ := exists_last b call
  obtain hends | ⟨hpass, hleft, hd⟩ := ends_or_undefined hstop
  · obtain ⟨waits, -, hrun⟩ := run?_of_ends hlast hends
    cases h.symm.trans hrun
    exact ⟨last, hlast, hstop, rfl, rfl⟩
  · cases h.symm.trans (run?_of_undefined hlast hpass hleft hd)

/-- The attempts of a run that ends are those that it counts. -/
theorem attempted_iff_lt_calls {t : Trial α} (h : b.run? call = some t) :
    b.Attempted call n ↔ n < t.calls := by
  obtain ⟨last, hlast, hstop, hcalls, -⟩ := exists_of_run? h
  rw [attempted_iff_le hlast hstop, hcalls]
  exact Nat.lt_succ_iff.symm

/-- A run has no outcome exactly if some attempt is to be followed by another but its delay is
undefined. -/
theorem run?_eq_none_iff :
    b.run? call = none ↔
      ∃ n, b.Attempted call n ∧ mayPass (call n) = true ∧ n < b.retries ∧ b.delay? n = none := by
  constructor
  · intro h
    obtain ⟨last, hlast, hstop⟩ := exists_last b call
    obtain hends | hundefined := ends_or_undefined hstop
    · obtain ⟨waits, -, hrun⟩ := run?_of_ends hlast hends
      cases h.symm.trans hrun
    · exact ⟨last, hlast, hundefined⟩
  · rintro ⟨n, hn, hpass, hleft, hd⟩
    exact run?_of_undefined hn hpass hleft hd

end Backoff

/-! ## Keeping to a backoff -/

/-- The nanoseconds that a trial waits, between all its attempts. -/
def Trial.slept (t : Trial α) : Nat :=
  (t.waits.map Span.nanos).sum

/-- A trial makes exactly the attempts that it should by its backoff, whose delays are given: it
stops at the first attempt that does not fail for a reason that may pass, or when none is left,
comes to what that attempt came to, and waits between the attempts for the delays in order. That
takes no longer than the backoff allows for, and just as long if every attempt was made. -/
structure Trial.KeepsTo (b : Backoff) (call : Nat → Except Error α) (ds : List Span)
    (t : Trial α) : Prop where
  calls_of_settled : ∀ n, mayPass (call n) = false → (∀ i < n, mayPass (call i) = true) →
    t.calls = min n b.retries + 1
  calls_of_unsettled : (∀ i, mayPass (call i) = true) → t.calls = b.retries + 1
  result_eq : t.result = call (t.calls - 1)
  /-- Nothing is called after a success or a failure for good. -/
  again : ∀ i, i + 1 < t.calls → mayPass (call i) = true
  /-- Between an attempt and the next the delay after that attempt is waited for. -/
  wait : ∀ i, i + 1 < t.calls → t.waits[i]? = b.delay? i
  waits_eq : t.waits = ds.take (t.calls - 1)
  /-- Nothing is waited for after the last attempt. -/
  length_waits : t.waits.length + 1 = t.calls
  slept_le : t.slept ≤ (Backoff.total ds).nanos
  slept_eq : t.calls = b.retries + 1 → t.slept = (Backoff.total ds).nanos

namespace Backoff

variable {b : Backoff} {call : Nat → Except Error α}

/-- If all delays of a backoff are defined, some attempt is the last. -/
lemma exists_ends {ds : List Span} (hds : b.delays? = some ds) (call : Nat → Except Error α) :
    ∃ n, b.Attempted call n ∧ (mayPass (call n) = true → b.retries ≤ n) := by
  obtain ⟨n, hn, hstop⟩ := exists_last b call
  obtain hends | ⟨-, hleft, hd⟩ := ends_or_undefined hstop
  · exact ⟨n, hn, hends⟩
  · have hsome := isSome_delay? hds hleft
    rw [hd] at hsome
    cases hsome

/-- The time that a call which never succeeds is waited for is the sum of the delays. -/
lemma total_nanos (ds : List Span) : (total ds).nanos = (ds.map Span.nanos).sum := by
  induction ds with
  | nil => rfl
  | cons d ds ih => exact congrArg (d.nanos + ·) ih

/-- If all delays of a backoff are defined, every call made by it has an outcome and keeps to the
backoff.

**Proof sketch.** Some attempt is the last. It is not left without a delay, so it ends the run, and
all before it failed for a reason that may pass. So it is the first that did not, or no attempt is
left after it, whichever comes first. -/
theorem run_keepsTo (b : Backoff) (call : Nat → Except Error α) {ds : List Span}
    (hds : b.delays? = some ds) : ∃ t, b.run? call = some t ∧ t.KeepsTo b call ds := by
  obtain ⟨n, hn, hends⟩ := exists_ends hds call
  obtain ⟨waits, hwaits, hrun⟩ := run?_of_ends hn hends
  have hle : n ≤ b.retries := hn.le
  have hpassed : ∀ i < n, mayPass (call i) = true := fun i hi => (hn i hi).1
  have hlength : ds.length = b.retries := by
    simpa using congrArg List.length (mapM_delay?_eq_some_iff.1 hds).symm
  have htake : waits = ds.take n :=
    List.map_injective_iff.2 (Option.some_injective _)
      (hwaits.symm.trans (map_delay?_range hds hle))
  refine ⟨_, hrun, ?_⟩
  constructor
  case calls_of_settled =>
    intro m hm hbefore
    have hnm : n ≤ m := Nat.not_lt.1 fun hlt => by
      cases hm.symm.trans (hpassed m hlt)
    have hlast : n < m → b.retries ≤ n := fun hlt => hends (hbefore n hlt)
    dsimp only
    omega
  case calls_of_unsettled =>
    intro hall
    have hall := hends (hall n)
    dsimp only
    omega
  case result_eq => rfl
  case again => exact fun i hi => hpassed i (Nat.lt_of_succ_lt_succ hi)
  case wait =>
    intro i hi
    have hi : i < n := Nat.lt_of_succ_lt_succ hi
    have hdelay : waits[i]?.map some = some (b.delay? i) := by
      rw [← List.getElem?_map, ← hwaits, List.getElem?_map, List.getElem?_range hi, Option.map_some]
    obtain ⟨d, hd, hdelay⟩ := Option.map_eq_some_iff.1 hdelay
    rw [← hdelay]
    exact hd
  case waits_eq => exact htake
  case length_waits =>
    rw [htake, List.length_take]
    dsimp only
    omega
  case slept_le =>
    rw [Trial.slept, htake, total_nanos]
    exact ((List.take_sublist n ds).map Span.nanos).sum_le_sum fun _ _ => Nat.zero_le _
  case slept_eq =>
    intro hcalls
    have hall : ds.length ≤ n := by
      dsimp only at hcalls
      omega
    rw [Trial.slept, htake, List.take_of_length_le hall, total_nanos]

/-- The delays of the usual backoff: half a second, one and two seconds. -/
lemma standard_delays? : standard.delays? = some [.ofMillis 500, .ofSeconds 1, .ofSeconds 2] := by
  decide +kernel

/-- A call that fails twice for a reason that may pass and then succeeds. -/
def busyTwice (n : Nat) : Except Error Nat :=
  if n < 2 then .error (.transient "busy") else .ok n

/-- Such a call has an outcome by the usual backoff, and keeps to it. -/
theorem run_keepsTo_busyTwice :
    standard.delays? = some [.ofMillis 500, .ofSeconds 1, .ofSeconds 2] ∧
      ∃ t, standard.run? busyTwice = some t ∧
        t.KeepsTo standard busyTwice [.ofMillis 500, .ofSeconds 1, .ofSeconds 2] :=
  ⟨standard_delays?, run_keepsTo standard busyTwice standard_delays?⟩

end Backoff

end MergeTurn.StatusApi
