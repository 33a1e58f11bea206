import Mathlib.Logic.Relation
import MergeTurn.Proofs.Service.Beats
import MergeTurn.Proofs.Service.Closing

set_option autoImplicit false

/-!
# How time passes

The service lets time pass in one stride: all tasks run, then alarms ring in order, and the clock is
set to the time of each. This is the same as going on by one millisecond after the other, with every
alarm at its time. So what is so of all beats is so of strides.

## Main definitions

* `MergeTurn.Service.Passes` — time passes by ticks and by alarms that ring in order.

## Main results

* `MergeTurn.Service.Tallied.passes_advance` — a number of milliseconds passes by ticks and alarms.
* `MergeTurn.Service.Tallied.passes_drain` — so it does until nothing is left to wait for.
* `MergeTurn.Service.advance_eq_beats`, `MergeTurn.Service.drain_eq_beats` — strides are beats.
-/

namespace MergeTurn.Service

variable {d : Docket} {s t : Service Memory}

/-! ## Beats one after the other -/

/-- The service after beats, one after the other. -/
def afterBeats (beats : List (Beat Memory)) (s : Service Memory) : Service Memory :=
  beats.foldl (fun s x => s.beat x) s

/-- What happens to the lanes does not matter for what the service does. -/
lemma journal_snd (beats : List (Beat Memory)) (past : List Stamp) (s : Service Memory) :
    (journal beats past s).2 = s.afterBeats beats := by
  induction beats generalizing past s with
  | nil => rfl
  | cons x beats ih => exact ih ..

/-- Beats may follow beats. -/
lemma afterBeats_append (before after : List (Beat Memory)) (s : Service Memory) :
    s.afterBeats (before ++ after) = (s.afterBeats before).afterBeats after :=
  List.foldl_append

/-- After any beats the service still remembers what the docket says. -/
lemma Tallied.afterBeats (h : Tallied d s) (beats : List (Beat Memory)) :
    ∃ d', Tallied d' (s.afterBeats beats) := by
  induction beats generalizing d s with
  | nil => exact ⟨d, h⟩
  | cons x beats ih =>
    by_cases hx : x = .tick
    · exact ih (hx ▸ h.tick)
    · exact ih (h.beat hx).tallied

/-- Tasks are run one after the other. -/
lemma settle_eq_beats (s : Service Memory) :
    s.settle = s.afterBeats (List.replicate s.tasks.length (.task 0)) := by
  have hrun : ∀ (n : Nat) (s : Service Memory),
      s.runTasks n = s.afterBeats (List.replicate n (.task 0)) := by
    intro n
    induction n with
    | zero => exact fun _ => rfl
    | succ n ih =>
      intro s
      rw [runTasks, ih, ← runAt_zero, List.replicate_succ]
      rfl
  exact hrun _ s

/-! ## Ticks and alarms -/

/-- The clock ticks, or the first alarm rings. -/
inductive Elapses (s : Service Memory) : Service Memory → Prop
  | tick : Elapses s (s.beat .tick)
  | alarm : Elapses s (s.beat (.alarm 0))

/-- Time passes by ticks, and by alarms that ring in order. -/
def Passes : Service Memory → Service Memory → Prop := Relation.ReflTransGen Elapses

/-- Time that passes by ticks and alarms passes by beats. -/
lemma Passes.exists_beats (h : Passes s t) : ∃ beats, t = s.afterBeats beats := by
  induction h with
  | refl => exact ⟨[], rfl⟩
  | tail _ hlast ih =>
    obtain ⟨beats, rfl⟩ := ih
    cases hlast with
    | tick => exact ⟨beats ++ [.tick], by rw [afterBeats_append]; rfl⟩
    | alarm => exact ⟨beats ++ [.alarm 0], by rw [afterBeats_append]; rfl⟩

/-- While time passes the service goes on to remember what the docket says. -/
lemma Passes.tallied (h : Passes s t) (hs : Tallied d s) : ∃ d', Tallied d' t := by
  obtain ⟨beats, rfl⟩ := h.exists_beats
  exact hs.afterBeats beats

/-- The clock goes on up to the time of the first alarm. -/
lemma passes_wait (n : Nat) (hdue : ∀ a ∈ s.alarms, s.now + n ≤ a.due) :
    Passes s { s with now := s.now + n } := by
  induction n with
  | zero => exact .refl
  | succ n ih =>
    have hwait := ih fun a ha => Nat.le_of_succ_le (hdue a ha)
    have htick := Elapses.tick (s := { s with now := s.now + n })
    have hlater : s.alarms.all (s.now + n < ·.due) = true :=
      List.all_eq_true.2 fun a ha => decide_eq_true (hdue a ha)
    rw [beat, if_pos hlater] at htick
    exact hwait.tail htick

namespace Tallied

/-- With no task left, the next alarm rings at its time, and leaves the others as they are. -/
lemma ringNext_eq (h : Tallied d s) (hidle : s.tasks = []) {a : Alarm} {rest : List Alarm}
    (halarms : s.alarms = a :: rest) :
    Passes s s.ringNext ∧ s.ringNext.tasks = [] ∧ s.ringNext.alarms = rest ∧
      s.ringNext.now = a.due := by
  have hnow : s.now ≤ a.due := (h.matched a (by simp [halarms])).2.1
  have hsorted : ∀ b ∈ s.alarms, a.due ≤ b.due := by
    have hpairwise := h.sorted
    rw [halarms] at hpairwise ⊢
    exact List.forall_mem_cons.2 ⟨Nat.le_refl _, (List.pairwise_cons.1 hpairwise).1⟩
  -- The clock goes on to the time of the alarm, which rings then.
  have hwait : Passes s { s with now := a.due } := by
    have hpasses := passes_wait (s := s) (a.due - s.now)
    rw [Nat.add_sub_cancel' hnow] at hpasses
    exact hpasses hsorted
  obtain ⟨d', hd'⟩ := hwait.tallied h
  have hring : Service.beat (.alarm 0) { s with now := a.due } =
      { s with alarms := rest, now := a.due }.ring a := by
    simp [Service.beat, ringAt, halarms]
  obtain ⟨error, events, heq⟩ := hd'.ring_eq (i := 0) (a := a) (by simp [halarms])
  simp only [halarms, List.eraseIdx_cons_zero] at heq
  have hnext : s.ringNext = { s with alarms := rest, now := a.due }.ring a := by
    simp only [ringNext, halarms]
    exact settle_of_idle (by rw [heq]; exact hidle)
  refine ⟨hwait.tail (hnext.trans hring.symm ▸ .alarm), ?_⟩
  rw [hnext, heq]
  exact ⟨hidle, rfl, rfl⟩

/-- With no task left, alarms ring at their times, up to a time, until the others are due later. -/
lemma passes_ringUntil (h : Tallied d s) (hidle : s.tasks = []) {time : Nat} (hnow : s.now ≤ time)
    (n : Nat) : Passes s (s.ringUntil time n) ∧ (s.ringUntil time n).tasks = [] ∧
      (s.ringUntil time n).now ≤ time ∧
      (s.alarms.length ≤ n → ∀ a ∈ (s.ringUntil time n).alarms, time ≤ a.due) := by
  induction n generalizing d s with
  | zero =>
    refine ⟨.refl, hidle, hnow, fun hlength a ha => ?_⟩
    rw [ringUntil, List.eq_nil_of_length_eq_zero (Nat.le_zero.1 hlength)] at ha
    cases ha
  | succ n ih =>
    cases halarms : s.alarms with
    | nil =>
      simp only [ringUntil, halarms]
      exact ⟨.refl, hidle, hnow, by simp⟩
    | cons a rest =>
      simp only [ringUntil, halarms]
      split_ifs with hdue
      · obtain ⟨hpasses, htasks, hrest, htime⟩ := h.ringNext_eq hidle halarms
        obtain ⟨d', hd'⟩ := hpasses.tallied h
        obtain ⟨hlater, hleft⟩ := ih hd' htasks (htime ▸ hdue)
        rw [hrest] at hleft
        exact ⟨hpasses.trans hlater, hleft.1, hleft.2.1,
          fun hlength => hleft.2.2 (Nat.le_of_succ_le_succ hlength)⟩
      · refine ⟨.refl, hidle, hnow, fun _ b hb => ?_⟩
        have hpairwise := h.sorted
        rw [halarms] at hpairwise hb
        have hlate := Nat.le_of_lt (Nat.lt_of_not_le hdue)
        rcases List.mem_cons.1 hb with rfl | hb
        · exact hlate
        · exact Nat.le_trans hlate ((List.pairwise_cons.1 hpairwise).1 b hb)

/-- With no task left, a number of milliseconds passes by ticks and by alarms that ring in order. -/
theorem passes_advance (h : Tallied d s) (hidle : s.tasks = []) (ms : Nat) :
    Passes s (s.advance ms) := by
  obtain ⟨hpasses, -, hnow, hdue⟩ :=
    h.passes_ringUntil hidle (Nat.le_add_right s.now ms) s.alarms.length
  have hwait := passes_wait (s := s.ringUntil (s.now + ms) s.alarms.length)
    (s.now + ms - (s.ringUntil (s.now + ms) s.alarms.length).now)
  rw [Nat.add_sub_cancel' hnow] at hwait
  simp only [advance, settle_of_idle hidle]
  exact hpasses.trans (hwait (hdue (Nat.le_refl _)))

/-- With no task left, time passes by ticks and by alarms until no alarm is left either. -/
theorem passes_drain (h : Tallied d s) (hidle : s.tasks = []) :
    Passes s s.drain ∧ s.drain.tasks = [] ∧ s.drain.alarms = [] := by
  have hall : ∀ (n : Nat) {d : Docket} {s : Service Memory}, Tallied d s → s.tasks = [] →
      s.alarms.length = n →
      Passes s (s.ringAll n) ∧ (s.ringAll n).tasks = [] ∧ (s.ringAll n).alarms = [] := by
    intro n
    induction n with
    | zero => exact fun _ hidle hlength => ⟨.refl, hidle, List.eq_nil_of_length_eq_zero hlength⟩
    | succ n ih =>
      intro d s h hidle hlength
      obtain ⟨a, rest, halarms⟩ := List.exists_cons_of_length_eq_add_one hlength
      obtain ⟨hpasses, htasks, hrest, -⟩ := h.ringNext_eq hidle halarms
      obtain ⟨d', hd'⟩ := hpasses.tallied h
      obtain ⟨hlater, hnone⟩ := ih hd' htasks (by simpa [hrest, halarms] using hlength)
      exact ⟨hpasses.trans hlater, hnone⟩
  simp only [drain, settle_of_idle hidle]
  exact hall _ h hidle rfl

end Tallied

/-! ## Strides -/

/-- When all tasks have run the service still remembers what the docket says. -/
lemma Tallied.settle (h : Tallied d s) : ∃ d', Tallied d' s.settle := by
  rw [settle_eq_beats]
  exact h.afterBeats _

/-- After all tasks have run, what passes by ticks and alarms passes by beats from the beginning. -/
lemma exists_beats_of_settle (h : Passes s.settle t) :
    ∃ beats, ∀ past, (journal beats past s).2 = t := by
  obtain ⟨beats, rfl⟩ := h.exists_beats
  refine ⟨List.replicate s.tasks.length (.task 0) ++ beats, fun past => ?_⟩
  rw [journal_snd, afterBeats_append, ← settle_eq_beats]

/-- A stride in time is a run of beats. -/
theorem advance_eq_beats (h : Tallied d s) (ms : Nat) :
    ∃ beats, ∀ past, (journal beats past s).2 = s.advance ms := by
  obtain ⟨d', hd'⟩ := h.settle
  have hpasses := hd'.passes_advance s.tasks_settle ms
  rw [advance, settle_of_idle s.tasks_settle] at hpasses
  exact exists_beats_of_settle hpasses

/-- So it is to let time pass until nothing is left to wait for, and then no result is pending. -/
theorem drain_eq_beats (h : Tallied d s) :
    (∃ beats, ∀ past, (journal beats past s).2 = s.drain) ∧ s.drain.tasks = [] ∧
      s.drain.alarms = [] ∧ s.drain.pendingChecks = 0 := by
  obtain ⟨d', hd'⟩ := h.settle
  obtain ⟨hpasses, htasks, halarms⟩ := hd'.passes_drain s.tasks_settle
  obtain ⟨d'', hd''⟩ := hpasses.tallied hd'
  have hpending := hd''.size_pending
  rw [drain, settle_of_idle s.tasks_settle] at hpasses htasks halarms hpending
  exact ⟨exists_beats_of_settle hpasses, htasks, halarms, hpending.trans (by rw [halarms]; rfl)⟩

end MergeTurn.Service
