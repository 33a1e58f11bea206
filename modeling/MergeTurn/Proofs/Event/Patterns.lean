import Mathlib.Data.List.Basic
import MergeTurn.Event.Topic

set_option autoImplicit false

/-!
# Which topics a pattern accepts

A pattern is compared with a topic segment by segment. Only its first `**` counts: up to there
every segment has to fit, and whatever the topic has from there on is accepted, nothing included.

## Main definitions

* `MergeTurn.Topic.Fits` — a segment of a topic is one that a segment of a pattern stands for.
* `MergeTurn.Topic.FitsBelow` — so are the first segments of a topic.

## Main results

* `MergeTurn.Topic.segments_eq_splitOn` — segments are what stands between dots.
* `MergeTurn.Topic.accepts_iff` — the topics that a pattern accepts.

## Design

The comparison is followed on lists of segments. That `**` is looked for before anything else is
what makes its first occurrence the one that counts, and lets it stand for no segment at all.
-/

namespace MergeTurn.Topic

/-! ## Segments -/

/-- The pieces between the dots of a text are those that it is split into. -/
lemma pieces_eq_splitOn (cs : List Char) : pieces cs = cs.splitOn '.' := by
  induction cs with
  | nil => rfl
  | cons c r ih =>
    have hne : r.splitOn '.' ≠ [] := List.splitOn_ne_nil _ r
    rw [pieces, ih, List.splitOn_cons_eq_if_modifyHead]
    by_cases hc : c = '.'
    · simp [hc]
    · cases hr : r.splitOn '.' with
      | nil => exact absurd hr hne
      | cons p ps => simp [hc]

/-- Segments are what stands between dots. -/
theorem segments_eq_splitOn (s : String) : segments s = s.toList.splitOn '.' :=
  pieces_eq_splitOn _

/-! ## Fitting segments -/

/-- A segment of a topic is one that a segment of a pattern stands for. -/
def Fits (p t : List Char) : Prop :=
  p = ['*'] ∨ p = t

/-- A topic has at least `k` segments, and each of the first `k` is one that the segment of the
pattern at its place stands for. -/
def FitsBelow (k : Nat) (ps ts : List (List Char)) : Prop :=
  k ≤ ts.length ∧ ∀ i (hp : i < ps.length) (ht : i < ts.length), i < k → Fits ps[i] ts[i]

/-- No segment has to fit. -/
lemma fitsBelow_zero (ps ts : List (List Char)) : FitsBelow 0 ps ts :=
  ⟨Nat.zero_le _, fun _ _ _ hi => absurd hi (Nat.not_lt_zero _)⟩

/-- Where nothing is left of a topic, no more segments fit. -/
lemma not_fitsBelow_succ (k : Nat) (ps : List (List Char)) : ¬ FitsBelow (k + 1) ps [] :=
  fun h => absurd h.1 (Nat.not_succ_le_zero k)

/-- The first segments fit if the very first one does and those behind it do. -/
lemma fitsBelow_succ (k : Nat) (p t : List Char) (ps ts : List (List Char)) :
    FitsBelow (k + 1) (p :: ps) (t :: ts) ↔ Fits p t ∧ FitsBelow k ps ts := by
  constructor
  · rintro ⟨hk, hfits⟩
    refine ⟨hfits 0 (by simp) (by simp) (by omega), Nat.le_of_succ_le_succ hk, ?_⟩
    intro i hp ht hi
    exact hfits (i + 1) (Nat.succ_lt_succ hp) (Nat.succ_lt_succ ht) (Nat.succ_lt_succ hi)
  · rintro ⟨hfirst, hk, hfits⟩
    refine ⟨Nat.succ_le_succ hk, fun i hp ht hi => ?_⟩
    cases i with
    | zero => exact hfirst
    | succ i =>
      exact hfits i (Nat.lt_of_succ_lt_succ hp) (Nat.lt_of_succ_lt_succ ht)
        (Nat.lt_of_succ_lt_succ hi)

/-! ## Matching -/

/-- Segments match up to the first `**` of the pattern, or all of them if there is none.

**Proof sketch.** By induction on the pattern. A `**` at the front ends the comparison with no
segment to fit. Otherwise both lists lose their first segment, and so do the place of the first `**`
and the two lengths. -/
theorem segmentsMatch_iff (ps ts : List (List Char)) :
    segmentsMatch ps ts = true ↔
      if ['*', '*'] ∈ ps then FitsBelow (ps.idxOf ['*', '*']) ps ts
      else ps.length = ts.length ∧ FitsBelow ps.length ps ts := by
  induction ps generalizing ts with
  | nil =>
    have hnil : ts.isEmpty = true ↔ 0 = ts.length := by
      rw [List.isEmpty_iff, ← List.length_eq_zero_iff]
      exact eq_comm
    simp [segmentsMatch, hnil, fitsBelow_zero]
  | cons p ps ih =>
    rw [segmentsMatch.eq_def]
    by_cases hrest : p = ['*', '*']
    · simp [hrest, fitsBelow_zero]
    have hidx : (p :: ps).idxOf ['*', '*'] = ps.idxOf ['*', '*'] + 1 := List.idxOf_cons_ne ps hrest
    have hmem : ['*', '*'] ∈ p :: ps ↔ ['*', '*'] ∈ ps := by
      rw [List.mem_cons, or_iff_right (Ne.symm hrest)]
    dsimp only
    rw [if_neg hrest, hidx, if_congr hmem rfl rfl]
    cases ts with
    | nil =>
      have hlt : ¬ FitsBelow (ps.idxOf ['*', '*'] + 1) (p :: ps) [] := not_fitsBelow_succ _ _
      simp [hlt]
    | cons t ts =>
      have hfits : (decide (p = ['*']) || decide (p = t)) = true ↔ Fits p t := by simp [Fits]
      rw [Bool.and_eq_true, hfits, ih, List.length_cons, List.length_cons, Nat.succ_inj,
        fitsBelow_succ, fitsBelow_succ]
      split
      · rfl
      · exact and_left_comm

/-- A pattern with a `**` accepts the topics that have a fitting segment for each of its segments
before the first `**`. Any other pattern accepts the topics that have as many segments as it, all of
them fitting. -/
theorem accepts_iff (pattern topic : String) :
    accepts pattern topic = true ↔
      if ['*', '*'] ∈ pattern.toList.splitOn '.' then
        FitsBelow ((pattern.toList.splitOn '.').idxOf ['*', '*']) (pattern.toList.splitOn '.')
          (topic.toList.splitOn '.')
      else
        (pattern.toList.splitOn '.').length = (topic.toList.splitOn '.').length ∧
          FitsBelow (pattern.toList.splitOn '.').length (pattern.toList.splitOn '.')
            (topic.toList.splitOn '.') := by
  rw [accepts, segments_eq_splitOn, segments_eq_splitOn]
  exact segmentsMatch_iff _ _

end MergeTurn.Topic
