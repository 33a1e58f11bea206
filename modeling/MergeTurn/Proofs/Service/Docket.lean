import Mathlib.Data.List.Induction
import Mathlib.Logic.Function.Basic
import Mathlib.Tactic.Lemma
import MergeTurn.Service.Basic

set_option autoImplicit false

/-!
# The docket of the lanes

What becomes of the results of checks is told by marks: a result of a lane is taken, and from then on
held back; it is sent; or the lane has a new head, or none any more. The marks of the past say which
result of a lane is held back now: the one of the last mark of the lane, if it was taken then.

A past is lawful if each result that is sent was held back for the same time, and none for longer.

## Main definitions

* `MergeTurn.Mark`, `MergeTurn.Stamp` — marks, and the times they are made at.
* `MergeTurn.Docket`, `MergeTurn.Docket.read` — what is known of each lane from its marks.
* `MergeTurn.Docket.Lawful` — every mark is one that the marks before it allow.

## Main results

* `MergeTurn.Docket.Lawful.source` — what is sent was taken a delay before, and nothing happened to
  the lane since.
* `MergeTurn.Docket.Lawful.next` — what happens next to a result that is held back.
* `MergeTurn.Docket.Lawful.apart` — what is sent to one lane is sent a delay apart.
-/

namespace MergeTurn

/-- Something that happens to a lane. -/
inductive Mark where
  /-- A result of checks is held back from now on. -/
  | taken (c : HeadChecks)
  /-- A result of checks is sent. -/
  | sent (c : HeadChecks)
  /-- The lane has a new head, or none any more. -/
  | headed (l : Lane) (n : Option PullNumber)
deriving DecidableEq

/-- The lane that a mark is about. -/
def Mark.lane : Mark → Lane
  | .taken c => c.lane
  | .sent c => c.lane
  | .headed l _ => l

/-- A mark and the time it is made at. -/
structure Stamp where
  time : Nat
  mark : Mark
deriving DecidableEq

/-- The result that is sent, if one is. -/
def Mark.sent? : Mark → Option HeadChecks
  | .sent c => some c
  | _ => none

/-- The result that is held back from a mark on, and since when. -/
def Stamp.held? (x : Stamp) : Option (Nat × HeadChecks) :=
  match x.mark with
  | .taken c => some (x.time, c)
  | _ => none

/-- What is known of each lane: who was told last to be its head, which result was sent last, and
since when which result is held back. -/
structure Docket where
  heads : Lane → Option PullNumber
  delivered : Lane → Option Verdict
  waiting : Lane → Option (Nat × HeadChecks)

namespace Docket

/-- Nothing is known. -/
def empty : Docket := ⟨fun _ => none, fun _ => none, fun _ => none⟩

/-- What is known after one more mark. -/
def note (d : Docket) (x : Stamp) : Docket :=
  match x.mark with
  | .taken c => { d with waiting := Function.update d.waiting c.lane (some (x.time, c)) }
  | .sent c => { d with
      delivered := Function.update d.delivered c.lane (some c.verdict)
      waiting := Function.update d.waiting c.lane none }
  | .headed l n => { d with
      heads := Function.update d.heads l n
      waiting := Function.update d.waiting l none }

/-- What is known from the marks of the past. -/
def read (past : List Stamp) : Docket := past.foldl note empty

/-- A mark is lawful: a result was not held back for longer than the delay, and if one is sent, it is
the one that was held back, for as long as that. -/
structure Allows (delay : Nat) (d : Docket) (x : Stamp) : Prop where
  prompt : ∀ time c, d.waiting x.mark.lane = some (time, c) → x.time ≤ time + delay
  sent : ∀ c, x.mark = .sent c → ∃ time, d.waiting c.lane = some (time, c) ∧ x.time = time + delay

/-- Every mark is lawful after those before it. -/
def Lawful (delay : Nat) : Docket → List Stamp → Prop
  | _, [] => True
  | d, x :: later => d.Allows delay x ∧ Lawful delay (d.note x) later

variable {delay time : Nat} {d : Docket} {x : Stamp} {c : HeadChecks} {l : Lane}
  {past before between after : List Stamp}

/-- What is known after two stretches of time is known from the second after the first. -/
lemma read_append (before after : List Stamp) :
    read (before ++ after) = after.foldl note (read before) :=
  List.foldl_append

/-! ## What is held back -/

/-- A mark says what is held back for its lane, and nothing of other lanes. -/
lemma waiting_note (d : Docket) (x : Stamp) (l : Lane) :
    (d.note x).waiting l = if x.mark.lane = l then x.held? else d.waiting l := by
  have hupdate : ∀ (l' : Lane) (v : Option (Nat × HeadChecks)),
      Function.update d.waiting l' v l = if l' = l then v else d.waiting l := by
    intro l' v
    simp only [Function.update_apply, eq_comm]
  obtain ⟨time, mark⟩ := x
  cases mark <;> exact hupdate _ _

/-- Marks of other lanes do not matter. -/
lemma waiting_foldl_of_ne (h : ∀ x ∈ between, x.mark.lane ≠ l) :
    (between.foldl note d).waiting l = d.waiting l := by
  induction between generalizing d with
  | nil => rfl
  | cons x between ih =>
    obtain ⟨hx, hbetween⟩ := List.forall_mem_cons.1 h
    rw [List.foldl_cons, ih hbetween, waiting_note, if_neg hx]

/-- What is held back was held back before, or it has been taken since. -/
lemma waiting_foldl (h : (past.foldl note d).waiting l = some (time, c)) :
    d.waiting l = some (time, c) ∨ ⟨time, .taken c⟩ ∈ past := by
  induction past generalizing d with
  | nil => exact .inl h
  | cons x past ih =>
    rcases ih h with hbefore | hmem
    · rw [waiting_note] at hbefore
      split_ifs at hbefore
      · obtain ⟨since, mark⟩ := x
        cases mark <;> cases hbefore
        exact .inr List.mem_cons_self
      · exact .inl hbefore
    · exact .inr (List.mem_cons_of_mem _ hmem)

/-- Only marks of heads say who is one. -/
lemma heads_foldl (h : ∀ x ∈ past, ∀ l n, x.mark ≠ .headed l n) :
    (past.foldl note d).heads = d.heads := by
  induction past generalizing d with
  | nil => rfl
  | cons x past ih =>
    obtain ⟨hx, hpast⟩ := List.forall_mem_cons.1 h
    refine (ih hpast).trans ?_
    obtain ⟨since, mark⟩ := x
    cases mark with
    | taken c => rfl
    | sent c => rfl
    | headed l n => exact absurd rfl (hx l n)

/-- What was taken last is held back. -/
lemma waiting_taken (before : List Stamp) (time : Nat)
    (h : ∀ x ∈ between, x.mark.lane ≠ c.lane) :
    (read (before ++ ⟨time, .taken c⟩ :: between)).waiting c.lane = some (time, c) := by
  rw [read_append, List.foldl_cons, waiting_foldl_of_ne h, waiting_note]
  exact if_pos rfl

/-- What is held back was taken last. -/
lemma exists_taken (h : (read past).waiting l = some (time, c)) :
    c.lane = l ∧ ∃ before between, past = before ++ ⟨time, .taken c⟩ :: between ∧
      ∀ x ∈ between, x.mark.lane ≠ l := by
  induction past using List.reverseRecOn with
  | nil => cases h
  | append_singleton past x ih =>
    rw [read_append, List.foldl_cons, List.foldl_nil, waiting_note] at h
    split_ifs at h with hx
    · obtain ⟨since, mark⟩ := x
      cases mark with
      | taken c' =>
        cases h
        exact ⟨hx, past, [], rfl, by simp⟩
      | sent c' => cases h
      | headed l' n => cases h
    · obtain ⟨hlane, before, between, rfl, hquiet⟩ := ih h
      refine ⟨hlane, before, between ++ [x], by simp, fun y hy => ?_⟩
      rcases List.mem_append.1 hy with hy | hy
      · exact hquiet y hy
      · rwa [List.mem_singleton.1 hy]

/-! ## Lawful pasts -/

/-- A past is lawful if it is up to some time and from then on. -/
lemma lawful_append : Lawful delay d (before ++ after) ↔
    Lawful delay d before ∧ Lawful delay (before.foldl note d) after := by
  induction before generalizing d with
  | nil => simp [Lawful]
  | cons x before ih => simp only [List.cons_append, Lawful, List.foldl_cons, ih, and_assoc]

namespace Lawful

/-- What is sent has been held back for the delay, since before or since it was taken. -/
lemma held (h : Lawful delay d past) (hx : ⟨time, .sent c⟩ ∈ past) :
    ∃ since, (d.waiting c.lane = some (since, c) ∨ ⟨since, .taken c⟩ ∈ past) ∧
      time = since + delay := by
  obtain ⟨before, after, rfl⟩ := List.append_of_mem hx
  obtain ⟨since, hwaiting, htime⟩ := (lawful_append.1 h).2.1.sent c rfl
  exact ⟨since, (waiting_foldl hwaiting).imp_right (List.mem_append_left _), htime⟩

/-- Every mark of a lawful past is allowed by those before it. -/
lemma allows (h : Lawful delay empty (before ++ x :: after)) : (read before).Allows delay x :=
  (lawful_append.1 h).2.1

/-- What is sent was taken a delay before, and nothing has happened to the lane since. -/
theorem source (h : Lawful delay empty (before ++ ⟨time, .sent c⟩ :: after)) :
    ∃ earlier since between, before = earlier ++ ⟨since, .taken c⟩ :: between ∧
      (∀ x ∈ between, x.mark.lane ≠ c.lane) ∧ time = since + delay := by
  obtain ⟨since, hwaiting, htime⟩ := h.allows.sent c rfl
  obtain ⟨-, earlier, between, hbefore, hquiet⟩ := exists_taken hwaiting
  exact ⟨earlier, since, between, hbefore, hquiet, htime⟩

/-- What happens next to the lane of a result that is held back happens in time. If something is
sent, then it is this result, at the end of the delay. -/
theorem next (h : Lawful delay empty (before ++ ⟨time, .taken c⟩ :: between ++ x :: after))
    (hquiet : ∀ y ∈ between, y.mark.lane ≠ c.lane) (hx : x.mark.lane = c.lane) :
    x.time ≤ time + delay ∧ ∀ c', x.mark = .sent c' → x = ⟨time + delay, .sent c⟩ := by
  have hwaiting := waiting_taken before time hquiet
  refine ⟨h.allows.prompt time c (hx ▸ hwaiting), fun c' hc' => ?_⟩
  obtain ⟨since, hsince, htime⟩ := h.allows.sent c' hc'
  have hlane : c'.lane = c.lane := by rw [← hx, hc', Mark.lane]
  rw [hlane, hwaiting] at hsince
  obtain ⟨rfl, rfl⟩ := Prod.mk.inj (Option.some.inj hsince)
  obtain ⟨_, _⟩ := x
  subst hc' htime
  rfl

/-- What is sent to one lane is sent a delay apart.

**Proof sketch.** What is sent later was taken when nothing else of the lane was to come, so not
before what was sent earlier. -/
theorem apart (h : Lawful delay empty past) (htimes : past.Pairwise (·.time ≤ ·.time)) :
    past.Pairwise fun x y => ∀ c c', x.mark = .sent c → y.mark = .sent c' → c.lane = c'.lane →
      x.time + delay ≤ y.time := by
  induction past using List.reverseRecOn with
  | nil => exact List.Pairwise.nil
  | append_singleton past y ih =>
    obtain ⟨htimes', -, -⟩ := List.pairwise_append.1 htimes
    refine List.pairwise_append.2 ⟨ih (lawful_append.1 h).1 htimes', List.pairwise_singleton .., ?_⟩
    intro x hx y' hy' c c' hc hc' hlane
    obtain ⟨time, mark⟩ := y
    obtain rfl := List.mem_singleton.1 hy'
    obtain rfl : mark = .sent c' := hc'
    obtain ⟨earlier, since, between, rfl, hquiet, rfl⟩ := h.source
    rcases List.mem_append.1 hx with hx | hx
    · have hle := (List.pairwise_append.1 htimes').2.2 x hx _ List.mem_cons_self
      exact Nat.add_le_add_right hle delay
    · rcases List.mem_cons.1 hx with rfl | hx
      · cases hc
      · exact absurd (by rw [hc, Mark.lane, hlane]) (hquiet x hx)

end Lawful

end Docket

end MergeTurn
