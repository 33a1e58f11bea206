import Mathlib.Tactic.Lemma
import Mathlib.Tactic.SplitIfs
import MergeTurn.Feed

set_option autoImplicit false

/-!
# What is ahead of a receiver

All lanes share one feed of limited room, and each receiver goes through it at its own pace. Ahead
of a receiver is everything that was sent since it came and that it has neither got nor found to be
lost. A snapshot that is sent joins the end of that, and whatever the receiver does next takes
something from its front: one snapshot that it gets, or all those at once that are not kept any
more.

## Main definitions

* `MergeTurn.Feed.Awaits` — what is ahead of a receiver.
* `MergeTurn.Feed.Receives` — what a receiver can get next.
* `MergeTurn.Feed.Grows` — what never changes, or only in one direction.

## Main results

* `MergeTurn.Feed.Awaits.send`, `MergeTurn.Feed.Awaits.receive` — how it gets longer and shorter.
-/

namespace MergeTurn.Feed

variable {f g : Feed} {r r' : Nat} {ahead : List LaneSnapshot}

/-- A receiver has these snapshots ahead of it: as many as were sent after it, of which the feed
still keeps the last ones. -/
structure Awaits (f : Feed) (r : Nat) (ahead : List LaneSnapshot) : Prop where
  room : 0 < f.room
  place : ∃ p, f.receivers[r]? = some (some p) ∧ p + ahead.length = f.sent ∧
    f.kept.drop (p - f.gone) = ahead.drop (f.gone - p)

namespace Awaits

/-- Somebody who is awaiting something is one of the receivers. -/
lemma lt_length (h : f.Awaits r ahead) : r < f.receivers.length := by
  obtain ⟨p, hp, -⟩ := h.place
  exact (List.getElem?_eq_some_iff.1 hp).1

/-- A feed with a receiver loses nothing for the lack of one. -/
lemma receiverCount_ne_zero (h : f.Awaits r ahead) : f.receiverCount ≠ 0 := by
  obtain ⟨p, hp, -⟩ := h.place
  have hpos : 0 < f.receiverCount :=
    List.countP_pos_iff.2 ⟨some p, List.mem_of_getElem? hp, rfl⟩
  exact Nat.ne_of_gt hpos

/-- What others do does not change what is ahead of a receiver, as long as nothing is sent. -/
lemma of_receivers (h : f.Awaits r ahead) {receivers : List (Option Nat)}
    (hr : receivers[r]? = f.receivers[r]?) : Awaits { f with receivers } r ahead := by
  obtain ⟨p, hp, hplace⟩ := h.place
  exact ⟨h.room, p, hr.trans hp, hplace⟩

/-- Another receiver comes. -/
lemma subscribe (h : f.Awaits r ahead) : f.subscribe.Awaits r ahead :=
  h.of_receivers (List.getElem?_append_left h.lt_length)

/-- A snapshot that is sent joins the end. If the feed is full, the oldest one is not kept any
more; but it is still ahead of whoever has not come to it. -/
lemma send (h : f.Awaits r ahead) (x : LaneSnapshot) : (f.send x).Awaits r (ahead ++ [x]) := by
  obtain ⟨p, hp, hlength, hkept⟩ := h.place
  have hroom := h.room
  unfold Feed.send
  rw [if_neg h.receiverCount_ne_zero]
  unfold sent at hlength
  split_ifs with hfull
  · refine ⟨h.room, p, hp, ?_, ?_⟩
    · simp only [sent, List.length_append, List.length_singleton]
      omega
    · dsimp only
      rw [List.drop_append_of_le_length (by omega), List.drop_append_of_le_length (by omega), hkept]
  · refine ⟨h.room, p, hp, ?_, ?_⟩
    · simp only [sent, List.length_append, List.length_singleton, List.length_drop]
      omega
    · dsimp only
      rw [List.drop_append_of_le_length (by simp; omega), List.drop_append_of_le_length (by omega),
        List.drop_drop]
      congr 1
      -- The snapshot that goes was either behind the receiver, or is the next one to be found lost.
      by_cases hbehind : f.gone < p
      · rw [show 1 + (p - (f.gone + 1)) = p - f.gone by omega, hkept,
          show f.gone - p = f.gone + 1 - p by omega]
      · rw [show p - f.gone = 0 by omega, List.drop_zero] at hkept
        rw [hkept, List.drop_drop]
        congr 1
        omega

/-- Snapshots that are sent join the end, one after the other. -/
lemma sendAll (h : f.Awaits r ahead) (xs : List LaneSnapshot) :
    (xs.foldl (fun f x => f.send x) f).Awaits r (ahead ++ xs) := by
  induction xs generalizing f ahead with
  | nil => simpa using h
  | cons x xs ih => simpa using ih (h.send x)

end Awaits

/-- What a receiver can get next, with these snapshots ahead of it. -/
inductive Receives (f : Feed) (r : Nat) : List LaneSnapshot → Option (Received × Feed) → Prop
  | nothing : Receives f r [] (some (.nothing, f))
  | snapshot {x : LaneSnapshot} {rest : List LaneSnapshot} {g : Feed} (hkept : g.kept = f.kept)
    (hg : g.Awaits r rest) : Receives f r (x :: rest) (some (.snapshot x, g))
  | lagged {lost : List LaneSnapshot} {g : Feed} (hlost : lost ≠ []) (hkept : g.kept = f.kept)
    (hg : g.Awaits r f.kept) : Receives f r (lost ++ f.kept) (some (.lagged lost.length, g))

/-- A receiver gets the first of the snapshots ahead of it, if there is one and the feed still keeps
it. If it does not, the receiver is told how many are lost, and is behind them. -/
lemma Awaits.receive (h : f.Awaits r ahead) : Receives f r ahead (f.receive r) := by
  obtain ⟨p, hp, hlength, hkept⟩ := h.place
  have hr := h.lt_length
  unfold sent at hlength
  unfold Feed.receive
  rw [hp]
  dsimp only
  split_ifs with hlost
  · rw [show p - f.gone = 0 by omega, List.drop_zero] at hkept
    obtain ⟨lost, hahead⟩ : ∃ lost, ahead = lost ++ f.kept :=
      ⟨ahead.take (f.gone - p), by rw [hkept, List.take_append_drop]⟩
    subst hahead
    have hcount : f.gone - p = lost.length := by
      simp only [List.length_append] at hlength
      omega
    rw [hcount]
    refine .lagged (List.ne_nil_of_length_pos (by omega)) rfl ⟨h.room, f.gone, ?_, rfl, by simp⟩
    simp [hr]
  · rw [show f.gone - p = 0 by omega, List.drop_zero] at hkept
    have hnext : f.kept[p - f.gone]? = ahead[0]? := by
      rw [← hkept, List.getElem?_drop, Nat.add_zero]
    rw [hnext]
    cases ahead with
    | nil => exact .nothing
    | cons x rest =>
      refine .snapshot rfl ⟨h.room, p + 1, by simp [hr], ?_, ?_⟩
      · simp only [List.length_cons] at hlength
        simp only [sent]
        omega
      · have hrest := congrArg (List.drop 1) hkept
        rw [List.drop_drop, List.drop_one, List.tail_cons] at hrest
        dsimp only
        rw [show p + 1 - f.gone = p - f.gone + 1 by omega, hrest,
          show f.gone - (p + 1) = 0 by omega, List.drop_zero]

/-- What a receiver gets changes only how far it has come. -/
lemma receive_writes {x : Received} (h : f.receive r = some (x, g)) :
    ∃ next, g = { f with receivers := f.receivers.set r next } := by
  unfold Feed.receive at h
  split at h
  · next p hp =>
    split_ifs at h
    · cases h
      exact ⟨_, rfl⟩
    · split at h
      · cases h
        obtain ⟨hr, hget⟩ := List.getElem?_eq_some_iff.1 hp
        exact ⟨some p, by rw [← hget, List.set_getElem_self]⟩
      · cases h
        exact ⟨_, rfl⟩
  · cases h

/-- What one receiver gets changes nothing for another one. -/
lemma Awaits.receive_other (h : f.Awaits r ahead) (hne : r' ≠ r) {x : Received}
    (hx : f.receive r' = some (x, g)) : g.Awaits r ahead := by
  obtain ⟨next, rfl⟩ := receive_writes hx
  exact h.of_receivers (List.getElem?_set_ne hne)

/-- A receiver that gets nothing leaves the feed as it is. -/
lemma eq_of_receive_nothing (h : f.receive r = some (.nothing, g)) : g = f := by
  unfold Feed.receive at h
  split at h
  · split_ifs at h
    · cases h
    · split at h
      · cases h
        rfl
      · cases h
  · cases h

/-- The feed has the same room, and as many receivers as before or more. -/
structure Grows (f g : Feed) : Prop where
  room : g.room = f.room
  receivers : f.receivers.length ≤ g.receivers.length

namespace Grows

/-- Snapshots are sent. -/
lemma sendAll (xs : List LaneSnapshot) (f : Feed) :
    Grows f (xs.foldl (fun f x => f.send x) f) := by
  induction xs generalizing f with
  | nil => exact ⟨rfl, Nat.le_refl _⟩
  | cons x xs ih =>
    have hsend : Grows f (f.send x) := by
      unfold Feed.send
      split_ifs <;> exact ⟨rfl, Nat.le_refl _⟩
    have hrest := ih (f.send x)
    exact ⟨hrest.room.trans hsend.room, Nat.le_trans hsend.receivers hrest.receivers⟩

/-- A receiver comes. -/
lemma subscribe (f : Feed) : Grows f f.subscribe :=
  ⟨rfl, by simp [Feed.subscribe]⟩

end Grows

/-- With each snapshot that is sent the feed keeps at most one more. -/
lemma length_kept_sendAll (xs : List LaneSnapshot) (f : Feed) :
    (xs.foldl (fun f x => f.send x) f).kept.length ≤ f.kept.length + xs.length := by
  induction xs generalizing f with
  | nil => exact Nat.le_refl _
  | cons x xs ih =>
    have hsend : (f.send x).kept.length ≤ f.kept.length + 1 := by
      unfold Feed.send
      split_ifs <;> simp
    have hrest := ih (f.send x)
    rw [List.foldl_cons, List.length_cons]
    omega

/-- A feed has room for a snapshot at least. -/
lemma room_new (n : Nat) : 0 < (new n).room :=
  Nat.pos_of_isPowerOfTwo (Nat.isPowerOfTwo_nextPowerOfTwo n)

/-- Nothing is ahead of a new receiver. -/
lemma awaits_subscribe (h : 0 < f.room) : f.subscribe.Awaits f.receivers.length [] where
  room := h
  place := by
    refine ⟨f.sent, by simp [Feed.subscribe], rfl, ?_⟩
    simp [Feed.subscribe, sent]

end MergeTurn.Feed
