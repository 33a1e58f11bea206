import MergeTurn.Proofs.Desk.InStep

set_option autoImplicit false

/-!
# Places in a lane

The place of a pull request is the number of bookings before its own. A booking gives the last
place and moves nobody; a removal moves up those who were behind it, and nobody else.

## Main definitions

* `MergeTurn.Books.place` — the place of a pull request in a lane.

## Main results

* `MergeTurn.Books.place_book` — the places after a booking.
* `MergeTurn.Books.InStep.place_unbook`, `MergeTurn.Books.place_unbook_le` — those after a removal.
-/

namespace MergeTurn

/-- Without the first booking of another pull request a booking is found at the same place or one
before it. -/
lemma findIdx?_eraseP {bs : List Booking} {m n : PullNumber} (hne : m ≠ n) :
    (bs.findIdx? (·.number == m) = none →
      (bs.eraseP (·.number == n)).findIdx? (·.number == m) = none) ∧
    (∀ i, bs.findIdx? (·.number == m) = some i →
      ∃ j ≤ i, (bs.eraseP (·.number == n)).findIdx? (·.number == m) = some j) := by
  induction bs with
  | nil => simp
  | cons b bs ih =>
    by_cases hb : b.number = n
    · have hm : ¬ b.number = m := fun e => hne (e.symm.trans hb)
      rw [List.eraseP_cons_of_pos (by simpa using hb), List.findIdx?_cons,
        if_neg (by simpa using hm)]
      constructor
      · intro hnone
        simpa using hnone
      · intro i hi
        obtain ⟨j, hj, rfl⟩ := Option.map_eq_some_iff.1 hi
        exact ⟨j, by omega, hj⟩
    · rw [List.eraseP_cons_of_neg (by simpa using hb), List.findIdx?_cons, List.findIdx?_cons]
      by_cases hm : b.number = m
      · simp [hm]
      · simp only [beq_eq_false_iff_ne.2 hm, Bool.false_eq_true, if_false]
        constructor
        · intro hnone
          rw [ih.1 (by simpa using hnone)]
          rfl
        · intro i hi
          obtain ⟨j, hj, rfl⟩ := Option.map_eq_some_iff.1 hi
          obtain ⟨j', hle, hj'⟩ := ih.2 j hj
          exact ⟨j' + 1, by omega, by rw [hj']; rfl⟩

namespace Books

/-- The place of a pull request in a lane, if it is there. -/
def place (k : Books) (l : Lane) (n : PullNumber) : Option Nat :=
  (k.list l.storeKey).findIdx? (·.number == n)

variable {k : Books} {l l' : Lane} {n m : PullNumber} {b : Booking} {i : Nat}

/-- A pull request has no place exactly if it is not in the list. -/
lemma place_eq_none_iff : k.place l n = none ↔ ¬ k.Lists l.storeKey n := by
  simp [place, Lists, List.findIdx?_eq_none_iff]

/-- The booking at the place of a pull request is its own. -/
lemma exists_getElem?_of_place (h : k.place l n = some i) :
    ∃ b, (k.list l.storeKey)[i]? = some b ∧ b.number = n := by
  obtain ⟨hi, hb, -⟩ := List.findIdx?_eq_some_iff_getElem.1 h
  exact ⟨_, List.getElem?_eq_getElem hi, by simpa using hb⟩

/-- The place of a booking is the place of its pull request, if no pull request is in the lane
twice. -/
lemma place_of_getElem? (hnodup : ((k.list l.storeKey).map (·.number)).Nodup)
    (h : (k.list l.storeKey)[i]? = some b) : k.place l b.number = some i := by
  obtain ⟨hi, rfl⟩ := List.getElem?_eq_some_iff.1 h
  refine List.findIdx?_eq_some_iff_getElem.2 ⟨hi, by simp, fun j hj => ?_⟩
  have hne := List.pairwise_iff_getElem.1 hnodup j i (by simp; omega) (by simpa using hi) hj
  simpa using hne

/-- The places after a booking of a pull request that was not in the lane. -/
lemma place_book (hl : l.repo.Colonless) (hl' : l'.repo.Colonless)
    (hn : ¬ k.Lists l.storeKey b.number) (n : PullNumber) :
    ((k.addMember l.repo.storeKey b.number).append l.storeKey b).place l' n =
      if l' = l ∧ n = b.number then some (k.list l.storeKey).length else k.place l' n := by
  rw [place, list_append hl hl', list_addMember]
  by_cases hll : l' = l
  · subst hll
    by_cases hnb : n = b.number
    · subst hnb
      have hnone := place_eq_none_iff.2 hn
      rw [place] at hnone
      simp [List.findIdx?_append, hnone]
    · simp [List.findIdx?_append, hnb, Ne.symm hnb, place]
  · simp [hll, place]

/-- The places of other lanes after a removal. -/
lemma place_unbook_of_ne (hl : l.repo.Colonless) (hl' : l'.repo.Colonless) (hne : l' ≠ l) :
    ((k.removeFirst l.storeKey n).removeMember l.repo.storeKey n).place l' m = k.place l' m := by
  rw [place, list_removeMember, list_removeFirst hl hl', if_neg hne, place]

/-- Nobody in the lane moves back when another is removed, and nobody comes in. -/
lemma place_unbook_le (hl : l.repo.Colonless) (hne : m ≠ n) :
    (k.place l m = none →
      ((k.removeFirst l.storeKey n).removeMember l.repo.storeKey n).place l m = none) ∧
    (∀ i, k.place l m = some i →
      ∃ j ≤ i, ((k.removeFirst l.storeKey n).removeMember l.repo.storeKey n).place l m =
        some j) := by
  have hlist : ((k.removeFirst l.storeKey n).removeMember l.repo.storeKey n).place l m =
      ((k.list l.storeKey).eraseP (·.number == n)).findIdx? (·.number == m) := by
    rw [place, list_removeMember, list_removeFirst hl hl, if_pos rfl]
  rw [hlist]
  exact findIdx?_eraseP hne

/-- The lane after its head was removed. -/
lemma list_unbook_head (hl : l.repo.Colonless) {bs : List Booking}
    (hlist : k.list l.storeKey = b :: bs) (hn : b.number = n) :
    ((k.removeFirst l.storeKey n).removeMember l.repo.storeKey n).list l.storeKey = bs := by
  rw [list_removeMember, list_removeFirst hl hl, if_pos rfl, hlist,
    List.eraseP_cons_of_pos (by simp [hn])]

/-- Who has the first place is the head. -/
lemma exists_cons_of_place (h : k.place l n = some 0) :
    ∃ b bs, k.list l.storeKey = b :: bs ∧ b.number = n := by
  obtain ⟨b, hb, hn⟩ := exists_getElem?_of_place h
  obtain ⟨bs, hlist⟩ := List.head?_eq_some_iff.1 (List.head?_eq_getElem?.trans hb)
  exact ⟨b, bs, hlist, hn⟩

/-- Who is removed has no place any more. -/
lemma InStep.place_unbook (h : k.InStep) (hl : l.repo.Colonless) :
    ((k.removeFirst l.storeKey n).removeMember l.repo.storeKey n).place l n = none := by
  rw [place_eq_none_iff, h.lists_unbook hl hl]
  simp

end Books

end MergeTurn
