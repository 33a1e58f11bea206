import MergeTurn.Proofs.Desk.InStep

set_option autoImplicit false

/-!
# Removals that fail

A removal writes the list first and the set after it. A call that fails before the list was written
leaves everything as it was, and the removal can be repeated when the store works again. A call that
fails between the two does not: the list is not put back, so repeating the removal finds nothing to
remove, publishes nothing, and leaves the set as it is.

## Main definitions

* `MergeTurn.Desk.Repeatable` — a failed removal left everything to a second attempt.

## Main results

* `MergeTurn.Desk.unbook_failed` — what a failed removal leaves.
* `MergeTurn.Desk.repeatable_iff` — it can be repeated exactly if it did not stop halfway.
* `MergeTurn.Desk.stuck_of_stopsHalfway` — a pull request whose removal stopped halfway is in no
  lane, yet it can neither be removed nor booked.
-/

namespace MergeTurn

/-- Taking out a booking that is there makes a list shorter. -/
lemma Books.removeFirst_ne {k : Books} {key : String} {n : PullNumber} (h : k.Lists key n) :
    k.removeFirst key n ≠ k := by
  intro heq
  obtain ⟨b, hb, hn⟩ := List.mem_map.1 h
  have hlen := congrArg (fun k : Books => (k.list key).length) heq
  have hpos := List.length_pos_of_mem hb
  simp only [removeFirst, Function.update_self] at hlen
  rw [List.length_eraseP_of_mem hb (by simpa using hn)] at hlen
  omega

variable {σ : Type} [Store σ]

namespace Desk

/-- A failed removal left everything to a second attempt: the books read as before and nothing was
published, so the same removal, over a store with these books that works, takes the booking out of
the list and the pull request out of the set, and publishes that once. -/
structure Repeatable (A : AtomicStore σ) (lane : Lane) (n : PullNumber) (closed : Bool) (s : σ) :
    Prop where
  books : A.books (unbook lane n closed s).store = A.books s
  published : (unbook lane n closed s).published = []
  again : ∀ u, A.sane u → Store.Works u → A.books u = A.books (unbook lane n closed s).store →
    ∀ b, ((A.books s).list lane.storeKey).find? (·.number == n) = some b →
      ∃ removal, (unbook lane n closed u).answer = .ok (.removed b removal) ∧
        (unbook lane n closed u).published = [.removed lane b removal] ∧
        A.books (unbook lane n closed u).store =
          ((A.books s).removeFirst lane.storeKey n).removeMember lane.repo.storeKey n

variable {A : AtomicStore σ} {s u : σ} {lane : Lane} {n : PullNumber} {closed : Bool}

/-- Over a store that works, a pull request that is in the lane is removed. -/
lemma unbook_of_lists (hu : A.sane u) (hw : Store.Works u) {b : Booking}
    (hb : ((A.books u).list lane.storeKey).find? (·.number == n) = some b) :
    ∃ removal, (unbook lane n closed u).answer = .ok (.removed b removal) ∧
      (unbook lane n closed u).published = [.removed lane b removal] ∧
      A.books (unbook lane n closed u).store =
        ((A.books u).removeFirst lane.storeKey n).removeMember lane.repo.storeKey n := by
  obtain ⟨o, ho⟩ := unbook_ok_of_works hw lane n closed
  obtain ⟨t, -, ⟨hl, -⟩ | ⟨b', removal, hb', -, hbooks, hturn⟩⟩ := unbook_of_ok hu ho
  · exact absurd (Books.lists_of_find? hb) hl
  · cases hb.symm.trans hb'
    rw [hturn]
    exact ⟨removal, rfl, rfl, hbooks⟩

/-- Over a store that works, a pull request that is not in the lane is not removed. -/
lemma unbook_of_not_lists (hu : A.sane u) (hw : Store.Works u)
    (hl : ¬ (A.books u).Lists lane.storeKey n) :
    (unbook lane n closed u).answer = .ok .notBooked ∧
      (unbook lane n closed u).published = [] ∧
      A.books (unbook lane n closed u).store = A.books u := by
  obtain ⟨o, ho⟩ := unbook_ok_of_works hw lane n closed
  obtain ⟨t, -, ⟨-, hbooks, hturn⟩ | ⟨b, removal, hb, -⟩⟩ := unbook_of_ok hu ho
  · rw [hturn]
    exact ⟨rfl, rfl, hbooks⟩
  · exact absurd (Books.lists_of_find? hb) hl

/-- A removal fails halfway, with the booking out of the list and nothing else changed, or before
that, with nothing changed. -/
lemma unbook_failed (hs : A.sane s) {e : DeskError}
    (he : (unbook lane n closed s).answer = .error e) :
    (unbook lane n closed s).published = [] ∧
      (¬ StopsHalfway lane n s ∧ A.books (unbook lane n closed s).store = A.books s ∨
        StopsHalfway lane n s ∧ (A.books s).Lists lane.storeKey n ∧
          A.books (unbook lane n closed s).store = (A.books s).removeFirst lane.storeKey n) := by
  have hends := unbook_ends A hs lane n closed
  generalize unbook lane n closed s = turn at hends he ⊢
  cases hends with
  | failed hn _ h => exact ⟨rfl, .inl ⟨hn, h⟩⟩
  | halfway hh _ hl h => exact ⟨rfl, .inr ⟨hh, hl, h⟩⟩
  | notBooked => cases he
  | removed => cases he

/-- A removal that failed can be repeated exactly if it did not stop halfway.

**Proof sketch.** One that stopped halfway has shortened the list. Any other left the books alone,
so a second attempt sees what the first saw. -/
theorem repeatable_iff (hs : A.sane s) {e : DeskError}
    (he : (unbook lane n closed s).answer = .error e) :
    Repeatable A lane n closed s ↔ ¬ StopsHalfway lane n s := by
  obtain ⟨hpublished, ⟨hn, hbooks⟩ | ⟨hh, hl, hbooks⟩⟩ := unbook_failed hs he
  · refine iff_of_true ⟨hbooks, hpublished, ?_⟩ hn
    intro u hu hw hsame b hb
    rw [← hbooks, ← hsame] at hb ⊢
    exact unbook_of_lists hu hw hb
  · refine iff_of_false ?_ (not_not_intro hh)
    intro hr
    exact Books.removeFirst_ne hl (hbooks.symm.trans hr.books)

/-- Over a store that works, a pull request is booked unless it is in the repository's set. -/
lemma book_of_works (hu : A.sane u) (hw : Store.Works u) (l : Lane) {b : Booking}
    (hb : b.flaw? = none) :
    (book l b u).answer =
      .ok (if (A.books u).member l.repo.storeKey b.number then .duplicate
        else .added ((A.books u).list l.storeKey).length) := by
  obtain ⟨o, ho⟩ := book_ok_of_works hw l hb
  obtain ⟨t, -, ⟨hm, -, hturn⟩ | ⟨hm, -, hturn⟩⟩ := book_of_ok hu ho
  · rw [hturn, hm, if_pos rfl]
    rfl
  · rw [hturn, hm, if_neg Bool.false_ne_true]

/-- A pull request whose removal failed halfway is stuck. It is in no lane of the repository, so
over a store that works its removal finds nothing and publishes nothing; and it is still in the
repository's set, so every booking of it is refused as a duplicate. -/
theorem stuck_of_stopsHalfway (hs : A.sane s) (hk : (A.books s).InStep)
    (hl : lane.repo.Colonless) {e : DeskError} (he : (unbook lane n closed s).answer = .error e)
    (hh : StopsHalfway lane n s) (hu : A.sane u) (hw : Store.Works u)
    (hbooks : A.books u = A.books (unbook lane n closed s).store) :
    (∀ branch closed', (unbook (lane.repo.lane branch) n closed' u).answer = .ok .notBooked ∧
      (unbook (lane.repo.lane branch) n closed' u).published = []) ∧
    (∀ branch b, b.number = n → b.flaw? = none →
      (book (lane.repo.lane branch) b u).answer = .ok .duplicate) := by
  obtain ⟨-, ⟨hn, -⟩ | ⟨-, hlisted, hafter⟩⟩ := unbook_failed hs he
  · exact absurd hh hn
  rw [← hbooks] at hafter
  constructor
  · intro branch closed'
    have hl' : (lane.repo.lane branch).repo.Colonless := hl
    have hgone : ¬ (A.books u).Lists (lane.repo.lane branch).storeKey n := by
      rw [hafter, hk.lists_removeFirst hl hl']
      rintro ⟨hin, hne⟩
      exact hne ⟨hk.one_lane _ _ hl rfl n hin hlisted, rfl⟩
    obtain ⟨hanswer, hpublished, -⟩ := unbook_of_not_lists hu hw hgone
    exact ⟨hanswer, hpublished⟩
  · intro branch b hb hf
    have hm : (A.books u).member lane.repo.storeKey b.number = true := by
      rw [hafter, hb, Books.member_removeFirst]
      exact (hk.member_iff _ hl n).2 ⟨lane.branch, hlisted⟩
    rw [book_of_works hu hw _ hf]
    exact congrArg Except.ok (if_pos hm)

/-! ## A store that refuses one call -/

/-- A lane with one booking in it. -/
def soleLane : Lane := ⟨⟨"octo", "widgets"⟩, "main"⟩

/-- The booking. -/
def soleBooking : Booking := ⟨⟨7⟩, "mona", Time.Timestamp.epoch⟩

/-- A store in memory that holds the booking and refuses the next call of one primitive. -/
def refusing (p : Primitive) : Faulty Memory :=
  (Faulty.healthy ⟨(Shelves.empty.addMember soleLane.repo.storeKey soleBooking.number).append
    soleLane.storeKey soleBooking, none, true⟩).plan p 0 1 .unavailable

/-- Stores in memory behind a plan of failures. -/
def faultyMemory : AtomicStore (Faulty Memory) := Faulty.atomic (Memory.atomic Memory.keeps_serving)

/-- No removal is denied, so the store keeps to the rule. -/
lemma sane_refusing (p : Primitive) : faultyMemory.sane (refusing p) := by
  refine ⟨⟨rfl, Memory.writable_of_backing_none rfl⟩, fun q => ?_⟩
  by_cases hq : q = p
  · simp [refusing, Faulty.plan, Faulty.healthy, hq]
  · simp [refusing, Faulty.plan, Faulty.healthy, hq]

/-- The booking is in the list and its pull request in the set. -/
lemma inStep_refusing (p : Primitive) : (faultyMemory.books (refusing p)).InStep := by
  have h := Books.inStep_empty.book (l := soleLane) (b := soleBooking) (by decide) rfl
  rw [← Shelves.books_empty, ← Shelves.books_addMember, ← Shelves.books_append] at h
  exact h

/-- When the list cannot be written the removal can be repeated. -/
theorem repeatable_of_list_refused :
    (unbook soleLane ⟨7⟩ false (refusing .removeFirst)).answer =
        .error (.store (.unavailable "injected remove_first_match")) ∧
      Repeatable faultyMemory soleLane ⟨7⟩ false (refusing .removeFirst) := by
  have he : (unbook soleLane ⟨7⟩ false (refusing .removeFirst)).answer =
      .error (.store (.unavailable "injected remove_first_match")) := by decide +kernel
  refine ⟨he, (repeatable_iff (sane_refusing .removeFirst) he).2 ?_⟩
  rintro ⟨bs, s₁, s₂, e, s₃, hread, hfirst, -⟩
  obtain rfl : (Store.readRange soleLane.storeKey none (refusing .removeFirst)).2 = s₁ :=
    congrArg Prod.snd hread
  have hrefused : (Store.removeFirst soleLane.storeKey ⟨7⟩
      (Store.readRange soleLane.storeKey none (refusing .removeFirst)).2).1 ≠ .ok true := by
    decide +kernel
  exact hrefused (congrArg Prod.fst hfirst)

/-- When the set cannot be written the removal fails, and the booking is gone from the list. -/
theorem not_repeatable_of_set_refused :
    faultyMemory.sane (refusing .removeMember) ∧
      (faultyMemory.books (refusing .removeMember)).InStep ∧
      (unbook soleLane ⟨7⟩ false (refusing .removeMember)).answer =
        .error (.store (.unavailable "injected remove_member")) ∧
      ¬ Repeatable faultyMemory soleLane ⟨7⟩ false (refusing .removeMember) := by
  refine ⟨sane_refusing _, inStep_refusing _, by decide +kernel, fun h => ?_⟩
  have hlist : (faultyMemory.books (unbook soleLane ⟨7⟩ false (refusing .removeMember)).store).list
      soleLane.storeKey ≠ (faultyMemory.books (refusing .removeMember)).list soleLane.storeKey := by
    decide +kernel
  exact hlist (congrArg (fun k : Books => k.list soleLane.storeKey) h.books)

end Desk

end MergeTurn
