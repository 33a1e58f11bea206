import MergeTurn.Desk
import MergeTurn.Proofs.Store.Atomic

set_option autoImplicit false

/-!
# What an operation of the desk can come to

Every way in which booking and unbooking can end, over a store whose calls take full effect or
none: what is answered, what the books hold afterwards and what is published. All that is proved
about the desk is proved from these two lists.

## Main definitions

* `MergeTurn.Desk.Request`, `MergeTurn.Desk.serve` — booking and unbooking as requests.
* `MergeTurn.Books.Lists` — a pull request is in a list.
* `MergeTurn.Desk.StopsHalfway` — a removal from a list that the set could not follow.
* `MergeTurn.BookEnds`, `MergeTurn.UnbookEnds` — how booking and unbooking can end.

## Main results

* `MergeTurn.Desk.book_ends`, `MergeTurn.Desk.unbook_ends` — they end in no other way.
* `MergeTurn.Desk.book_of_ok`, `MergeTurn.Desk.unbook_of_ok` — how those end that do not fail.
* `MergeTurn.Desk.book_ok_of_works`, `MergeTurn.Desk.unbook_ok_of_works` — over a store that works
  nothing fails but a booking that lacks something.
-/

namespace MergeTurn

/-- A pull request is in a list. -/
def Books.Lists (k : Books) (key : String) (n : PullNumber) : Prop :=
  n ∈ (k.list key).map (·.number)

/-- A list has a booking of a pull request exactly if some booking is found to be one. -/
lemma Books.lists_iff_any {k : Books} {key : String} {n : PullNumber} :
    k.Lists key n ↔ (k.list key).any (·.number == n) = true := by
  simp [Books.Lists]

/-- A booking that is found for a pull request is one of it. -/
lemma number_of_find? {bs : List Booking} {n : PullNumber} {b : Booking}
    (h : bs.find? (·.number == n) = some b) : b.number = n := by
  simpa using List.find?_some (p := fun b : Booking => b.number == n) h

/-- A pull request whose booking is found is in the list. -/
lemma Books.lists_of_find? {k : Books} {key : String} {n : PullNumber} {b : Booking}
    (h : (k.list key).find? (·.number == n) = some b) : k.Lists key n :=
  List.mem_map.2 ⟨b, List.mem_of_find?_eq_some h, number_of_find? h⟩

variable {σ α β : Type}

/-- A turn with its answer put in other words. -/
def Turn.map (f : α → β) (t : Turn σ α) : Turn σ β := ⟨t.answer.map f, t.store, t.published⟩

namespace Desk

/-- What the desk can be asked to change. -/
inductive Request where
  | book (lane : Lane) (booking : Booking)
  | unbook (lane : Lane) (number : PullNumber) (closed : Bool)
deriving DecidableEq

/-- The lane that a request is about. -/
def Request.lane : Request → Lane
  | .book l _ => l
  | .unbook l _ _ => l

/-- What came of a request. -/
inductive Outcome where
  | booked (outcome : BookOutcome)
  | unbooked (outcome : UnbookOutcome)
deriving DecidableEq

end Desk

variable [Store σ]

/-- The turn of a request. -/
def Desk.serve : Desk.Request → σ → Turn σ Desk.Outcome
  | .book lane b, s => (book lane b s).map .booked
  | .unbook lane n closed, s => (unbook lane n closed s).map .unbooked

/-- The booking was taken off the list, and then the set could not be written. -/
def Desk.StopsHalfway (lane : Lane) (n : PullNumber) (s : σ) : Prop :=
  ∃ bs s₁ s₂ e s₃, Store.readRange lane.storeKey none s = (.ok bs, s₁) ∧
    Store.removeFirst lane.storeKey n s₁ = (.ok true, s₂) ∧
    Store.removeMember lane.repo.storeKey n s₂ = (.error e, s₃)

/-- How a booking can end. -/
inductive BookEnds (A : AtomicStore σ) (lane : Lane) (b : Booking) (s : σ) :
    Turn σ BookOutcome → Prop
  | invalid {reason : String} (h : b.flaw? = some reason) :
    BookEnds A lane b s (.fail (.invalid reason) s)
  | failed {e : StoreError} {t : σ} (hb : b.flaw? = none) (ht : A.sane t)
    (h : A.books t = A.books s) : BookEnds A lane b s (.fail (.store e) t)
  /-- The list could not be written, and then the set could not be put back. -/
  | stranded {e : StoreError} {t : σ} (hb : b.flaw? = none) (ht : A.sane t)
    (hm : (A.books s).member lane.repo.storeKey b.number = false)
    (h : A.books t = (A.books s).addMember lane.repo.storeKey b.number) :
    BookEnds A lane b s (.fail (.store e) t)
  | duplicate {t : σ} (hb : b.flaw? = none) (ht : A.sane t)
    (hm : (A.books s).member lane.repo.storeKey b.number = true) (h : A.books t = A.books s) :
    BookEnds A lane b s (.done .duplicate t)
  | added {t : σ} (hb : b.flaw? = none) (ht : A.sane t)
    (hm : (A.books s).member lane.repo.storeKey b.number = false)
    (h : A.books t =
      ((A.books s).addMember lane.repo.storeKey b.number).append lane.storeKey b) :
    BookEnds A lane b s
      ⟨.ok (.added ((A.books s).list lane.storeKey).length), t,
        [.added lane b ((A.books s).list lane.storeKey).length]⟩

/-- How a removal can end. -/
inductive UnbookEnds (A : AtomicStore σ) (lane : Lane) (n : PullNumber) (closed : Bool) (s : σ) :
    Turn σ UnbookOutcome → Prop
  | failed {e : StoreError} {t : σ} (hh : ¬ Desk.StopsHalfway lane n s) (ht : A.sane t)
    (h : A.books t = A.books s) : UnbookEnds A lane n closed s (.fail (.store e) t)
  | halfway {e : StoreError} {t : σ} (hh : Desk.StopsHalfway lane n s) (ht : A.sane t)
    (hl : (A.books s).Lists lane.storeKey n)
    (h : A.books t = (A.books s).removeFirst lane.storeKey n) :
    UnbookEnds A lane n closed s (.fail (.store e) t)
  | notBooked {t : σ} (hl : ¬ (A.books s).Lists lane.storeKey n) (ht : A.sane t)
    (h : A.books t = A.books s) : UnbookEnds A lane n closed s (.done .notBooked t)
  | removed {b : Booking} {t : σ}
    (hb : ((A.books s).list lane.storeKey).find? (·.number == n) = some b) (ht : A.sane t)
    (h : A.books t =
      ((A.books s).removeFirst lane.storeKey n).removeMember lane.repo.storeKey n) :
    UnbookEnds A lane n closed s
      ⟨.ok (.removed b ⟨closed, ((A.books s).list lane.storeKey).head?.any (·.number == n)⟩), t,
        [.removed lane b ⟨closed, ((A.books s).list lane.storeKey).head?.any (·.number == n)⟩]⟩

namespace Desk

variable (A : AtomicStore σ)

/-- A booking ends in one of the listed ways.

**Proof sketch.** Call by call. The only change before the last call is that of the set, and if the
list then cannot be written, taking the pull request out of the set again restores the books,
since it was not in the set before. -/
theorem book_ends {s : σ} (hs : A.sane s) (lane : Lane) (b : Booking) :
    BookEnds A lane b s (book lane b s) := by
  unfold book
  cases hb : b.flaw? with
  | some reason => exact .invalid hb
  | none =>
    dsimp only
    have hmem := A.isMember hs lane.repo.storeKey b.number
    generalize Store.isMember lane.repo.storeKey b.number s = r at hmem ⊢
    cases hmem with
    | failed ht h => exact .failed hb ht h
    | @done s₁ hs₁ h₁ =>
      cases hm : (A.books s).member lane.repo.storeKey b.number with
      | true => exact .duplicate hb hs₁ hm h₁
      | false =>
        dsimp only
        have hadd := A.addMember hs₁ lane.repo.storeKey b.number
        generalize Store.addMember lane.repo.storeKey b.number s₁ = r at hadd ⊢
        cases hadd with
        | failed ht h => exact .failed hb ht (h.trans h₁)
        | @done s₂ hs₂ h₂ =>
          rw [h₁] at h₂
          dsimp only
          have happ := A.append hs₂ lane.storeKey b
          rw [h₂, Books.list_addMember] at happ
          generalize Store.append lane.storeKey b s₂ = r at happ ⊢
          cases happ with
          | done ht h => exact .added hb ht hm h
          | @failed e s₃ hs₃ h₃ =>
            rw [h₂] at h₃
            dsimp only
            have hrem := A.removeMember hs₃ lane.repo.storeKey b.number
            rw [h₃, Books.removeMember_addMember _ _ _ hm] at hrem
            generalize Store.removeMember lane.repo.storeKey b.number s₃ = r at hrem ⊢
            cases hrem with
            | done ht h => exact .failed hb ht h
            | failed ht h => exact .stranded hb ht hm (h.trans h₃)

/-- A removal ends in one of the listed ways.

**Proof sketch.** Call by call. The list is only written if it was seen to hold the pull request,
so its removal finds one. -/
theorem unbook_ends {s : σ} (hs : A.sane s) (lane : Lane) (n : PullNumber) (closed : Bool) :
    UnbookEnds A lane n closed s (unbook lane n closed s) := by
  unfold unbook
  have hread := A.readRange hs lane.storeKey none
  rcases hr : Store.readRange lane.storeKey none s with ⟨answer, s₁⟩
  rw [hr] at hread
  cases hread with
  | failed ht h =>
    refine .failed ?_ ht h
    rintro ⟨bs, t, t', e, t'', hr', -⟩
    cases hr.symm.trans hr'
  | done hs₁ h₁ =>
    dsimp only [Books.front]
    cases hf : ((A.books s).list lane.storeKey).find? (·.number == n) with
    | none =>
      refine .notBooked ?_ hs₁ h₁
      intro hl
      obtain ⟨b, hb, hn⟩ := List.mem_map.1 hl
      exact absurd hn (by simpa using List.find?_eq_none.1 hf b hb)
    | some b =>
      have hlisted : (A.books s).Lists lane.storeKey n := Books.lists_of_find? hf
      dsimp only
      have hfirst := A.removeFirst hs₁ lane.storeKey n
      rw [h₁, Books.lists_iff_any.1 hlisted] at hfirst
      rcases hr₂ : Store.removeFirst lane.storeKey n s₁ with ⟨answer, s₂⟩
      rw [hr₂] at hfirst
      cases hfirst with
      | failed ht h =>
        refine .failed ?_ ht (h.trans h₁)
        rintro ⟨bs, t, t', e, t'', hr', hr₂', -⟩
        cases hr.symm.trans hr'
        cases hr₂.symm.trans hr₂'
      | done hs₂ h₂ =>
        dsimp only
        have hrem := A.removeMember hs₂ lane.repo.storeKey n
        rw [h₂] at hrem
        rcases hr₃ : Store.removeMember lane.repo.storeKey n s₂ with ⟨answer, s₃⟩
        rw [hr₃] at hrem
        cases hrem with
        | done ht h => exact .removed hf ht h
        | failed ht h =>
          exact .halfway ⟨_, s₁, s₂, _, s₃, hr, hr₂, hr₃⟩ ht hlisted (h.trans h₂)

variable {A}

/-- A booking that does not fail finds a duplicate, or it is added. -/
lemma book_of_ok {s : σ} (hs : A.sane s) {lane : Lane} {b : Booking} {o : BookOutcome}
    (ho : (book lane b s).answer = .ok o) :
    ∃ t, A.sane t ∧
      ((A.books s).member lane.repo.storeKey b.number = true ∧ A.books t = A.books s ∧
          book lane b s = .done .duplicate t ∨
        (A.books s).member lane.repo.storeKey b.number = false ∧
          A.books t =
            ((A.books s).addMember lane.repo.storeKey b.number).append lane.storeKey b ∧
          book lane b s = ⟨.ok (.added ((A.books s).list lane.storeKey).length), t,
            [.added lane b ((A.books s).list lane.storeKey).length]⟩) := by
  have hends := book_ends A hs lane b
  generalize book lane b s = turn at hends ho ⊢
  cases hends with
  | invalid => cases ho
  | failed => cases ho
  | stranded => cases ho
  | @duplicate t _ ht hm h => exact ⟨t, ht, .inl ⟨hm, h, rfl⟩⟩
  | @added t _ ht hm h => exact ⟨t, ht, .inr ⟨hm, h, rfl⟩⟩

/-- A removal that does not fail finds nothing to remove, or it takes a booking out. -/
lemma unbook_of_ok {s : σ} (hs : A.sane s) {lane : Lane} {n : PullNumber} {closed : Bool}
    {o : UnbookOutcome} (ho : (unbook lane n closed s).answer = .ok o) :
    ∃ t, A.sane t ∧
      (¬ (A.books s).Lists lane.storeKey n ∧ A.books t = A.books s ∧
          unbook lane n closed s = .done .notBooked t ∨
        ∃ b removal, ((A.books s).list lane.storeKey).find? (·.number == n) = some b ∧
          removal = ⟨closed, ((A.books s).list lane.storeKey).head?.any (·.number == n)⟩ ∧
          A.books t =
            ((A.books s).removeFirst lane.storeKey n).removeMember lane.repo.storeKey n ∧
          unbook lane n closed s = ⟨.ok (.removed b removal), t, [.removed lane b removal]⟩) := by
  have hends := unbook_ends A hs lane n closed
  generalize unbook lane n closed s = turn at hends ho ⊢
  cases hends with
  | failed => cases ho
  | halfway => cases ho
  | @notBooked t hl ht h => exact ⟨t, ht, .inl ⟨hl, h, rfl⟩⟩
  | @removed b t hb ht h => exact ⟨t, ht, .inr ⟨b, _, hb, rfl, h, rfl⟩⟩

/-- Over a store that works a booking fails only if it lacks something. -/
lemma book_ok_of_works {s : σ} (h : Store.Works s) (lane : Lane) {b : Booking}
    (hb : b.flaw? = none) : ∃ o, (book lane b s).answer = .ok o := by
  obtain ⟨P, hP, hs⟩ := h
  obtain ⟨m, s₁, e₁, hs₁⟩ := hP.isMember hs lane.repo.storeKey b.number
  obtain ⟨_, s₂, e₂, hs₂⟩ := hP.addMember hs₁ lane.repo.storeKey b.number
  obtain ⟨l, s₃, e₃, -⟩ := hP.append hs₂ lane.storeKey b
  cases m with
  | true => exact ⟨_, by simp only [book, hb, e₁]; rfl⟩
  | false => exact ⟨_, by simp only [book, hb, e₁, e₂, e₃]; rfl⟩

/-- Over a store that works no removal fails. -/
lemma unbook_ok_of_works {s : σ} (h : Store.Works s) (lane : Lane) (n : PullNumber)
    (closed : Bool) : ∃ o, (unbook lane n closed s).answer = .ok o := by
  obtain ⟨P, hP, hs⟩ := h
  obtain ⟨bs, s₁, e₁, hs₁⟩ := hP.readRange hs lane.storeKey none
  obtain ⟨found, s₂, e₂, hs₂⟩ := hP.removeFirst hs₁ lane.storeKey n
  obtain ⟨_, s₃, e₃, -⟩ := hP.removeMember hs₂ lane.repo.storeKey n
  simp only [unbook, e₁]
  cases bs.find? (·.number == n) with
  | none => exact ⟨_, rfl⟩
  | some b => cases found <;> simp only [e₂, e₃] <;> exact ⟨_, rfl⟩

end Desk

end MergeTurn
