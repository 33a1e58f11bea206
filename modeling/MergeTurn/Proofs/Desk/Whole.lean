import MergeTurn.Proofs.Desk.Independence
import MergeTurn.Proofs.Desk.Places
import MergeTurn.Proofs.Desk.Replay

set_option autoImplicit false

/-!
# Requests that take their whole effect or none

A request writes twice, but a store in memory that took one write takes the next. So over such a
store nothing is left half done, and lists and sets stay in step.

## Main definitions

* `MergeTurn.Memory.BookEnds`, `MergeTurn.Memory.UnbookEnds` — how requests can end over a store in
  memory.

## Main results

* `MergeTurn.Desk.book_memory`, `MergeTurn.Desk.unbook_memory` — they end in no other way.
* `MergeTurn.Desk.inStep_serve` — a request keeps lists and sets in step.
-/

namespace MergeTurn

namespace Memory

/-- How a booking can end over a store in memory: without effect, or with all of it. -/
inductive BookEnds (l : Lane) (b : Booking) (m : Memory) : Turn Memory BookOutcome → Prop
  | kept {a : Except DeskError BookOutcome} {t : Memory} (ha : ∀ place, a ≠ .ok (.added place))
    (h : t.books = m.books) : BookEnds l b m ⟨a, t, []⟩
  | added {t : Memory} (hm : m.books.member l.repo.storeKey b.number = false)
    (ht : t.refusal? = none)
    (h : t.books = (m.books.addMember l.repo.storeKey b.number).append l.storeKey b) :
    BookEnds l b m ⟨.ok (.added (m.books.list l.storeKey).length), t,
      [.added l b (m.books.list l.storeKey).length]⟩

/-- How a removal can end over a store in memory: without effect, or with all of it. -/
inductive UnbookEnds (l : Lane) (n : PullNumber) (closed : Bool) (m : Memory) :
    Turn Memory UnbookOutcome → Prop
  | kept {a : Except DeskError UnbookOutcome} {t : Memory} (ha : ∀ b r, a ≠ .ok (.removed b r))
    (h : t.books = m.books) : UnbookEnds l n closed m ⟨a, t, []⟩
  | removed {b : Booking} {r : Removal} {t : Memory} (hn : b.number = n) (hr : r.closed = closed)
    (hl : m.books.Lists l.storeKey n) (ht : t.refusal? = none)
    (h : t.books = (m.books.removeFirst l.storeKey n).removeMember l.repo.storeKey n) :
    UnbookEnds l n closed m ⟨.ok (.removed b r), t, [.removed l b r]⟩

end Memory

namespace Desk

/-- Over a store in memory a booking ends in one of the listed ways.

**Proof sketch.** Call by call. The list can be written after the set was, so the set never has to
be put back. -/
theorem book_memory (l : Lane) (b : Booking) (m : Memory) : m.BookEnds l b (book l b m) := by
  have hread : Store.isMember l.repo.storeKey b.number m =
    m.read (·.hasMember l.repo.storeKey b.number) := rfl
  have hadd : Store.addMember l.repo.storeKey b.number m =
    m.replace () (m.shelves.addMember l.repo.storeKey b.number) := rfl
  unfold book
  cases b.flaw? with
  | some reason => exact .kept (by simp) rfl
  | none =>
    dsimp only
    rw [hread, Memory.read_eq]
    split_ifs
    · exact .kept (by simp) rfl
    · have hmember : m.shelves.hasMember l.repo.storeKey b.number =
        m.books.member l.repo.storeKey b.number := rfl
      rw [hmember]
      cases hm : m.books.member l.repo.storeKey b.number with
      | true => exact .kept (by simp) rfl
      | false =>
        dsimp only
        rw [hadd]
        rcases Memory.replace_refusal () (m.shelves.addMember l.repo.storeKey b.number) m with
          ⟨-, t, ht, hshelves, htaken⟩ | ⟨e, -, t, ht, hshelves, -⟩
        · have hlist : t.shelves.bookings l.storeKey = m.books.list l.storeKey := by
            rw [hshelves]
            rfl
          have happend : Store.append l.storeKey b t =
              t.replace ((m.books.list l.storeKey).length + 1) (t.shelves.append l.storeKey b) := by
            rw [← hlist]
            rfl
          obtain ⟨-, u, hu, hshelves', htaken'⟩ | ⟨e, he, -⟩ := Memory.replace_refusal
            ((m.books.list l.storeKey).length + 1) (t.shelves.append l.storeKey b) t
          · simp only [ht, happend, hu]
            refine .added hm htaken' ?_
            rw [Memory.books, hshelves', Shelves.books_append, hshelves, Shelves.books_addMember]
            rfl
          · cases htaken.symm.trans he
        · rw [ht]
          exact .kept (by simp) (congrArg Shelves.books hshelves)

/-- A store that lets a booking be removed refuses no change. -/
lemma refusal?_of_removed {l : Lane} {n : PullNumber} {closed : Bool} {m : Memory} {b : Booking}
    {r : Removal} (h : (unbook l n closed m).answer = .ok (.removed b r)) : m.refusal? = none := by
  rw [unbook_answer] at h
  split_ifs at h
  cases hf : (m.books.list l.storeKey).find? (·.number == n) <;> cases hr : m.refusal? <;>
    simp only [hf, hr] at h <;> cases h
  rfl

/-- Over a store in memory a removal ends in one of the listed ways. -/
theorem unbook_memory (l : Lane) (n : PullNumber) (closed : Bool) (m : Memory) :
    m.UnbookEnds l n closed (unbook l n closed m) := by
  have hkeeps : Memory.Keeps fun t => t.refusal? = m.refusal? := Memory.keeps_refusal _
  have hends := unbook_ends (Memory.atomic hkeeps) (s := m) rfl l n closed
  have htaken : ∀ b r, (unbook l n closed m).answer = .ok (.removed b r) → m.refusal? = none :=
    fun _ _ => refusal?_of_removed
  generalize unbook l n closed m = turn at hends htaken ⊢
  cases hends with
  | failed _ _ h => exact .kept (by simp) h
  | halfway hh => exact absurd hh (not_stopsHalfway l n m)
  | notBooked _ _ h => exact .kept (by simp) h
  | @removed b t hb ht h =>
    exact .removed (number_of_find? hb) rfl (Books.lists_of_find? hb)
      (Eq.trans ht (htaken _ _ rfl)) h

/-- A request about a store in memory keeps lists and sets in step. -/
lemma inStep_serve {r : Request} (hr : r.lane.repo.Colonless) {m : Memory} (hm : m.books.InStep) :
    (serve r m).store.books.InStep := by
  cases r with
  | book l b =>
    have hends := book_memory l b m
    simp only [serve, Turn.map]
    generalize book l b m = turn at hends ⊢
    cases hends with
    | kept _ h => exact h.symm ▸ hm
    | added hnew _ h => exact h.symm ▸ hm.book hr hnew
  | unbook l n closed =>
    have hends := unbook_memory l n closed m
    simp only [serve, Turn.map]
    generalize unbook l n closed m = turn at hends ⊢
    cases hends with
    | kept _ h => exact h.symm ▸ hm
    | removed _ _ hl _ h => exact h.symm ▸ hm.unbook hr hl

/-- What is answered to a question for the place of a pull request. -/
lemma position_answer (l : Lane) (n : PullNumber) (m : Memory) : (position l n m).answer =
    if m.refusal? = some Memory.offline then .error (.store Memory.offline)
    else .ok (m.books.place l n) := by
  have hread : Store.readRange l.storeKey none m = m.read (·.front l.storeKey none) := rfl
  rw [position, hread, Memory.read_eq]
  split_ifs <;> rfl

end Desk

end MergeTurn
