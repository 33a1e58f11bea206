import MergeTurn.Proofs.Desk.Halfway

set_option autoImplicit false

/-!
# Bookings that fail

A booking writes the set first and the list after it. If the list cannot be written the pull request
is taken out of the set again, which undoes this booking and nothing else, since the pull request was
seen not to be in the set before. So a booking that fails leaves no trace, wherever it fails, unless
the store refuses that very call too.

## Main definitions

* `MergeTurn.Desk.Strands` — the list could not be written, and the set could not be put back.
* `MergeTurn.Books.Gains` — books with one booking more.

## Main results

* `MergeTurn.Desk.book_of_strands`, `MergeTurn.Desk.books_of_not_strands` — what a booking leaves
  that fails.
* `MergeTurn.Desk.no_trace_of_failed_booking` — nothing, exactly if it is not stranded, and one
  that does not fail adds one booking or finds a duplicate.
* `MergeTurn.Desk.stuck_of_strands` — a pull request whose booking was stranded can neither be
  booked nor removed.
-/

namespace MergeTurn

/-- Books with one booking more, at the end of a list, and its pull request in a set that it was not
in before. -/
structure Books.Gains (lane : Lane) (b : Booking) (k k' : Books) : Prop where
  list : k'.list lane.storeKey = k.list lane.storeKey ++ [b]
  other_lists : ∀ key, key ≠ lane.storeKey → k'.list key = k.list key
  fresh : k.member lane.repo.storeKey b.number = false
  member : k'.member lane.repo.storeKey b.number = true
  other_members : ∀ scope n, ¬ (scope = lane.repo.storeKey ∧ n = b.number) →
    k'.member scope n = k.member scope n

/-- Writing the set and then the list adds one booking, if the pull request was not in the set. -/
lemma Books.gains_append_addMember {k : Books} {lane : Lane} {b : Booking}
    (h : k.member lane.repo.storeKey b.number = false) :
    k.Gains lane b ((k.addMember lane.repo.storeKey b.number).append lane.storeKey b) where
  list := by simp [append]
  other_lists key hkey := by simp [append, hkey]
  fresh := h
  member := by simp [addMember]
  other_members scope n hn := by simp [addMember, hn]

/-- A pull request that was put into a set is in it. -/
lemma Books.addMember_ne {k : Books} {scope : String} {n : PullNumber}
    (h : k.member scope n = false) : k.addMember scope n ≠ k := by
  intro heq
  have hm : (k.addMember scope n).member scope n = true := by simp [addMember]
  rw [heq, h] at hm
  cases hm

namespace Desk

variable {σ : Type} [Store σ] {A : AtomicStore σ} {s : σ} {lane : Lane} {b : Booking}

/-- The set was written, then the list could not be, and then the set could not be put back. -/
def Strands (lane : Lane) (b : Booking) (s : σ) : Prop :=
  b.flaw? = none ∧ ∃ s₁ s₂ e s₃ e' s₄,
    Store.isMember lane.repo.storeKey b.number s = (.ok false, s₁) ∧
    Store.addMember lane.repo.storeKey b.number s₁ = (.ok (), s₂) ∧
    Store.append lane.storeKey b s₂ = (.error e, s₃) ∧
    Store.removeMember lane.repo.storeKey b.number s₃ = (.error e', s₄)

/-- A booking that is stranded fails, and leaves its pull request in a set that it was not in
before. -/
lemma book_of_strands (hs : A.sane s) (hst : Strands lane b s) :
    (∃ e, (book lane b s).answer = .error e) ∧
      (A.books s).member lane.repo.storeKey b.number = false ∧
      A.books (book lane b s).store = (A.books s).addMember lane.repo.storeKey b.number := by
  obtain ⟨hb, s₁, s₂, e, s₃, e', s₄, hmem, hadd, happ, hrem⟩ := hst
  obtain ⟨hs₁, hm, h₁⟩ := CallEnds.of_ok (hmem ▸ A.isMember hs lane.repo.storeKey b.number)
  obtain ⟨hs₂, -, h₂⟩ := CallEnds.of_ok (hadd ▸ A.addMember hs₁ lane.repo.storeKey b.number)
  obtain ⟨hs₃, h₃⟩ := CallEnds.of_error (happ ▸ A.append hs₂ lane.storeKey b)
  obtain ⟨-, h₄⟩ := CallEnds.of_error (hrem ▸ A.removeMember hs₃ lane.repo.storeKey b.number)
  have hbook : book lane b s = .fail (.store e) s₄ := by
    simp only [book, hb, hmem, hadd, happ, hrem]
  rw [hbook]
  refine ⟨⟨_, rfl⟩, hm, ?_⟩
  calc A.books s₄
    _ = A.books s₂ := h₄.trans h₃
    _ = (A.books s).addMember lane.repo.storeKey b.number := by rw [h₂, h₁]

/-- A booking that fails and is not stranded leaves the books as they were.

**Proof sketch.** Call by call. Before the list is written only the set is changed, and putting the
set back restores it, since the pull request was not in it before. -/
lemma books_of_not_strands (hs : A.sane s) {e : DeskError} (he : (book lane b s).answer = .error e)
    (hst : ¬ Strands lane b s) : A.books (book lane b s).store = A.books s := by
  unfold book at he ⊢
  cases hb : b.flaw? with
  | some reason => rfl
  | none =>
    simp only [hb] at he ⊢
    have hmem := A.isMember hs lane.repo.storeKey b.number
    rcases hr : Store.isMember lane.repo.storeKey b.number s with ⟨answer, s₁⟩
    rw [hr] at hmem he
    cases hmem with
    | failed _ h => exact h
    | done hs₁ h₁ =>
      cases hm : (A.books s).member lane.repo.storeKey b.number with
      | true => exact h₁
      | false =>
        rw [hm] at hr he
        dsimp only at he ⊢
        have hadd := A.addMember hs₁ lane.repo.storeKey b.number
        rcases hr₂ : Store.addMember lane.repo.storeKey b.number s₁ with ⟨answer, s₂⟩
        rw [hr₂] at hadd he
        cases hadd with
        | failed _ h => exact h.trans h₁
        | done hs₂ h₂ =>
          dsimp only at he ⊢
          have happ := A.append hs₂ lane.storeKey b
          rcases hr₃ : Store.append lane.storeKey b s₂ with ⟨answer, s₃⟩
          rw [hr₃] at happ he
          cases happ with
          | done => cases he
          | failed hs₃ h₃ =>
            dsimp only
            have hrem := A.removeMember hs₃ lane.repo.storeKey b.number
            rcases hr₄ : Store.removeMember lane.repo.storeKey b.number s₃ with ⟨answer, s₄⟩
            rw [hr₄] at hrem
            cases hrem with
            | failed => exact absurd ⟨hb, s₁, s₂, _, s₃, _, s₄, hr, hr₂, hr₃, hr₄⟩ hst
            | done _ h =>
              rw [h₃, h₂, h₁, Books.removeMember_addMember _ _ _ hm] at h
              exact h

/-- A booking that fails publishes nothing. -/
lemma published_of_book_failed (hs : A.sane s) {e : DeskError}
    (he : (book lane b s).answer = .error e) : (book lane b s).published = [] := by
  have hends := book_ends A hs lane b
  generalize book lane b s = turn at hends he ⊢
  cases hends with
  | invalid => rfl
  | failed => rfl
  | stranded => rfl
  | duplicate => cases he
  | added => cases he

/-- Over any store whose calls take full effect or none, a booking that fails publishes nothing, and
it leaves every list and every set as it was exactly if it is not stranded. A booking that does not
fail changes and publishes nothing, because the pull request is in the set already, or it adds one
booking to the books and publishes that once.

**Proof sketch.** A stranded booking leaves its pull request in a set that it was not in before. How
the others end is known call by call. -/
theorem no_trace_of_failed_booking (hs : A.sane s) :
    (∀ e, (book lane b s).answer = .error e →
      (book lane b s).published = [] ∧
        (A.books (book lane b s).store = A.books s ↔ ¬ Strands lane b s)) ∧
    (∀ outcome, (book lane b s).answer = .ok outcome →
      outcome = .duplicate ∧ (A.books s).member lane.repo.storeKey b.number = true ∧
          A.books (book lane b s).store = A.books s ∧ (book lane b s).published = [] ∨
        ∃ place, outcome = .added place ∧ place = ((A.books s).list lane.storeKey).length ∧
          (A.books s).Gains lane b (A.books (book lane b s).store) ∧
          (book lane b s).published = [.added lane b place]) := by
  constructor
  · intro e he
    refine ⟨published_of_book_failed hs he, ?_, books_of_not_strands hs he⟩
    intro hbooks hst
    obtain ⟨-, hm, hafter⟩ := book_of_strands hs hst
    exact Books.addMember_ne hm (hafter.symm.trans hbooks)
  · intro outcome ho
    obtain ⟨t, -, ⟨hm, hbooks, hturn⟩ | ⟨hm, hbooks, hturn⟩⟩ := book_of_ok hs ho
    · rw [hturn] at ho ⊢
      cases ho
      exact .inl ⟨rfl, hm, hbooks, rfl⟩
    · rw [hturn] at ho ⊢
      cases ho
      refine .inr ⟨_, rfl, rfl, ?_, rfl⟩
      dsimp only
      rw [hbooks]
      exact Books.gains_append_addMember hm

/-! ## Stores that refuse the list -/

/-- A booking of another pull request. -/
def nextBooking : Booking := ⟨⟨8⟩, "hubot", Time.Timestamp.epoch⟩

/-- When only the list cannot be written, the set is put back. -/
theorem no_trace_of_list_refused :
    (book soleLane nextBooking (refusing .append)).answer =
        .error (.store (.unavailable "injected append")) ∧
      (book soleLane nextBooking (refusing .append)).published = [] ∧
      faultyMemory.books (book soleLane nextBooking (refusing .append)).store =
        faultyMemory.books (refusing .append) := by
  have he : (book soleLane nextBooking (refusing .append)).answer =
      .error (.store (.unavailable "injected append")) := by decide +kernel
  obtain ⟨hpublished, hbooks⟩ := (no_trace_of_failed_booking (sane_refusing .append)).1 _ he
  refine ⟨he, hpublished, hbooks.2 ?_⟩
  rintro ⟨-, s₁, s₂, e, s₃, e', s₄, hmem, hadd, happ, hrem⟩
  obtain rfl : (Store.isMember soleLane.repo.storeKey nextBooking.number (refusing .append)).2 = s₁ :=
    congrArg Prod.snd hmem
  obtain rfl : (Store.addMember soleLane.repo.storeKey nextBooking.number _).2 = s₂ :=
    congrArg Prod.snd hadd
  obtain rfl : (Store.append soleLane.storeKey nextBooking _).2 = s₃ := congrArg Prod.snd happ
  have hput : (Store.removeMember soleLane.repo.storeKey nextBooking.number
      (Store.append soleLane.storeKey nextBooking
        (Store.addMember soleLane.repo.storeKey nextBooking.number
          (Store.isMember soleLane.repo.storeKey nextBooking.number
            (refusing .append)).2).2).2).1 = .ok () := by decide +kernel
  cases hput.symm.trans (congrArg Prod.fst hrem)

/-! ## Stranded bookings -/

/-- A pull request whose booking was stranded is stuck. It is in no lane of the repository, so over a
store that works there is nothing to take out; and it is in the repository's set, so every booking of
it is refused as a duplicate. -/
theorem stuck_of_strands {u : σ} (hs : A.sane s) (hk : (A.books s).InStep)
    (hl : lane.repo.Colonless) (hst : Strands lane b s) (hu : A.sane u) (hw : Store.Works u)
    (hbooks : A.books u = A.books (book lane b s).store) :
    (∀ branch closed, (unbook (lane.repo.lane branch) b.number closed u).answer =
        .ok .notBooked) ∧
    (∀ branch b', b'.number = b.number → b'.flaw? = none →
      (book (lane.repo.lane branch) b' u).answer = .ok .duplicate) := by
  obtain ⟨-, hm, hafter⟩ := book_of_strands hs hst
  rw [← hbooks] at hafter
  constructor
  · intro branch closed
    have hgone : ¬ (A.books u).Lists (lane.repo.lane branch).storeKey b.number := by
      rw [hafter]
      intro hin
      have hmember := (hk.member_iff lane.repo hl b.number).2 ⟨branch, hin⟩
      rw [hm] at hmember
      cases hmember
    exact (unbook_of_not_lists hu hw hgone).1
  · intro branch b' hb' hf
    have hmember : (A.books u).member lane.repo.storeKey b'.number = true := by
      rw [hafter, hb']
      simp [Books.addMember]
    rw [book_of_works hu hw _ hf]
    exact congrArg Except.ok (if_pos hmember)

example :
    let s := (refusing .append).plan .removeMember 0 1 .unavailable
    let t := (book soleLane nextBooking s).store
    (book soleLane nextBooking s).answer = .error (.store (.unavailable "injected append")) ∧
      (book soleLane nextBooking t).answer = .ok .duplicate := by
  decide +kernel

end Desk

end MergeTurn
