import Mathlib.Data.List.Nodup
import MergeTurn.Proofs.Desk.Steps
import MergeTurn.Proofs.Store.Keys

set_option autoImplicit false

/-!
# Lists and sets in step

A repository's set is to hold exactly the pull requests that are in one of its lanes. The invariant
behind this also says that no pull request is in a lane twice or in two lanes of a repository:
otherwise taking one booking off would leave another behind without a place in the set.

## Main definitions

* `MergeTurn.Books.InStep` — the invariant.

## Main results

* `MergeTurn.Books.InStep.book`, `MergeTurn.Books.InStep.unbook` — what a booking and a removal do
  to the books keeps it.
* `MergeTurn.Books.InStep.lists_book`, `MergeTurn.Books.InStep.lists_unbook` — which pull requests
  are in which lanes afterwards.

## Design

All is said of repositories without colons, since only their keys can be told apart.
-/

namespace MergeTurn

/-- The numbers of a list without the first booking of a pull request. -/
lemma map_number_eraseP (bs : List Booking) (n : PullNumber) :
    (bs.eraseP (·.number == n)).map (·.number) = (bs.map (·.number)).erase n := by
  induction bs with
  | nil => rfl
  | cons b bs ih =>
    by_cases hb : b.number = n
    · simp [hb]
    · simp [hb, ih]

namespace Books

/-- The sets hold exactly what the lanes hold, and nothing is in a lane twice or in two lanes. -/
structure InStep (k : Books) : Prop where
  member_iff : ∀ r : Repo, r.Colonless → ∀ n, k.member r.storeKey n = true ↔
    ∃ branch, k.Lists (r.lane branch).storeKey n
  nodup : ∀ l : Lane, l.repo.Colonless → ((k.list l.storeKey).map (·.number)).Nodup
  one_lane : ∀ l l' : Lane, l.repo.Colonless → l.repo = l'.repo → ∀ n,
    k.Lists l.storeKey n → k.Lists l'.storeKey n → l = l'

/-- Empty books are in step. -/
lemma inStep_empty : empty.InStep where
  member_iff r _ n := by simp [empty, Lists]
  nodup l _ := by simp [empty]
  one_lane l l' _ _ n h := by simp [empty, Lists] at h

variable {k : Books} {l l' : Lane} {n : PullNumber} {b : Booking}

/-- A list after a booking was appended to a lane. -/
lemma list_append (hl : l.repo.Colonless) (hl' : l'.repo.Colonless) :
    (k.append l.storeKey b).list l'.storeKey =
      if l' = l then k.list l.storeKey ++ [b] else k.list l'.storeKey := by
  simp only [append, Function.update_apply, Lane.storeKey_eq_iff hl' hl]

/-- A list after the first booking of a pull request was taken out of a lane. -/
lemma list_removeFirst (hl : l.repo.Colonless) (hl' : l'.repo.Colonless) :
    (k.removeFirst l.storeKey n).list l'.storeKey =
      if l' = l then (k.list l.storeKey).eraseP (·.number == n) else k.list l'.storeKey := by
  simp only [removeFirst, Function.update_apply, Lane.storeKey_eq_iff hl' hl]

/-- Who is in a lane after a booking was appended to one. -/
lemma lists_append (hl : l.repo.Colonless) (hl' : l'.repo.Colonless) (m : PullNumber) :
    (k.append l.storeKey b).Lists l'.storeKey m ↔
      k.Lists l'.storeKey m ∨ l' = l ∧ m = b.number := by
  rw [Lists, list_append hl hl']
  by_cases h : l' = l
  · subst h
    simp [Lists]
  · simp [h, Lists]

/-- Who is in a lane after a booking. -/
lemma lists_book (hl : l.repo.Colonless) (hl' : l'.repo.Colonless) (m : PullNumber) :
    ((k.addMember l.repo.storeKey b.number).append l.storeKey b).Lists l'.storeKey m ↔
      k.Lists l'.storeKey m ∨ l' = l ∧ m = b.number :=
  lists_append hl hl' m

/-- Who is in a set after a booking. -/
lemma member_book {r : Repo} (hl : l.repo.Colonless) (hr : r.Colonless) (m : PullNumber) :
    ((k.addMember l.repo.storeKey b.number).append l.storeKey b).member r.storeKey m = true ↔
      k.member r.storeKey m = true ∨ r = l.repo ∧ m = b.number := by
  simp only [member_append, addMember, Repo.storeKey_eq_iff hr hl]
  split_ifs with he
  · simp [he]
  · simp [he]

/-- Who is in a set after a removal. -/
lemma member_unbook {r : Repo} (hl : l.repo.Colonless) (hr : r.Colonless) (m : PullNumber) :
    ((k.removeFirst l.storeKey n).removeMember l.repo.storeKey n).member r.storeKey m = true ↔
      k.member r.storeKey m = true ∧ ¬ (r = l.repo ∧ m = n) := by
  simp only [removeMember, member_removeFirst, Repo.storeKey_eq_iff hr hl]
  split_ifs with he
  · simp [he]
  · simp [he]

namespace InStep

variable (h : k.InStep)
include h

/-- Who is in no lane of a repository is in none of them. -/
lemma not_lists (hl : l.repo.Colonless) (hm : k.member l.repo.storeKey n = false) :
    ¬ k.Lists l.storeKey n := fun hn => by
  rw [(h.member_iff l.repo hl n).2 ⟨l.branch, hn⟩] at hm
  cases hm

/-- Who is in a lane after a removal from one. -/
lemma lists_removeFirst (hl : l.repo.Colonless) (hl' : l'.repo.Colonless) (m : PullNumber) :
    (k.removeFirst l.storeKey n).Lists l'.storeKey m ↔
      k.Lists l'.storeKey m ∧ ¬ (l' = l ∧ m = n) := by
  rw [Lists, list_removeFirst hl hl']
  by_cases hll : l' = l
  · subst hll
    rw [if_pos rfl, map_number_eraseP, (h.nodup l' hl').mem_erase_iff, Lists]
    tauto
  · simp [hll, Lists]

/-- Who is in a lane after a removal. -/
lemma lists_unbook (hl : l.repo.Colonless) (hl' : l'.repo.Colonless) (m : PullNumber) :
    ((k.removeFirst l.storeKey n).removeMember l.repo.storeKey n).Lists l'.storeKey m ↔
      k.Lists l'.storeKey m ∧ ¬ (l' = l ∧ m = n) :=
  h.lists_removeFirst hl hl' m

/-- A booking of a pull request that was in no lane keeps the books in step. -/
lemma book (hl : l.repo.Colonless) (hm : k.member l.repo.storeKey b.number = false) :
    ((k.addMember l.repo.storeKey b.number).append l.storeKey b).InStep where
  member_iff r hr m := by
    have hlanes : (∃ branch, ((k.addMember l.repo.storeKey b.number).append l.storeKey b).Lists
        (r.lane branch).storeKey m) ↔
        (∃ branch, k.Lists (r.lane branch).storeKey m) ∨ r = l.repo ∧ m = b.number := by
      constructor
      · rintro ⟨branch, hb⟩
        rcases (lists_book hl hr m).1 hb with hb | ⟨e, hn⟩
        · exact .inl ⟨branch, hb⟩
        · exact .inr ⟨congrArg Lane.repo e, hn⟩
      · rintro (⟨branch, hb⟩ | ⟨rfl, hn⟩)
        · exact ⟨branch, (lists_book hl hr m).2 (.inl hb)⟩
        · exact ⟨l.branch, (lists_book hl hr m).2 (.inr ⟨rfl, hn⟩)⟩
    rw [hlanes, member_book hl hr, h.member_iff r hr m]
  nodup l' hl' := by
    rw [list_append hl hl']
    split_ifs with he
    · simp only [list_addMember, List.map_append, List.map_cons, List.map_nil]
      refine (h.nodup l hl).append (List.nodup_singleton _) ?_
      simpa [Lists] using h.not_lists hl hm
    · exact h.nodup l' hl'
  one_lane l₁ l₂ hl₁ hr m h₁ h₂ := by
    have hno : ∀ l' : Lane, l'.repo = l.repo → ¬ k.Lists l'.storeKey b.number := fun l' e =>
      h.not_lists (e ▸ hl) (e ▸ hm)
    rcases (lists_book hl hl₁ m).1 h₁ with h₁' | ⟨rfl, rfl⟩
    · rcases (lists_book hl (hr ▸ hl₁) m).1 h₂ with h₂' | ⟨rfl, rfl⟩
      · exact h.one_lane l₁ l₂ hl₁ hr m h₁' h₂'
      · exact absurd h₁' (hno l₁ hr)
    · rcases (lists_book hl (hr ▸ hl₁) b.number).1 h₂ with h₂' | ⟨rfl, -⟩
      · exact absurd h₂' (hno l₂ hr.symm)
      · rfl

/-- A removal of a pull request that was in the lane keeps the books in step.

**Proof sketch.** It was in no other lane of the repository, so it is in none afterwards. -/
lemma unbook (hl : l.repo.Colonless) (hn : k.Lists l.storeKey n) :
    ((k.removeFirst l.storeKey n).removeMember l.repo.storeKey n).InStep where
  member_iff r hr m := by
    rw [member_unbook hl hr, h.member_iff r hr m]
    constructor
    · rintro ⟨⟨branch, hb⟩, hne⟩
      exact ⟨branch, (h.lists_unbook hl hr m).2 ⟨hb, fun e => hne ⟨congrArg Lane.repo e.1, e.2⟩⟩⟩
    · rintro ⟨branch, hb⟩
      obtain ⟨hb', hne⟩ := (h.lists_unbook hl hr m).1 hb
      refine ⟨⟨branch, hb'⟩, ?_⟩
      rintro ⟨rfl, rfl⟩
      exact hne ⟨h.one_lane _ _ hr rfl m hb' hn, rfl⟩
  nodup l' hl' := by
    rw [list_removeMember, list_removeFirst hl hl']
    split_ifs with he
    · rw [map_number_eraseP]
      exact (h.nodup l hl).erase n
    · exact h.nodup l' hl'
  one_lane l₁ l₂ hl₁ hr m h₁ h₂ :=
    h.one_lane l₁ l₂ hl₁ hr m ((h.lists_unbook hl hl₁ m).1 h₁).1
      ((h.lists_unbook hl (hr ▸ hl₁) m).1 h₂).1

end InStep

end Books

end MergeTurn
