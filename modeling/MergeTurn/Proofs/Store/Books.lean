import Mathlib.Logic.Function.Basic
import MergeTurn.Store.Shelves

set_option autoImplicit false

/-!
# Stores seen as books

All that a reader of a store can tell is which bookings each list holds and which pull requests are
in each set. Two stores that agree on this are the same to the desk, whatever they keep besides.

## Main definitions

* `MergeTurn.Books` — a list for each key and a set for each scope.
* `MergeTurn.Books.addMember`, `removeMember`, `append`, `removeFirst` — what the primitives do to
  them.
* `MergeTurn.Shelves.books` — what shelves hold.

## Main results

* `MergeTurn.Shelves.books_addMember` and its kin — a change of the shelves is the change of the
  books of the same name.

## Design

Books are functions of the key, so that lists and sets that were never written need no case of
their own.
-/

namespace MergeTurn

/-- A list of bookings for each key, and a set of pull requests for each scope. -/
@[ext]
structure Books where
  list : String → List Booking
  member : String → PullNumber → Bool

namespace Books

/-- Books with nothing in them. -/
def empty : Books := ⟨fun _ => [], fun _ _ => false⟩

/-- The books with a pull request put into a set. -/
def addMember (scope : String) (n : PullNumber) (k : Books) : Books :=
  { k with member := fun s m => if s = scope ∧ m = n then true else k.member s m }

/-- The books with a pull request taken out of a set. -/
def removeMember (scope : String) (n : PullNumber) (k : Books) : Books :=
  { k with member := fun s m => if s = scope ∧ m = n then false else k.member s m }

/-- The books with a booking put at the end of a list. -/
def append (key : String) (b : Booking) (k : Books) : Books :=
  { k with list := Function.update k.list key (k.list key ++ [b]) }

/-- The books with the first booking of a pull request taken out of a list. -/
def removeFirst (key : String) (n : PullNumber) (k : Books) : Books :=
  { k with list := Function.update k.list key ((k.list key).eraseP (·.number == n)) }

/-- The bookings at the front of a list, or all of them. -/
def front (key : String) (limit : Option Nat) (k : Books) : List Booking :=
  match limit with
  | none => k.list key
  | some n => (k.list key).take n

variable (k : Books) (key scope : String) (b : Booking) (n : PullNumber)

@[simp] lemma list_addMember : (k.addMember scope n).list = k.list := rfl

@[simp] lemma list_removeMember : (k.removeMember scope n).list = k.list := rfl

@[simp] lemma member_append : (k.append key b).member = k.member := rfl

@[simp] lemma member_removeFirst : (k.removeFirst key n).member = k.member := rfl

/-- A member that was put into a set comes out of it without a trace. -/
lemma removeMember_addMember (h : k.member scope n = false) :
    (k.addMember scope n).removeMember scope n = k := by
  ext1
  · rfl
  · funext s m
    by_cases hs : s = scope ∧ m = n
    · obtain ⟨rfl, rfl⟩ := hs
      simp [removeMember, h]
    · simp only [removeMember, addMember, if_neg hs]

/-- Nothing is taken out of a list that has no booking of the pull request. -/
lemma removeFirst_of_not_any (h : (k.list key).any (·.number == n) = false) :
    k.removeFirst key n = k := by
  have herase : (k.list key).eraseP (·.number == n) = k.list key :=
    List.eraseP_of_forall_not (by simpa using h)
  simp [removeFirst, herase]

end Books

namespace Shelves

/-- An entry that is dropped when it has come to read like a missing one may as well be kept. -/
lemma getD_insert_unless {β : Type} (m : Std.ExtTreeMap String β) (k t : String) (v d : β)
    {p : Prop} [Decidable p] (h : p → v = d) :
    (if p then m.erase k else m.insert k v).getD t d = if k = t then v else m.getD t d := by
  by_cases hp : p
  · simp [hp, Std.ExtTreeMap.getD_erase, h hp]
  · simp [hp, Std.ExtTreeMap.getD_insert]

/-- What shelves hold. -/
def books (s : Shelves) : Books :=
  ⟨fun key => s.bookings key, fun scope n => s.hasMember scope n⟩

@[simp] lemma books_empty : empty.books = Books.empty := by
  ext1
  · funext key
    simp [books, Books.empty, empty, bookings]
  · funext scope n
    simp [books, Books.empty, empty, hasMember]

@[simp] lemma books_addMember (s : Shelves) (scope : String) (n : PullNumber) :
    (s.addMember scope n).books = s.books.addMember scope n := by
  ext1
  · rfl
  · funext t m
    simp only [books, hasMember, addMember, Books.addMember, Std.ExtTreeMap.getD_insert,
      Std.compare_eq_iff_eq]
    by_cases ht : scope = t
    · subst ht
      by_cases hm : n = m
      · simp [hm]
      · simp [hm, Ne.symm hm, Std.ExtTreeSet.contains_insert]
    · simp [ht, Ne.symm ht]

@[simp] lemma books_removeMember (s : Shelves) (scope : String) (n : PullNumber) :
    (s.removeMember scope n).books = s.books.removeMember scope n := by
  have hlists : (s.removeMember scope n).lists = s.lists := by
    unfold removeMember; split <;> rfl
  have hset : ∀ t, (s.removeMember scope n).sets.getD t ∅ =
      if scope = t then (s.sets.getD scope ∅).erase n else s.sets.getD t ∅ := by
    intro t
    unfold removeMember
    cases hs : s.sets[scope]? with
    | none =>
      by_cases ht : scope = t
      · subst ht
        simp [Std.ExtTreeMap.getD_eq_getD_getElem?, hs]
      · simp [ht]
    | some members =>
      rw [show s.sets.getD scope ∅ = members by simp [Std.ExtTreeMap.getD_eq_getD_getElem?, hs]]
      exact getD_insert_unless _ _ _ _ _ Std.ExtTreeSet.isEmpty_iff.1
  ext1
  · funext key
    simp [books, bookings, hlists]
  · funext t m
    simp only [books, hasMember, hset, Books.removeMember]
    by_cases ht : scope = t
    · subst ht
      by_cases hm : n = m
      · simp [hm]
      · simp [hm, Ne.symm hm, Std.ExtTreeSet.contains_erase]
    · simp [ht, Ne.symm ht]

@[simp] lemma books_append (s : Shelves) (key : String) (b : Booking) :
    (s.append key b).books = s.books.append key b := by
  ext1
  · funext t
    by_cases ht : key = t
    · subst ht
      simp [books, bookings, append, Books.append]
    · simp [books, bookings, append, Books.append, ht, Ne.symm ht, Std.ExtTreeMap.getD_insert]
  · rfl

@[simp] lemma books_removeFirst (s : Shelves) (key : String) (n : PullNumber) :
    (s.removeFirst key n).books = s.books.removeFirst key n := by
  unfold removeFirst
  split
  · ext1
    · funext t
      refine (getD_insert_unless s.lists key t _ _ List.isEmpty_iff.1).trans ?_
      simp only [Books.removeFirst, Function.update_apply, eq_comm (a := key)]
      rfl
    · rfl
  · rename_i h
    exact (Books.removeFirst_of_not_any s.books key n (Bool.eq_false_iff.2 h)).symm

/-- The front of a list of the shelves is that of the books. -/
@[simp] lemma front_books (s : Shelves) (key : String) (limit : Option Nat) :
    s.books.front key limit = s.front key limit := by
  cases limit <;> rfl

end Shelves

end MergeTurn
