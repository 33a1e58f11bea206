import MergeTurn.Proofs.Store.Atomic
import MergeTurn.Proofs.Wire.Snapshot

set_option autoImplicit false

/-!
# Stores that are opened again

A store in memory writes every change to its file before it makes it. So the store that is opened on
the file again is the store itself, after each change that was made, and before the first one too,
when there is no file yet.

## Main definitions

* `MergeTurn.Memory.Kept` — the file of a store holds the store.

## Main results

* `MergeTurn.Memory.kept_of_load` — so does the file of a new store on a path without a file.
* `MergeTurn.Memory.Kept.replace` — a change is made and is in the file.
-/

namespace MergeTurn

namespace Backing

/-- A file holds what its document was written for. -/
lemma load_of_save {α : Type} {read : Json → Except Json.Fault α} (version : α → UInt32)
    {document : Json} {a : α} {b : Backing} (h : b.cell.takes = true)
    (hplain : document.Plain = true) (hread : read document = .ok a)
    (hversion : version a = formVersion) :
    (b.save document).2.load read version = .ok (some a) := by
  have hdecode : Json.decode read (Json.utf8 document.pretty) = .ok a :=
    (Json.decode_pretty hplain).trans hread
  simp only [load, slot_save document h, hdecode, hversion, if_true]

end Backing

namespace Shelves

/-- What is on the shelves can be named if what is in their books can. -/
lemma AllNamed.of_list_subset {s t : Shelves} (h : s.AllNamed)
    (hsub : ∀ key, t.books.list key ⊆ s.books.list key) : t.AllNamed :=
  fun key b hb => h key b (hsub key hb)

/-- Empty shelves hold nothing that cannot be named. -/
lemma allNamed_empty : empty.AllNamed := by
  intro key b hb
  simp [bookings, empty] at hb

variable {s : Shelves} (h : s.AllNamed)
include h

/-- Sets hold no bookings. -/
lemma AllNamed.addMember (scope : String) (n : PullNumber) : (s.addMember scope n).AllNamed :=
  h.of_list_subset fun key => by simp

/-- Sets hold no bookings. -/
lemma AllNamed.removeMember (scope : String) (n : PullNumber) :
    (s.removeMember scope n).AllNamed :=
  h.of_list_subset fun key => by simp

/-- Nothing is put into a list that is taken out of it. -/
lemma AllNamed.removeFirst (key : String) (n : PullNumber) : (s.removeFirst key n).AllNamed := by
  refine h.of_list_subset fun key' => ?_
  simp only [books_removeFirst, Books.removeFirst, Function.update_apply]
  split_ifs with hk
  · rw [hk]
    exact List.eraseP_subset
  · exact List.Subset.refl _

/-- A list with one more booking holds nothing else that it did not hold. -/
lemma AllNamed.append (key : String) {b : Booking} (hb : b.bookedAt.IsNamed) :
    (s.append key b).AllNamed := by
  intro key' c hc
  have hlist : (s.append key b).bookings key' = (s.append key b).books.list key' := rfl
  simp only [hlist, books_append, Books.append, Function.update_apply] at hc
  split_ifs at hc with hk
  · rcases List.mem_append.1 hc with hc | hc
    · exact h key c hc
    · rw [List.mem_singleton.1 hc]
      exact hb
  · exact h key' c hc

end Shelves

namespace Memory

/-- The file of a store holds the store, and can be written. -/
structure Kept (m : Memory) : Prop where
  reload : m.reload = .ok m
  named : m.shelves.AllNamed
  backed : ∃ b, m.backing = some b ∧ b.cell.isWritable = true ∧ b.clock.IsNamed

/-- A new store on a path without a file holds nothing, and neither does the missing file. -/
lemma kept_of_load {p : File.Path} (hp : (File.Cell.absent p).isWritable = true)
    {clock : Time.Timestamp} (hclock : clock.IsNamed) {m : Memory}
    (h : load ⟨File.Cell.absent p, clock⟩ = .ok m) : m.shelves = Shelves.empty ∧ m.Kept := by
  cases h
  exact ⟨rfl, rfl, Shelves.allNamed_empty, _, rfl, hp, hclock⟩

variable {m : Memory}

/-- A store that was opened on a file can be reached, and its file can be written. -/
lemma Kept.serving (h : m.Kept) : m.Serving := by
  obtain ⟨b, hb, hw, -⟩ := h.backed
  refine ⟨?_, fun c hc => ?_⟩
  · have hload := h.reload
    rw [Memory.reload, hb] at hload
    dsimp only [load] at hload
    split at hload
    · cases hload
    · cases hload
      rfl
    · cases hload
      rfl
  · cases hb.symm.trans hc
    exact hw

/-- A change is made, and the file holds the store with the change.

**Proof sketch.** The file is written as a whole, and its document is read as it was written. -/
theorem Kept.replace {α : Type} (h : m.Kept) (answer : α) {s : Shelves} (hs : s.AllNamed) :
    ∃ t, m.replace answer s = (.ok answer, t) ∧ t.Kept ∧ t.shelves = s := by
  obtain ⟨b, hb, hw, hclock⟩ := h.backed
  have hon := h.serving.online
  have htakes : b.cell.takes = true := (Bool.and_eq_true_iff.1 hw).1
  have hdone := (replace_of_backing_some answer s hon hb).trans (if_pos hw)
  refine ⟨_, hdone, ⟨?_, hs, _, rfl, (b.isWritable_save _).trans hw, hclock⟩, rfl⟩
  have hload : (b.save (document b.clock s)).2.load Wire.readStoreSnapshot StoreSnapshot.version =
      .ok (some ⟨formVersion, b.clock, s⟩) :=
    Backing.load_of_save StoreSnapshot.version htakes (Wire.plain_encodeStoreSnapshot _)
      (Wire.readStoreSnapshot_encodeStoreSnapshot hclock hs) rfl
  simp only [hon, Memory.reload, load, hload]

end Memory

end MergeTurn
