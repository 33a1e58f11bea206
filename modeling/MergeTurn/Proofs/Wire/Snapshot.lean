import MergeTurn.Proofs.Json.Layouts
import MergeTurn.Proofs.Json.Records
import MergeTurn.Proofs.Time.RoundTrip
import MergeTurn.Store.Snapshot

set_option autoImplicit false

/-!
# Snapshots are read as they are written

The document of a snapshot is read back as the snapshot: its lists in order with everything in the
bookings, and its sets.

## Main definitions

* `MergeTurn.Shelves.AllNamed` — all bookings on the shelves are from days that can be named.

## Main results

* `MergeTurn.Wire.readBooking_encodeBooking` — a booking is read from its document.
* `MergeTurn.Wire.readStoreSnapshot_encodeStoreSnapshot` — so is a snapshot.

## Design

Points in time are the only parts that need a condition. The calendar goes on for ever, while only
the days of some five hundred thousand years have a name in text.
-/

namespace MergeTurn

/-- All bookings on the shelves are from days that can be named. -/
def Shelves.AllNamed (s : Shelves) : Prop :=
  ∀ key, ∀ b ∈ s.bookings key, b.bookedAt.IsNamed

namespace Wire

open Json (Fits Row)

/-! ## Scalars -/

/-- A 64-bit word is read from its number. -/
lemma readUInt64_encodeUInt64 (n : UInt64) : readUInt64 (encodeUInt64 n) = .ok n := by
  rw [encodeUInt64, readUInt64, Json.readNat_nat n.toNat_lt]
  exact congrArg Except.ok UInt64.ofNat_toNat

/-- A pull request is read from its number. -/
lemma readNumber_encodeNumber (n : PullNumber) : readNumber (encodeNumber n) = .ok n := by
  rw [encodeNumber, readNumber, readUInt64_encodeUInt64]
  rfl

/-- A 32-bit word is read from its number. -/
lemma readUInt32_nat (n : UInt32) : readUInt32 (Json.nat n.toNat) = .ok n := by
  rw [readUInt32, Json.readNat_nat n.toNat_lt]
  exact congrArg Except.ok UInt32.ofNat_toNat

/-- A point in time is read from its text if its day can be named. -/
lemma readTimestamp_encodeTimestamp {t : Time.Timestamp} (h : t.IsNamed) :
    readTimestamp (encodeTimestamp t) = .ok t := by
  have hread : Json.readText (encodeTimestamp t) = .ok t.toText := rfl
  rw [readTimestamp, hread]
  simp only [bind, Except.bind, Time.Timestamp.ofText?_toText h]

/-! ## Bookings -/

/-- A booking is read from its document. -/
theorem readBooking_encodeBooking {b : Booking} (h : b.bookedAt.IsNamed) :
    readBooking (encodeBooking b) = .ok b := by
  have hnumber : numberField.read (encodeNumber b.number) = .ok b.number :=
    readNumber_encodeNumber b.number
  have husername : usernameField.read (Json.text b.username) = .ok b.username := rfl
  have hbookedAt : bookedAtField.read (encodeTimestamp b.bookedAt) = .ok b.bookedAt :=
    readTimestamp_encodeTimestamp h
  rw [readBooking, encodeBooking, Json.readRecord_object (by simp)]
  · rw [(Row.get_of_lookup rfl).trans hnumber, (Row.get_of_lookup rfl).trans husername,
      (Row.get_of_lookup rfl).trans hbookedAt]
    rfl
  · simp only [List.forall_mem_cons]
    exact ⟨Json.fits_of_read rfl hnumber, Json.fits_of_read rfl husername,
      Json.fits_of_read rfl hbookedAt, by simp⟩

/-! ## Shelves -/

/-- A map is made of its entries. -/
lemma ofList_toList {κ β : Type} [DecidableEq κ] [Ord κ] [Std.TransOrd κ] [Std.LawfulEqOrd κ]
    (m : Std.ExtTreeMap κ β) : Std.ExtTreeMap.ofList m.toList = m := by
  apply Std.ExtTreeMap.ext_getElem?
  intro k
  have hdistinct : m.toList.Pairwise fun a b => ¬ compare a.1 b.1 = .eq :=
    Std.ExtTreeMap.distinct_keys_toList
  cases hk : m[k]? with
  | some v =>
    exact Std.ExtTreeMap.getElem?_ofList_of_mem Std.ReflCmp.compare_self hdistinct
      (Std.ExtTreeMap.mem_toList_iff_getElem?_eq_some.2 hk)
  | none =>
    apply Std.ExtTreeMap.getElem?_ofList_of_contains_eq_false
    rw [Std.ExtTreeMap.map_fst_toList_eq_keys, Std.ExtTreeMap.contains_keys]
    rw [Std.ExtTreeMap.contains_eq_isSome_getElem?, hk]
    rfl

/-- A set is made of its elements. -/
lemma set_ofList_toList (ns : Std.ExtTreeSet PullNumber) :
    Std.ExtTreeSet.ofList ns.toList = ns := by
  apply Std.ExtTreeSet.ext_contains
  intro n
  rw [Std.ExtTreeSet.contains_ofList, Std.ExtTreeSet.contains_toList]

/-- Shelves are made of their entries. -/
lemma shelvesOfEntries_toList (s : Shelves) :
    shelvesOfEntries s.lists.toList (s.sets.toList.map fun e => (e.1, e.2.toList)) = s := by
  have hsets : (s.sets.toList.map fun e => (e.1, e.2.toList)).map
      (fun e => (e.1, Std.ExtTreeSet.ofList e.2)) = s.sets.toList := by
    rw [List.map_map]
    exact (List.map_congr_left fun e _ => congrArg (Prod.mk e.1) (set_ofList_toList e.2)).trans
      (List.map_id _)
  rw [shelvesOfEntries, ofList_toList]
  refine congrArg (Shelves.mk s.lists) ?_
  exact (congrArg (Std.ExtTreeMap.ofList ·) hsets).trans (ofList_toList s.sets)

/-- The lists of shelves are read from their document. -/
lemma readLists_encodeShelfLists {s : Shelves} (h : s.AllNamed) :
    Json.readEntries (Json.readList readBooking) (encodeShelfLists s) = .ok s.lists.toList := by
  refine Json.readEntries_object fun e he => Json.readList_array fun b hb => ?_
  obtain ⟨key, bs⟩ := e
  refine readBooking_encodeBooking (h key b ?_)
  rw [Shelves.bookings, Std.ExtTreeMap.getD_eq_getD_getElem?,
    Std.ExtTreeMap.mem_toList_iff_getElem?_eq_some.1 he]
  exact hb

/-- The sets of shelves are read from their document. -/
lemma readSets_encodeShelfSets (s : Shelves) :
    Json.readEntries (Json.readList readNumber) (encodeShelfSets s) =
      .ok (s.sets.toList.map fun e => (e.1, e.2.toList)) := by
  have hread : Json.readEntries (Json.readList readNumber)
      (Json.object ((s.sets.toList.map fun e => (e.1, e.2.toList)).map
        fun e => (e.1, Json.array encodeNumber e.2))) =
      .ok (s.sets.toList.map fun e => (e.1, e.2.toList)) :=
    Json.readEntries_object fun e _ => Json.readList_array fun n _ => readNumber_encodeNumber n
  rw [List.map_map] at hread
  exact hread

/-! ## Snapshots -/

/-- A snapshot is read from its document. -/
theorem readStoreSnapshot_encodeStoreSnapshot {s : StoreSnapshot} (h : s.savedAt.IsNamed)
    (hs : s.shelves.AllNamed) : readStoreSnapshot (encodeStoreSnapshot s) = .ok s := by
  have hversion : versionField.read (Json.nat s.version.toNat) = .ok s.version :=
    readUInt32_nat s.version
  have hsavedAt : savedAtField.read (encodeTimestamp s.savedAt) = .ok s.savedAt :=
    readTimestamp_encodeTimestamp h
  have hlists : listsField.read (encodeShelfLists s.shelves) = .ok s.shelves.lists.toList :=
    readLists_encodeShelfLists hs
  have hsets : setsField.read (encodeShelfSets s.shelves) =
      .ok (s.shelves.sets.toList.map fun e => (e.1, e.2.toList)) :=
    readSets_encodeShelfSets s.shelves
  rw [readStoreSnapshot, encodeStoreSnapshot, Json.readRecord_object (by simp)]
  · rw [(Row.get_of_lookup rfl).trans hversion, (Row.get_of_lookup rfl).trans hsavedAt,
      (Row.get_of_lookup rfl).trans hlists, (Row.get_of_lookup rfl).trans hsets]
    exact congrArg (fun t => Except.ok (StoreSnapshot.mk s.version s.savedAt t))
      (shelvesOfEntries_toList s.shelves)
  · simp only [List.forall_mem_cons]
    exact ⟨Json.fits_of_read rfl hversion, Json.fits_of_read rfl hsavedAt,
      Json.fits_of_read rfl hlists, Json.fits_of_read rfl hsets, by simp⟩

/-- The document of a booking has a text of its own. -/
lemma plain_encodeBooking (b : Booking) : (encodeBooking b).Plain = true := rfl

/-- The document of a snapshot has a text of its own. -/
lemma plain_encodeStoreSnapshot (s : StoreSnapshot) : (encodeStoreSnapshot s).Plain = true := by
  have hlists : (encodeShelfLists s.shelves).Plain = true := by
    refine Json.plain_object fun m hm => ?_
    obtain ⟨e, -, rfl⟩ := List.mem_map.1 hm
    exact Json.plain_array fun b _ => plain_encodeBooking b
  have hsets : (encodeShelfSets s.shelves).Plain = true := by
    refine Json.plain_object fun m hm => ?_
    obtain ⟨e, -, rfl⟩ := List.mem_map.1 hm
    exact Json.plain_array fun n _ => rfl
  refine Json.plain_object ?_
  simp only [List.forall_mem_cons]
  exact ⟨rfl, rfl, hlists, hsets, by simp⟩

end Wire

end MergeTurn
