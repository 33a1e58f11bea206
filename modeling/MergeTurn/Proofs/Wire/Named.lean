import MergeTurn.Proofs.Json.Tagged
import MergeTurn.Proofs.Wire.Snapshot

set_option autoImplicit false

/-!
# What is read can be written again

A point in time is only read from a text if its day can be named, whatever the offset in the text.
So what is read from a file can be written to it again, and is then read as what it was.

## Main results

* `MergeTurn.Time.Timestamp.isNamed_of_ofText?` — points in time that are read can be named.
* `MergeTurn.Wire.allNamed_of_readStoreSnapshot` — so can all bookings of a snapshot that is read.
* `MergeTurn.Backing.snapshot_of_load` — what a store finds in its file.
-/

namespace MergeTurn

/-! ## Points in time -/

namespace Time.Timestamp

/-- A point in time that is made of parts can be named. -/
lemma isNamed_of_ofParts? {date : Date} {hour minute second nanos : Nat} {offset : Int}
    {t : Timestamp} (h : ofParts? date hour minute second nanos offset = some t) : t.IsNamed := by
  unfold ofParts? at h
  split at h
  · dsimp only at h
    split at h
    · split at h
      · rename_i hyear
        cases h
        exact hyear
      · cases h
    · cases h
  · cases h

/-- A point in time that is read from a text can be named. -/
theorem isNamed_of_ofText? {s : String} {t : Timestamp} (h : ofText? s = some t) : t.IsNamed := by
  rw [ofText?, ofChars?] at h
  obtain ⟨⟨year, r⟩, -, h⟩ := Option.bind_eq_some_iff.1 h
  obtain ⟨r, -, h⟩ := Option.bind_eq_some_iff.1 h
  obtain ⟨⟨month, r⟩, -, h⟩ := Option.bind_eq_some_iff.1 h
  obtain ⟨r, -, h⟩ := Option.bind_eq_some_iff.1 h
  obtain ⟨⟨day, r⟩, -, h⟩ := Option.bind_eq_some_iff.1 h
  -- The mark between date and time is one of three.
  dsimp only at h
  split at h
  · split at h
    · obtain ⟨r, -, h⟩ := Option.bind_eq_some_iff.1 h
      obtain ⟨⟨hour, r⟩, -, h⟩ := Option.bind_eq_some_iff.1 h
      obtain ⟨r, -, h⟩ := Option.bind_eq_some_iff.1 h
      obtain ⟨⟨minute, r⟩, -, h⟩ := Option.bind_eq_some_iff.1 h
      obtain ⟨r, -, h⟩ := Option.bind_eq_some_iff.1 h
      obtain ⟨⟨second, r⟩, -, h⟩ := Option.bind_eq_some_iff.1 h
      obtain ⟨⟨nanos, r⟩, -, h⟩ := Option.bind_eq_some_iff.1 h
      obtain ⟨⟨offset, r⟩, -, h⟩ := Option.bind_eq_some_iff.1 h
      dsimp only at h
      split at h
      · exact isNamed_of_ofParts? h
      · cases h
    · cases h
  · cases h

end Time.Timestamp

/-! ## Readers -/

namespace Json

variable {α : Type} {read : Json → Except Fault α} {P : α → Prop}

/-- The elements of a list that is read are each read from something. -/
lemma forall_of_readList (hP : ∀ v a, read v = .ok a → P a) {v : Json} {as : List α}
    (h : readList read v = .ok as) : ∀ a ∈ as, P a := by
  unfold readList at h
  split at h
  · next es =>
    fun_induction es.read read generalizing as with
    | case1 =>
      cases h
      simp
    | case2 => cases h
    | case3 v es ih =>
      obtain ⟨a, ha, h⟩ := exists_of_bind h
      obtain ⟨rest, hrest, h⟩ := exists_of_bind h
      cases h
      exact List.forall_mem_cons.2 ⟨hP v a ha, ih hrest⟩
  · cases h

/-- The values of a dictionary that is read are each read from something. -/
lemma forall_of_readEntries (hP : ∀ v a, read v = .ok a → P a) {v : Json}
    {entries : List (String × α)} (h : readEntries read v = .ok entries) :
    ∀ e ∈ entries, P e.2 := by
  unfold readEntries at h
  split at h
  · next ms =>
    fun_induction ms.readEntries read generalizing entries with
    | case1 =>
      cases h
      simp
    | case2 | case3 => cases h
    | case4 k v ms ih =>
      obtain ⟨a, ha, h⟩ := exists_of_bind h
      obtain ⟨rest, hrest, h⟩ := exists_of_bind h
      cases h
      exact List.forall_mem_cons.2 ⟨hP v a ha, ih hrest⟩
  · cases h

/-- The value of a field that must be there is read from something. -/
lemma exists_of_get {f : Field α} (hf : f.absent = none) {row : Row} {a : α}
    (h : row.get f = .ok a) : ∃ v, f.read v = .ok a := by
  unfold Row.get at h
  split at h
  · exact ⟨_, h⟩
  · rw [hf] at h
    cases h

end Json

namespace Wire

/-- A point in time that is read can be named. -/
lemma isNamed_of_readTimestamp {v : Json} {t : Time.Timestamp} (h : readTimestamp v = .ok t) :
    t.IsNamed := by
  obtain ⟨text, -, h⟩ := Json.exists_of_bind h
  split at h
  · rename_i t' ht
    cases h
    exact Time.Timestamp.isNamed_of_ofText? ht
  · cases h

/-- The time of a booking that is read can be named. -/
lemma isNamed_of_readBooking {v : Json} {b : Booking} (h : readBooking v = .ok b) :
    b.bookedAt.IsNamed := by
  obtain ⟨row, h⟩ := Json.exists_of_readRecord h
  obtain ⟨number, -, h⟩ := Json.exists_of_bind h
  obtain ⟨username, -, h⟩ := Json.exists_of_bind h
  obtain ⟨bookedAt, hat, h⟩ := Json.exists_of_bind h
  cases h
  obtain ⟨w, hw⟩ := Json.exists_of_get (f := bookedAtField) rfl hat
  exact isNamed_of_readTimestamp hw

/-! ## Snapshots -/

/-- What is found in a map that entries are put into was in one of them or in the map before. -/
lemma mem_or_of_insertMany {β : Type} {entries : List (String × β)} {m : Std.ExtTreeMap String β}
    {k : String} {v : β} (h : (m.insertMany entries)[k]? = some v) :
    (k, v) ∈ entries ∨ m[k]? = some v := by
  induction entries generalizing m with
  | nil => exact .inr (by simpa using h)
  | cons e entries ih =>
    rw [Std.ExtTreeMap.insertMany_cons] at h
    rcases ih h with hmem | hm
    · exact .inl (List.mem_cons_of_mem _ hmem)
    · rw [Std.ExtTreeMap.getElem?_insert] at hm
      split_ifs at hm with hk
      · cases hm
        rw [Std.compare_eq_iff_eq] at hk
        exact .inl (by simp [← hk])
      · exact .inr hm

/-- The bookings of a list that was made of entries are those of one of them. -/
lemma allNamed_shelvesOfEntries {lists : List (String × List Booking)}
    (h : ∀ e ∈ lists, ∀ b ∈ e.2, b.bookedAt.IsNamed) (sets : List (String × List PullNumber)) :
    (shelvesOfEntries lists sets).AllNamed := by
  intro key b hb
  rw [Shelves.bookings, Std.ExtTreeMap.getD_eq_getD_getElem?] at hb
  cases hk : (shelvesOfEntries lists sets).lists[key]? with
  | none =>
    rw [hk] at hb
    cases hb
  | some bs =>
    rw [hk] at hb
    rw [shelvesOfEntries, Std.ExtTreeMap.ofList_eq_insertMany_empty] at hk
    rcases mem_or_of_insertMany hk with hmem | hempty
    · exact h _ hmem b hb
    · simp at hempty

/-- All bookings of a snapshot that is read can be named. -/
theorem allNamed_of_readStoreSnapshot {v : Json} {s : StoreSnapshot}
    (h : readStoreSnapshot v = .ok s) : s.shelves.AllNamed := by
  obtain ⟨row, h⟩ := Json.exists_of_readRecord h
  obtain ⟨version, -, h⟩ := Json.exists_of_bind h
  obtain ⟨savedAt, -, h⟩ := Json.exists_of_bind h
  obtain ⟨lists, hlists, h⟩ := Json.exists_of_bind h
  obtain ⟨sets, -, h⟩ := Json.exists_of_bind h
  cases h
  obtain ⟨w, hw⟩ := Json.exists_of_get (f := listsField) rfl hlists
  refine allNamed_shelvesOfEntries ?_ sets
  exact Json.forall_of_readEntries (P := fun bs => ∀ b ∈ bs, b.bookedAt.IsNamed)
    (fun _ _ h => Json.forall_of_readList (fun _ _ => isNamed_of_readBooking) h) hw

end Wire

/-- A snapshot that a store finds in its file is of the version that is written, and all its
bookings can be named. -/
lemma Backing.snapshot_of_load {b : Backing} {s : StoreSnapshot}
    (h : b.load Wire.readStoreSnapshot StoreSnapshot.version = .ok (some s)) :
    s.version = formVersion ∧ s.shelves.AllNamed := by
  unfold Backing.load at h
  split at h
  · cases h
  · cases h
  · rename_i content _
    split at h
    · cases h
    · rename_i a ha
      split at h
      · rename_i hversion
        cases h
        refine ⟨hversion, ?_⟩
        unfold Json.decode at ha
        dsimp only at ha
        split at ha
        · cases ha
        · rename_i a' hread
          split at ha
          · cases ha
            exact Wire.allNamed_of_readStoreSnapshot hread
          · cases ha
      · cases h

end MergeTurn
