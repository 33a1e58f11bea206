import Mathlib.Data.List.Nodup
import MergeTurn.Json.Decode

set_option autoImplicit false

/-!
# Encoded values are read back from their documents

A list, a dictionary or a record is read back if its parts are. For a record it is enough that its
members have different names, each the name of a field, with a value that the field reads.

## Main definitions

* `MergeTurn.Json.Fits` — a document is fit for the field of its name.
* `MergeTurn.Json.present` — the members that are written, of those that may be left out.
* `MergeTurn.Json.Field.Takes` — a field takes what is written of its member for a value.

## Main results

* `MergeTurn.Json.readList_array`, `MergeTurn.Json.readEntries_object` — lists and dictionaries.
* `MergeTurn.Json.readRecord_object` — a record is built from the members that are written.
* `MergeTurn.Json.readRecord_present` — so is a record of which some members are left out.
-/

namespace MergeTurn.Json

variable {α : Type}

/-- A natural number is read back below its bound. -/
lemma readNat_nat {bound n : Nat} (h : n < bound) : readNat bound (nat n) = .ok n :=
  if_pos h

/-- The elements of an encoded list are read back if each is. -/
lemma Elements.read_ofList {encode : α → Json} {read : Json → Except Fault α} {as : List α}
    (h : ∀ a ∈ as, read (encode a) = .ok a) :
    (Elements.ofList (as.map encode)).read read = .ok as := by
  induction as with
  | nil => rfl
  | cons a as ih =>
    obtain ⟨ha, has⟩ := List.forall_mem_cons.1 h
    rw [List.map_cons, Elements.ofList, Elements.read, ha, ih has]
    rfl

/-- An encoded list is read back if its elements are. -/
theorem readList_array {encode : α → Json} {read : Json → Except Fault α} {as : List α}
    (h : ∀ a ∈ as, read (encode a) = .ok a) : readList read (array encode as) = .ok as :=
  Elements.read_ofList h

/-- An encoded dictionary is read back if its values are. -/
theorem readEntries_object {encode : α → Json} {read : Json → Except Fault α}
    {entries : List (String × α)} (h : ∀ e ∈ entries, read (encode e.2) = .ok e.2) :
    readEntries read (object (entries.map fun e => (e.1, encode e.2))) = .ok entries := by
  rw [object, readEntries]
  induction entries with
  | nil => rfl
  | cons e entries ih =>
    obtain ⟨he, hes⟩ := List.forall_mem_cons.1 h
    rw [List.map_cons, Members.ofList, Members.readEntries, he, ih hes]
    rfl

/-! ## Members by name -/

section Lookup

variable {β : Type} {k l : String}

/-- A member of another name is not found. -/
lemma lookup_cons_of_ne (h : l ≠ k) (v : β) (ms : List (String × β)) :
    ((k, v) :: ms).lookup l = ms.lookup l := by
  rw [List.lookup_cons, beq_eq_false_iff_ne.2 h]

/-- Two members of different names are found in either order. -/
lemma lookup_swap (h : k ≠ l) (v w : β) (ms : List (String × β)) (name : String) :
    ((k, v) :: (l, w) :: ms).lookup name = ((l, w) :: (k, v) :: ms).lookup name := by
  by_cases hk : name = k
  · subst hk
    rw [List.lookup_cons_self, lookup_cons_of_ne h, List.lookup_cons_self]
  · by_cases hl : name = l
    · subst hl
      rw [lookup_cons_of_ne hk, List.lookup_cons_self, List.lookup_cons_self]
    · rw [lookup_cons_of_ne hk, lookup_cons_of_ne hl, lookup_cons_of_ne hl, lookup_cons_of_ne hk]

/-- A member is found by its name if no other has that name. -/
lemma lookup_of_mem {ms : List (String × β)} {v : β} (hnames : (ms.map (·.1)).Nodup)
    (h : (k, v) ∈ ms) : ms.lookup k = some v := by
  obtain ⟨before, after, rfl⟩ := List.append_of_mem h
  rw [List.map_append, List.map_cons, List.nodup_middle] at hnames
  refine List.lookup_eq_some_iff.2 ⟨before, after, rfl, fun m hm => ?_⟩
  have hne : k ≠ m.1 := fun e =>
    (List.nodup_cons.1 hnames).1 (List.mem_append_left _ (List.mem_map.2 ⟨m, hm, e.symm⟩))
  exact bne_iff_ne.2 hne

end Lookup

/-! ## Records -/

/-- A document is fit for the field of its name. -/
def Fits (slots : List Slot) (m : String × Json) : Prop :=
  ∃ s, slot? slots m.1 = some s ∧ s.check m.2 = .ok ()

/-- A field reads a document exactly if its slot takes it. -/
lemma check_slot {f : Field α} {v : Json} {a : α} (h : f.read v = .ok a) :
    f.slot.check v = .ok () := by
  rw [Field.slot]
  dsimp only
  rw [h]
  rfl

/-- What a field reads is fit for it. -/
lemma fits_of_read {slots : List Slot} {f : Field α} {v : Json} {a : α}
    (hslot : slot? slots f.name = some f.slot) (h : f.read v = .ok a) : Fits slots (f.name, v) :=
  ⟨f.slot, hslot, check_slot h⟩

/-- The members of a record are found in the order written, the last one first. -/
lemma Members.row_ofList {slots : List Slot} {ms : List (String × Json)} {found : Row}
    (hnames : (ms.map (·.1)).Nodup) (hfound : ∀ m ∈ ms, found.lookup m.1 = none)
    (hfits : ∀ m ∈ ms, Fits slots m) :
    (Members.ofList ms).row slots found = .ok (ms.reverse ++ found) := by
  induction ms generalizing found with
  | nil => rfl
  | cons m ms ih =>
    obtain ⟨k, v⟩ := m
    obtain ⟨hk, hnames⟩ := List.nodup_cons.1 hnames
    obtain ⟨hnone, hfound⟩ := List.forall_mem_cons.1 hfound
    obtain ⟨⟨s, hslot, hcheck⟩, hfits⟩ := List.forall_mem_cons.1 hfits
    have hfound' : ∀ m ∈ ms, List.lookup m.1 ((k, v) :: found) = none := by
      intro m hm
      have hne : m.1 ≠ k := fun e => hk (List.mem_map.2 ⟨m, hm, e⟩)
      rw [lookup_cons_of_ne hne]
      exact hfound m hm
    rw [Members.ofList, Members.row]
    dsimp only at hslot hcheck hnone ⊢
    rw [hslot, hnone]
    dsimp only
    rw [hcheck, if_neg (by simp), List.reverse_cons, List.append_assoc]
    exact ih hnames hfound' hfits

/-- A record is built from the members that are written, the last one first. -/
theorem readRecord_object {slots : List Slot} {build : Row → Except Fault α}
    {ms : List (String × Json)} (hnames : (ms.map (·.1)).Nodup)
    (hfits : ∀ m ∈ ms, Fits slots m) :
    readRecord slots build (object ms) = build ms.reverse := by
  rw [object, readRecord, Members.row_ofList hnames (by simp) hfits, List.append_nil]
  rfl

/-- The value of a field is read from the member of its name. -/
lemma Row.get_of_lookup {row : Row} {f : Field α} {v : Json} (h : row.lookup f.name = some v) :
    row.get f = f.read v := by
  rw [Row.get, h]

/-- A missing field is taken for what it is taken for. -/
lemma Row.get_of_absent {row : Row} {f : Field α} {a : α} (h : row.lookup f.name = none)
    (ha : f.absent = some a) : row.get f = .ok a := by
  rw [Row.get, h, ha]

/-! ## Members that are left out -/

/-- Of distinct names the order does not matter. -/
lemma lookup_reverse {row : Row} (hnames : (row.map (·.1)).Nodup) (k : String) :
    row.reverse.lookup k = row.lookup k := by
  cases h : row.lookup k with
  | some v =>
    obtain ⟨before, after, hrow, -⟩ := List.lookup_eq_some_iff.1 h
    refine lookup_of_mem ?_ (List.mem_reverse.2 (hrow ▸ List.mem_append_right _ List.mem_cons_self))
    rw [List.map_reverse]
    exact List.nodup_reverse.2 hnames
  | none =>
    rw [List.lookup_eq_none_iff] at h ⊢
    exact fun m hm => h m (List.mem_reverse.1 hm)

/-- The members that are written. -/
def present (ms : List (String × Option Json)) : Row :=
  ms.filterMap fun m => m.2.map (m.1, ·)

/-- A member is written with the value that it has. -/
lemma mem_present {ms : List (String × Option Json)} {m : String × Json} :
    m ∈ present ms ↔ (m.1, some m.2) ∈ ms := by
  simp only [present, List.mem_filterMap, Option.map_eq_some_iff]
  constructor
  · rintro ⟨⟨k, v⟩, hmem, a, rfl : v = some a, rfl⟩
    exact hmem
  · exact fun hmem => ⟨_, hmem, m.2, rfl, rfl⟩

/-- An object has a text of its own if all members that are written have. -/
lemma plain_present {ms : List (String × Option Json)}
    (h : ∀ m ∈ ms, ∀ v ∈ m.2, v.Plain = true) : (object (present ms)).Plain = true :=
  plain_object fun m hm => h _ (mem_present.1 hm) m.2 rfl

/-- The names of the members that are written are distinct. -/
lemma nodup_present {ms : List (String × Option Json)} (hnames : (ms.map (·.1)).Nodup) :
    ((present ms).map (·.1)).Nodup := by
  refine hnames.sublist ?_
  induction ms with
  | nil => exact List.Sublist.slnil
  | cons m ms ih =>
    obtain ⟨k, v⟩ := m
    have hms := ih (List.nodup_cons.1 hnames).2
    cases v with
    | none => exact hms.cons k
    | some v => exact hms.cons_cons k

/-- Under the name of a member stands what is written of it. -/
lemma lookup_present {ms : List (String × Option Json)} (hnames : (ms.map (·.1)).Nodup)
    (k : String) : (present ms).lookup k = (ms.lookup k).join := by
  induction ms with
  | nil => rfl
  | cons m ms ih =>
    obtain ⟨name, o⟩ := m
    obtain ⟨hname, hnames⟩ := List.nodup_cons.1 hnames
    by_cases hk : k = name
    · subst hk
      rw [List.lookup_cons_self, Option.join_some]
      cases o with
      | some v => exact List.lookup_cons_self
      | none =>
        -- Nothing is written of this member, and no other has its name.
        refine List.lookup_eq_none_iff.2 fun m hm => bne_iff_ne.2 ?_
        rintro rfl
        exact hname (List.mem_map.2 ⟨_, mem_present.1 hm, rfl⟩)
    · rw [lookup_cons_of_ne hk, ← ih hnames]
      cases o with
      | some v => exact lookup_cons_of_ne hk v _
      | none => rfl

/-- A field takes what is written of its member for a value. -/
def Field.Takes (f : Field α) (o : Option Json) (a : α) : Prop :=
  match o with
  | some v => f.read v = .ok a
  | none => f.absent = some a

/-- A field has the value that it takes its member for. -/
lemma Field.Takes.get {f : Field α} {o : Option Json} {a : α} {row : Row} (h : f.Takes o a)
    (hrow : row.lookup f.name = o) : row.get f = .ok a := by
  cases o with
  | some v => exact (Row.get_of_lookup hrow).trans h
  | none => exact Row.get_of_absent hrow h

/-- What a field takes for a value is fit for it. -/
lemma Field.Takes.fits {slots : List Slot} {f : Field α} {o : Option Json} {a : α}
    (h : f.Takes o a) (hslot : slot? slots f.name = some f.slot) :
    ∀ v ∈ o, Fits slots (f.name, v) := by
  rintro v rfl
  exact fits_of_read hslot h

/-- A record is built from the members that are written, each found under its name. -/
theorem readRecord_present {slots : List Slot} {build : Row → Except Fault α} {a : α}
    {ms : List (String × Option Json)} (hnames : (ms.map (·.1)).Nodup)
    (hfits : ∀ m ∈ ms, ∀ v ∈ m.2, Fits slots (m.1, v))
    (hbuild : ∀ row : Row, (∀ k, row.lookup k = (ms.lookup k).join) → build row = .ok a) :
    readRecord slots build (object (present ms)) = .ok a := by
  have hnames' := nodup_present hnames
  rw [readRecord_object hnames' fun m hm => hfits _ (mem_present.1 hm) m.2 rfl]
  refine hbuild _ fun k => ?_
  rw [lookup_reverse hnames', lookup_present hnames]

end MergeTurn.Json
