import Mathlib.Data.List.Perm.Basic
import MergeTurn.Proofs.Json.Records

set_option autoImplicit false

/-!
# Tagged records are read whatever the order of their members

A tagged record is of the shape that its tag names. The tag is looked for among all members before
any other is read, so the members may stand in any order, the tag among them.

## Main definitions

* `MergeTurn.Json.tags` — what a document gives for its tag.

## Main results

* `MergeTurn.Json.readRecord_perm` — the members of a record may be written in any order.
* `MergeTurn.Json.readTagged_perm` — so may those of a tagged record, and its tag among them.
* `MergeTurn.Json.tags_of_readTagged` — a record that is read has one tag, the name of its shape.

## Design

A record asks for its members by name only. Where the names are distinct, the order in which the
members were found is then of no account.
-/

namespace MergeTurn.Json

variable {α β : Type}

/-! ## Members in any order -/

/-- The value of a field is read from a member of its name if no other has that name. -/
lemma Row.get_of_mem {row : Row} {f : Field α} {v : Json} (hnames : (row.map (·.1)).Nodup)
    (h : (f.name, v) ∈ row) : row.get f = f.read v :=
  Row.get_of_lookup (lookup_of_mem hnames h)

/-- A record is built from its members, in whatever order they are written. -/
theorem readRecord_perm {slots : List Slot} {build : Row → Except Fault α} {a : α}
    {ms ms' : List (String × Json)} (hnames : (ms.map (·.1)).Nodup)
    (hfits : ∀ m ∈ ms, Fits slots m) (hperm : ms'.Perm ms)
    (hbuild : ∀ row, (row.map (·.1)).Nodup → (∀ m ∈ ms, m ∈ row) → build row = .ok a) :
    readRecord slots build (object ms') = .ok a := by
  have hnames' : (ms'.map (·.1)).Nodup := (hperm.map _).nodup_iff.2 hnames
  rw [readRecord_object hnames' fun m hm => hfits m (hperm.mem_iff.1 hm)]
  refine hbuild ms'.reverse ?_ fun m hm => List.mem_reverse.2 (hperm.mem_iff.2 hm)
  rw [List.map_reverse]
  exact List.nodup_reverse.2 hnames'

/-! ## Documents that can be held -/

/-- A number that 64 bits can count can be held. -/
lemma holdable_nat {n : Nat} (h : n < UInt64.size) (room : Nat) :
    (nat n).Holdable room = true := by
  have hbound : UInt64.size ≤ Numeral.doubleBound := by decide +kernel
  have hsmall : ¬ Numeral.doubleBound ≤ n := by omega
  simp only [nat, Holdable, Numeral.tooLarge, hsmall, decide_false, Bool.not_false]

/-- An object can be held if there is room for its members. -/
lemma holdable_object {ms : List (String × Json)} {room : Nat}
    (h : ∀ m ∈ ms, m.2.Holdable room = true) : (object ms).Holdable (room + 1) = true := by
  have hms : (Members.ofList ms).Holdable room = true := by
    induction ms with
    | nil => rfl
    | cons m ms ih => simp_all [Members.ofList, Members.Holdable]
  simp [object, Holdable, hms]

/-! ## The tag among the members -/

/-- Behind the tag the other members are held as they are. -/
lemma Members.splitTag_some {tag : String} {readTag : Json → Except Fault α} {a : α}
    {ms : List (String × Json)} (hne : ∀ m ∈ ms, m.1 ≠ tag)
    (hhold : ∀ m ∈ ms, m.2.Holdable holdingRoom = true) :
    (Members.ofList ms).splitTag tag readTag (some a) = .ok (a, Members.ofList ms) := by
  induction ms with
  | nil => rfl
  | cons m ms ih =>
    obtain ⟨hk, hne⟩ := List.forall_mem_cons.1 hne
    obtain ⟨hv, hhold⟩ := List.forall_mem_cons.1 hhold
    rw [Members.ofList, Members.splitTag, if_neg hk, if_pos hv, ih hne hhold]
    rfl

/-- The tag is found wherever it stands, and the other members are held as they are. -/
lemma Members.splitTag_append {tag : String} {readTag : Json → Except Fault α} {v : Json} {a : α}
    {before after : List (String × Json)} (hne : ∀ m ∈ before ++ after, m.1 ≠ tag)
    (hhold : ∀ m ∈ before ++ after, m.2.Holdable holdingRoom = true) (htag : readTag v = .ok a) :
    (Members.ofList (before ++ (tag, v) :: after)).splitTag tag readTag none =
      .ok (a, Members.ofList (before ++ after)) := by
  induction before with
  | nil =>
    rw [List.nil_append, Members.ofList, Members.splitTag, if_pos rfl, if_neg (by simp), htag]
    exact splitTag_some hne hhold
  | cons m before ih =>
    rw [List.cons_append, List.forall_mem_cons] at hne hhold
    rw [List.cons_append, Members.ofList, Members.splitTag, if_neg hne.1, if_pos hhold.1,
      ih hne.2 hhold.2]
    rfl

/-- A tagged record is read from its members, in whatever order they are written. The body is read
from the other members in the order in which they stand.

**Proof sketch.** The tag stands somewhere, with members before and behind it. Without it they are
the other members in some order. -/
theorem readTagged_perm {tag word : String} {shapes : List (String × α)}
    {readBody : α → Json → Except Fault β} {a : α} {b : β} {ms ms' : List (String × Json)}
    (hne : ∀ m ∈ ms, m.1 ≠ tag) (hhold : ∀ m ∈ ms, m.2.Holdable holdingRoom = true)
    (hshape : shapes.lookup word = some a) (hperm : ms'.Perm ((tag, text word) :: ms))
    (hbody : ∀ rest : List (String × Json), rest.Perm ms → readBody a (object rest) = .ok b) :
    readTagged tag shapes readBody (object ms') = .ok b := by
  obtain ⟨before, after, rfl⟩ := List.append_of_mem (hperm.mem_iff.2 List.mem_cons_self)
  have hrest : (before ++ after).Perm ms := (List.perm_middle.symm.trans hperm).cons_inv
  have htag : readName shapes (text word) = .ok a := by
    rw [text, readName, hshape]
  rw [object, readTagged, Members.splitTag_append (fun m hm => hne m (hrest.mem_iff.1 hm))
    (fun m hm => hhold m (hrest.mem_iff.1 hm)) htag]
  exact hbody _ hrest

/-! ## The tag of what was read -/

/-- The values of the members of a name. -/
def Members.named (name : String) : Members → List Json
  | .cons k v ms => if k = some name then v :: ms.named name else ms.named name
  | _ => []

/-- What a document gives for its tag: the members of that name, or the first element. -/
def tags (tag : String) : Json → List Json
  | .obj ms => ms.named tag
  | .arr (.cons v _) => [v]
  | _ => []

/-- Of two steps that succeed, the first does, and the second on what it gave. -/
lemma exists_of_bind {x : Except Fault α} {f : α → Except Fault β} {b : β}
    (h : x >>= f = .ok b) : ∃ a, x = .ok a ∧ f a = .ok b := by
  cases x with
  | error e => cases h
  | ok a => exact ⟨a, rfl, h⟩

/-- A record that is read is built from some row. -/
lemma exists_of_readRecord {slots : List Slot} {build : Row → Except Fault α} {v : Json} {a : α}
    (h : readRecord slots build v = .ok a) : ∃ row, build row = .ok a := by
  unfold readRecord at h
  split at h
  · exact (exists_of_bind h).imp fun _ hrow => hrow.2
  · exact (exists_of_bind h).imp fun _ hrow => hrow.2
  · cases h

/-- What is read as the name of a shape is a text, the name of that shape. -/
lemma readName_eq_ok {shapes : List (String × α)} {v : Json} {a : α}
    (h : readName shapes v = .ok a) : ∃ word, v = text word ∧ shapes.lookup word = some a := by
  unfold readName at h
  split at h
  · rename_i word
    refine ⟨word, rfl, ?_⟩
    split at h
    · rename_i ha
      cases h
      exact ha
    · cases h
  · cases h

/-- Members that are split off their tag hold none if one was found before, and otherwise exactly
one. -/
lemma Members.named_of_splitTag {tag : String} {readTag : Json → Except Fault α}
    {found : Option α} {ms rest : Members} {a : α}
    (h : ms.splitTag tag readTag found = .ok (a, rest)) :
    (found = some a ∧ ms.named tag = []) ∨
      (found = none ∧ ∃ v, ms.named tag = [v] ∧ readTag v = .ok a) := by
  fun_induction ms.splitTag tag readTag found generalizing rest a with
  | case1 b =>
    cases h
    exact .inl ⟨rfl, rfl⟩
  | case2 | case3 | case4 | case5 | case8 => cases h
  | case6 found v ms hfound ih =>
    -- The tag itself: from here on one has been found.
    obtain ⟨b, hb, h⟩ := exists_of_bind h
    obtain ⟨hab, hnamed⟩ | ⟨hab, -⟩ := ih b h
    · cases hab
      refine .inr ⟨by simpa using hfound, v, ?_, hb⟩
      rw [Members.named, if_pos rfl, hnamed]
    · cases hab
  | case7 found k v ms hk hhold ih =>
    obtain ⟨⟨b, rest'⟩, hsplit, h⟩ := exists_of_bind h
    cases h
    rw [Members.named, if_neg (by simpa using hk)]
    exact ih hsplit

/-- A tagged record that is read has one tag, the name of its shape. Its body is read in the shape
of that name.

**Proof sketch.** In an object nothing is found before the first member, so there is exactly one
tag. In an array the first element is read as the tag. -/
theorem tags_of_readTagged {tag : String} {shapes : List (String × α)}
    {readBody : α → Json → Except Fault β} {v : Json} {b : β}
    (h : readTagged tag shapes readBody v = .ok b) :
    ∃ word a body, v.tags tag = [text word] ∧ shapes.lookup word = some a ∧
      readBody a body = .ok b := by
  unfold readTagged at h
  split at h
  · obtain ⟨⟨a, rest⟩, hsplit, hbody⟩ := exists_of_bind h
    obtain ⟨hnone, -⟩ | ⟨-, v, hnamed, hv⟩ := Members.named_of_splitTag hsplit
    · cases hnone
    obtain ⟨word, rfl, hword⟩ := readName_eq_ok hv
    exact ⟨word, a, _, hnamed, hword, hbody⟩
  · obtain ⟨a, ha, hbody⟩ := exists_of_bind h
    obtain ⟨word, rfl, hword⟩ := readName_eq_ok ha
    split at hbody
    · exact ⟨word, a, _, rfl, hword, hbody⟩
    · cases hbody
  · cases h
  · cases h
  · cases h

end MergeTurn.Json
