import Mathlib.Data.List.Forall2
import Mathlib.Logic.Relation
import MergeTurn.Proofs.Json.Records

set_option autoImplicit false

/-!
# What a reader does not know makes no difference to it

A reader knows the names of some members, at each place of a document its own. Two documents that
differ only in the order of members, and in members of names that are not known where they stand,
are the same to it: it gets the same value from both, or refuses both.

## Main definitions

* `MergeTurn.Json.Outline` — the names that a reader knows, at every place of a document.
* `MergeTurn.Json.Edit` — a document with two members the other way round, or with one more.
* `MergeTurn.Json.Legible` — a name that is text.
* `MergeTurn.Json.Alike` — a document and what some edits and their undoing make of it.
* `MergeTurn.Json.Agree` — two results that are both refusals, or both values of a relation.
* `MergeTurn.Json.Respects` — a reader for which edits make no difference.

## Main results

* `MergeTurn.Json.Edit.whole_eq` — a document that is JSON to its end is still so after an edit.
* `MergeTurn.Json.Respects.record` — a record respects edits if its fields do.
* `MergeTurn.Json.Respects.eq_of_alike` — an answer that does not tell refusals apart is the same
  for documents that are alike.

## Design

Which of two faults comes first depends on the order of members, so of a refusal nothing is said but
that it is one. A reader of records finds its members in a row, and asks for them by name. So rows
are compared by what stands under each name.
-/

namespace MergeTurn.Json

variable {α β γ δ : Type}

/-! ## Outlines -/

/-- The names that a reader knows, at every place of a document. -/
inductive Outline where
  /-- No part of what stands here is known. -/
  | leaf
  /-- An array stands here, of elements that are all known in the same way. -/
  | list (each : Outline)
  /-- A record stands here, with members of these names. Written as an array, it has them as its
  elements. -/
  | record (members : List (String × Outline))

/-- What is known of the member of a name. -/
def Outline.member : Outline → Option String → Outline
  | .record ms, some k => (ms.lookup k).getD .leaf
  | _, _ => .leaf

/-- What is known of the element at a place. -/
def Outline.element : Outline → Nat → Outline
  | .leaf, _ => .leaf
  | .list each, _ => each
  | .record ms, i => (ms[i]?.map (·.2)).getD .leaf

/-- A record stands here, and it has no member of the given name. -/
def Outline.Ignores : Outline → Option String → Prop
  | .record ms, some k => ms.lookup k = none
  | .record _, none => True
  | _, _ => False

/-! ## Edits -/

mutual

/-- A document with two members of an object the other way round, or with one member more whose name
is not known where it stands. What is new must be JSON to its end and have a name that is `ok`. -/
inductive Edit (ok : Option String → Prop) : Outline → Json → Json → Prop where
  | arr {o : Outline} {es es' : Elements} (h : EditElements ok o 0 es es') :
      Edit ok o (.arr es) (.arr es')
  | obj {o : Outline} {ms ms' : Members} (h : EditMembers ok o ms ms') :
      Edit ok o (.obj ms) (.obj ms')

/-- Elements of which one, from a place on, is edited. -/
inductive EditElements (ok : Option String → Prop) :
    Outline → Nat → Elements → Elements → Prop where
  | here {o : Outline} {i : Nat} {v v' : Json} (h : Edit ok (o.element i) v v') (es : Elements) :
      EditElements ok o i (.cons v es) (.cons v' es)
  | later {o : Outline} {i : Nat} {es es' : Elements} (v : Json)
      (h : EditElements ok o (i + 1) es es') : EditElements ok o i (.cons v es) (.cons v es')

/-- Members of which two change places, one is new or one is edited. -/
inductive EditMembers (ok : Option String → Prop) : Outline → Members → Members → Prop where
  | swap (o : Outline) (k k' : Option String) (v v' : Json) (ms : Members) :
      EditMembers ok o (.cons k v (.cons k' v' ms)) (.cons k' v' (.cons k v ms))
  | insert {o : Outline} {k : Option String} {v : Json} (hk : o.Ignores k) (hok : ok k)
      (hv : v.Whole = true) (ms : Members) : EditMembers ok o ms (.cons k v ms)
  | here {o : Outline} {k : Option String} {v v' : Json} (h : Edit ok (o.member k) v v')
      (ms : Members) : EditMembers ok o (.cons k v ms) (.cons k v' ms)
  | later {o : Outline} {ms ms' : Members} (k : Option String) (v : Json)
      (h : EditMembers ok o ms ms') : EditMembers ok o (.cons k v ms) (.cons k v ms')

end

/-- A name that is text. A string with half of a pair of units that stands alone is none. -/
def Legible (k : Option String) : Prop :=
  k ≠ none

/-- A document and what some edits, and the undoing of some, make of it. -/
def Alike (ok : Option String → Prop) (o : Outline) : Json → Json → Prop :=
  Relation.EqvGen (Edit ok o)

variable {ok : Option String → Prop}

mutual

/-- An edit leaves a document JSON to its end. -/
theorem Edit.whole_eq {o : Outline} {v v' : Json} (h : Edit ok o v v') : v.Whole = v'.Whole := by
  match h with
  | .arr h => exact h.whole_eq
  | .obj h => exact h.whole_eq

/-- An edit leaves elements JSON to their end. -/
theorem EditElements.whole_eq {o : Outline} {i : Nat} {es es' : Elements}
    (h : EditElements ok o i es es') : es.Whole = es'.Whole := by
  match h with
  | .here h _ => rw [Elements.Whole, Elements.Whole, h.whole_eq]
  | .later _ h => rw [Elements.Whole, Elements.Whole, h.whole_eq]

/-- An edit leaves members JSON to their end. -/
theorem EditMembers.whole_eq {o : Outline} {ms ms' : Members}
    (h : EditMembers ok o ms ms') : ms.Whole = ms'.Whole := by
  match h with
  | .swap _ _ _ _ _ _ => simp only [Members.Whole, Bool.and_left_comm]
  | .insert _ _ hv _ => rw [Members.Whole, hv, Bool.true_and]
  | .here h _ => rw [Members.Whole, Members.Whole, h.whole_eq]
  | .later _ _ h => rw [Members.Whole, Members.Whole, h.whole_eq]

end

/-! ## Results that agree -/

/-- Two results are both refusals, or both values of a relation. -/
inductive Agree (r : α → β → Prop) : Except Fault α → Except Fault β → Prop where
  | error (e e' : Fault) : Agree r (.error e) (.error e')
  | ok {a : α} {b : β} (h : r a b) : Agree r (.ok a) (.ok b)

/-- A result agrees with itself if values are related to themselves. -/
lemma Agree.refl {r : α → α → Prop} (h : ∀ a, r a a) (x : Except Fault α) : Agree r x x := by
  cases x with
  | error e => exact .error e e
  | ok a => exact .ok (h a)

/-- What is done with results that agree agrees if it does so for the values of them. -/
lemma Agree.bind {r : α → β → Prop} {s : γ → δ → Prop} {x : Except Fault α} {y : Except Fault β}
    {f : α → Except Fault γ} {g : β → Except Fault δ} (h : Agree r x y)
    (hfg : ∀ a b, r a b → Agree s (f a) (g b)) : Agree s (x >>= f) (y >>= g) := by
  cases h with
  | error e e' => exact .error e e'
  | ok h => exact hfg _ _ h

/-- What is done with the same value agrees. -/
lemma Agree.bind_eq {s : γ → δ → Prop} {x y : Except Fault α} {f : α → Except Fault γ}
    {g : α → Except Fault δ} (h : Agree (· = ·) x y) (hfg : ∀ a, Agree s (f a) (g a)) :
    Agree s (x >>= f) (y >>= g) := by
  refine h.bind fun a b hab => ?_
  subst hab
  exact hfg a

/-- What is done next agrees if it does so for every value. -/
lemma Agree.next {s : γ → δ → Prop} {f : α → Except Fault γ} {g : α → Except Fault δ}
    (x : Except Fault α) (hfg : ∀ a, Agree s (f a) (g a)) : Agree s (x >>= f) (x >>= g) :=
  (Agree.refl (fun _ => rfl) x).bind_eq hfg

/-- Values of results that agree may be changed alike. -/
lemma Agree.map {r : α → β → Prop} {s : γ → δ → Prop} {x : Except Fault α} {y : Except Fault β}
    {f : α → γ} {g : β → δ} (h : Agree r x y) (hfg : ∀ a b, r a b → s (f a) (g b)) :
    Agree s (x.map f) (y.map g) := by
  cases h with
  | error e e' => exact .error e e'
  | ok h => exact .ok (hfg _ _ h)

/-! ## Readers that respect edits -/

variable {o : Outline}

/-- Edits make no difference to a reader. -/
def Respects (o : Outline) (read : Json → Except Fault α) : Prop :=
  ∀ v v', Edit Legible o v v' → Agree (· = ·) (read v) (read v')

/-- An answer that does not tell refusals apart is the same for documents that are alike. -/
theorem Respects.eq_of_alike {read : Json → Except Fault α} (h : Respects o read)
    (answer : Except Fault α → β) (hanswer : ∀ e e', answer (.error e) = answer (.error e'))
    {v v' : Json} (halike : Alike Legible o v v') : answer (read v) = answer (read v') := by
  induction halike with
  | rel v v' hedit =>
    have hread := h v v' hedit
    generalize read v = x, read v' = y at hread
    cases hread with
    | error e e' => exact hanswer e e'
    | ok h => rw [h]
  | refl v => rfl
  | symm v v' _ ih => exact ih.symm
  | trans v v' v'' _ _ ih ih' => exact ih.trans ih'

/-- A text is no object and no array. -/
lemma respects_readText (o : Outline) : Respects o readText := by
  rintro _ _ (_ | _) <;> exact .error _ _

/-- Neither is a number. -/
lemma respects_readNat (o : Outline) (bound : Nat) : Respects o (readNat bound) := by
  rintro _ _ (_ | _) <;> exact .error _ _

/-- Neither is a truth value. -/
lemma respects_readBool (o : Outline) : Respects o readBool := by
  rintro _ _ (_ | _) <;> exact .error _ _

/-- What is made of a value does not matter. -/
lemma Respects.map {read : Json → Except Fault α} (h : Respects o read) (f : α → β) :
    Respects o fun v => (read v).map f :=
  fun v v' hedit => (h v v' hedit).map fun _ _ heq => congrArg f heq

/-- A value may be missing. No edit makes it so. -/
lemma Respects.option {read : Json → Except Fault α} (h : Respects o read) :
    Respects o (readOption read) := by
  rintro v v' hedit
  have hread := h.map some v v' hedit
  cases hedit with
  | arr | obj => exact hread

/-- Elements are read alike if one of them is edited. -/
lemma EditElements.read {each : Outline} {read : Json → Except Fault α}
    (h : Respects each read) {i : Nat} {es es' : Elements}
    (hedit : EditElements Legible (.list each) i es es') :
    Agree (· = ·) (es.read read) (es'.read read) := by
  match hedit with
  | .here hv es => exact (h _ _ hv).bind_eq fun _ => .refl (fun _ => rfl) _
  | .later v hes => exact .next _ fun _ => (hes.read h).bind_eq fun _ => .ok rfl

/-- A list respects edits if its elements do. -/
lemma Respects.list {each : Outline} {read : Json → Except Fault α}
    (h : Respects each read) : Respects (.list each) (readList read) := by
  rintro v v' hedit
  cases hedit with
  | arr hes => exact hes.read h
  | obj => exact .error _ _

/-! ## Rows -/

/-- What stands under a name in a row may have been edited. -/
def Row.Alike (o : Outline) (row row' : Row) : Prop :=
  ∀ k, Option.Rel (Relation.ReflGen (Edit Legible (o.member (some k))))
    (row.lookup k) (row'.lookup k)

/-- A row is alike to itself. -/
lemma Row.Alike.refl (row : Row) : Row.Alike o row row := by
  intro k
  cases row.lookup k with
  | none => exact .none
  | some v => exact .some .refl

/-- Rows that are alike stay so with one member more, which may have been edited. -/
lemma Row.Alike.cons {row row' : Row} (h : Row.Alike o row row') {k : String} {v v' : Json}
    (hv : Relation.ReflGen (Edit Legible (o.member (some k))) v v') :
    Row.Alike o ((k, v) :: row) ((k, v') :: row') := by
  intro k'
  by_cases hk : k' = k
  · subst hk
    rw [List.lookup_cons_self, List.lookup_cons_self]
    exact .some hv
  · rw [lookup_cons_of_ne hk, lookup_cons_of_ne hk]
    exact h k'

/-- Members of different names may have been found in either order. -/
lemma Row.Alike.swap {row row' : Row} (h : Row.Alike o row row') {k k' : String}
    (hne : k ≠ k') (v v' : Json) :
    Row.Alike o ((k, v) :: (k', v') :: row) ((k', v') :: (k, v) :: row') := by
  intro name
  rw [lookup_swap hne]
  exact ((h.cons .refl).cons .refl) name

/-- The same names are found in rows that are alike. -/
lemma Row.Alike.isSome_eq {row row' : Row} (h : Row.Alike o row row') (k : String) :
    (row.lookup k).isSome = (row'.lookup k).isSome := by
  have hk := h k
  generalize row.lookup k = x, row'.lookup k = y at hk
  cases hk <;> rfl

/-- A field that respects edits has the same value in rows that are alike. -/
lemma Row.Alike.get {row row' : Row} (h : Row.Alike o row row') {f : Field α} {m : Outline}
    (hf : Respects m f.read) (hm : o.member (some f.name) = m) :
    Agree (· = ·) (row.get f) (row'.get f) := by
  subst hm
  have hk := h f.name
  rw [Row.get, Row.get]
  generalize row.lookup f.name = x, row'.lookup f.name = y at hk
  cases hk with
  | none => exact .refl (fun _ => rfl) _
  | some hv =>
    cases hv with
    | refl => exact .refl (fun _ => rfl) _
    | single hedit => exact hf _ _ hedit

/-! ## Records -/

/-- A slot is for a member of an outline and respects edits of it. -/
def Slot.IsFor (s : Slot) (m : String × Outline) : Prop :=
  s.name = m.1 ∧ Respects m.2 s.check

/-- A field is for a member if it has its name and respects edits. -/
lemma Field.isFor {f : Field α} {m : Outline} (h : Respects m f.read) :
    f.slot.IsFor (f.name, m) :=
  ⟨rfl, h.map fun _ => ()⟩

variable {slots : List Slot} {ms : List (String × Outline)}

/-- The slot of a name is for the member of that name. -/
lemma slot?_rel (hslots : List.Forall₂ Slot.IsFor slots ms) (k : String) :
    Option.Rel (fun s m => Respects m s.check) (slot? slots k) (ms.lookup k) := by
  induction hslots with
  | nil => exact .none
  | @cons s m slots ms hs _ ih =>
    obtain ⟨name, m⟩ := m
    obtain ⟨rfl : s.name = name, hs⟩ := hs
    by_cases hk : k = s.name
    · subst hk
      rw [List.lookup_cons_self, slot?, List.find?_cons_of_pos (by simp)]
      exact .some hs
    · rw [lookup_cons_of_ne hk, slot?, List.find?_cons_of_neg (by simpa using Ne.symm hk)]
      exact ih

/-- What was found of an object, with one member more. -/
def Row.gain (slots : List Slot) (found : Row) (key : Option String) (v : Json) :
    Except Fault Row :=
  match key with
  | none => .error .notJson
  | some k =>
    match slot? slots k with
    | none => if v.Whole then .ok found else .error .notJson
    | some s =>
      if (found.lookup k).isSome then .error .wrongShape
      else do
        s.check v
        return (k, v) :: found

/-- Members are found one after the other. -/
lemma Members.row_cons (found : Row) (key : Option String) (v : Json) (ms : Members) :
    (Members.cons key v ms).row slots found = found.gain slots key v >>= ms.row slots := by
  cases key with
  | none => rfl
  | some k =>
    rw [Members.row, Row.gain]
    cases slot? slots k with
    | none =>
      dsimp only
      split_ifs <;> rfl
    | some s =>
      dsimp only
      split_ifs
      · rfl
      · cases s.check v <;> rfl

/-- With a member more, which may have been edited, rows that are alike stay so. -/
lemma Row.Alike.gain (hslots : List.Forall₂ Slot.IsFor slots ms) {row row' : Row}
    (h : Row.Alike (.record ms) row row') (key : Option String) {v v' : Json}
    (hv : Relation.ReflGen (Edit Legible (Outline.member (.record ms) key)) v v') :
    Agree (Row.Alike (.record ms)) (row.gain slots key v) (row'.gain slots key v') := by
  cases key with
  | none => exact .error _ _
  | some k =>
    have hslot := slot?_rel hslots k
    have hfound := h k
    have hcons := h.cons hv
    rw [Outline.member] at hv
    rw [Row.gain, Row.gain]
    generalize slot? slots k = x, ms.lookup k = y at hslot hv
    generalize row.lookup k = a, row'.lookup k = b at hfound
    cases hslot with
    | none =>
      have hwhole : v.Whole = v'.Whole := by
        cases hv with
        | refl => rfl
        | single hedit => exact hedit.whole_eq
      dsimp only
      rw [hwhole]
      split_ifs
      · exact .ok h
      · exact .error _ _
    | @some s m hs =>
      have hcheck : Agree (· = ·) (s.check v) (s.check v') := by
        cases hv with
        | refl => exact .refl (fun _ => rfl) _
        | single hedit => exact hs _ _ hedit
      cases hfound with
      | some => exact .error _ _
      | none => exact hcheck.bind fun _ _ _ => .ok hcons

/-- What was found of an object, with one member more that must be the first of its name. -/
def Row.take (found : Row) (k : String) (v : Json) : Except Fault Row :=
  if (found.lookup k).isSome then .error .wrongShape else .ok ((k, v) :: found)

/-- The second of two members of one name is refused. -/
lemma Row.exists_error_of_take (row : Row) (k : String) (v v' : Json) :
    ∃ e, (row.take k v >>= fun row => row.take k v') = .error e := by
  rw [Row.take]
  split_ifs
  · exact ⟨_, rfl⟩
  · exact ⟨.wrongShape, if_pos (by simp)⟩

/-- Two members of different names are taken if neither name was found before. -/
lemma Row.take_take {k k' : String} (hne : k ≠ k') (row : Row) (v v' : Json) :
    (row.take k v >>= fun row => row.take k' v') =
      if (row.lookup k).isSome || (row.lookup k').isSome then .error .wrongShape
      else .ok ((k', v') :: (k, v) :: row) := by
  have hlookup : ((k, v) :: row).lookup k' = row.lookup k' := lookup_cons_of_ne hne.symm v row
  rw [Row.take]
  cases (row.lookup k).isSome with
  | true => rfl
  | false =>
    change Row.take ((k, v) :: row) k' v' = _
    rw [Row.take, hlookup]
    rfl

/-- A member is refused, passed over or taken, whatever was found before. -/
lemma Row.gain_cases (slots : List Slot) (key : Option String) (v : Json) :
    (∀ found : Row, ∃ e, found.gain slots key v = .error e) ∨
      (∀ found : Row, found.gain slots key v = .ok found) ∨
      ∃ k, ∀ found : Row, found.gain slots key v = found.take k v := by
  cases key with
  | none => exact .inl fun _ => ⟨_, rfl⟩
  | some k =>
    simp only [Row.gain]
    cases slot? slots k with
    | none =>
      cases v.Whole with
      | true => exact .inr (.inl fun _ => rfl)
      | false => exact .inl fun _ => ⟨_, rfl⟩
    | some s =>
      cases hcheck : s.check v with
      | ok u => exact .inr (.inr ⟨k, fun _ => by dsimp only; rw [hcheck]; rfl⟩)
      | error e =>
        refine .inl fun found => ?_
        dsimp only
        split_ifs
        · exact ⟨_, rfl⟩
        · exact ⟨e, by rw [hcheck]; rfl⟩

/-- What always ends in a refusal is one. -/
lemma exists_error_of_bind {f : α → Except Fault β} (h : ∀ a, ∃ e, f a = .error e)
    (x : Except Fault α) : ∃ e, x >>= f = .error e := by
  cases x with
  | error e => exact ⟨e, rfl⟩
  | ok a => exact h a

/-- Two members may be found in either order.

**Proof sketch.** If one of them is refused, there is no row in either order, and if one is passed
over, only the other matters. Two that are both taken must have different names, and then stand in
the row in either order. -/
lemma Row.Alike.gain_comm (hslots : List.Forall₂ Slot.IsFor slots ms) {row row' : Row}
    (h : Row.Alike (.record ms) row row') (k k' : Option String) (v v' : Json) :
    Agree (Row.Alike (.record ms))
      (row.gain slots k v >>= fun row => row.gain slots k' v')
      (row'.gain slots k' v' >>= fun row => row.gain slots k v) := by
  obtain hk | hk | ⟨n, hk⟩ := gain_cases slots k v
  · obtain ⟨e, he⟩ := hk row
    obtain ⟨e', he'⟩ := exists_error_of_bind hk (row'.gain slots k' v')
    rw [he, he']
    exact .error _ _
  · simp only [hk]
    refine cast ?_ (h.gain hslots k' (v := v') .refl)
    congr 1
    cases row'.gain slots k' v' <;> rfl
  · obtain hk' | hk' | ⟨n', hk'⟩ := gain_cases slots k' v'
    · obtain ⟨e, he⟩ := hk' row'
      obtain ⟨e', he'⟩ := exists_error_of_bind hk' (row.gain slots k v)
      rw [he, he']
      exact .error _ _
    · simp only [hk']
      refine cast ?_ (h.gain hslots k (v := v) .refl)
      congr 1
      cases row.gain slots k v <;> rfl
    · simp only [hk, hk']
      by_cases hne : n = n'
      · subst hne
        obtain ⟨e, he⟩ := row.exists_error_of_take n v v'
        obtain ⟨e', he'⟩ := row'.exists_error_of_take n v' v
        rw [he, he']
        exact .error _ _
      · rw [take_take hne, take_take (Ne.symm hne), h.isSome_eq n, h.isSome_eq n', Bool.or_comm]
        split_ifs
        · exact .error _ _
        · exact .ok (h.swap (Ne.symm hne) v' v)

/-- The same members are found behind rows that are alike. -/
lemma Row.Alike.row (hslots : List.Forall₂ Slot.IsFor slots ms) (xs : Members)
    {row row' : Row} (h : Row.Alike (.record ms) row row') :
    Agree (Row.Alike (.record ms)) (xs.row slots row) (xs.row slots row') := by
  match xs with
  | .nil => exact .ok h
  | .cut => exact .error _ _
  | .cons k v xs =>
    rw [Members.row_cons, Members.row_cons]
    exact (h.gain hslots k .refl).bind fun _ _ h => h.row hslots xs

/-- Edited members are found alike. -/
lemma EditMembers.row (hslots : List.Forall₂ Slot.IsFor slots ms) {xs ys : Members}
    (hedit : EditMembers Legible (.record ms) xs ys) {row row' : Row}
    (h : Row.Alike (.record ms) row row') :
    Agree (Row.Alike (.record ms)) (xs.row slots row) (ys.row slots row') := by
  match hedit with
  | .swap _ k k' v v' xs =>
    simp only [Members.row_cons, ← bind_assoc]
    exact (h.gain_comm hslots k k' v v').bind fun _ _ h => h.row hslots xs
  | .insert (k := k) (v := v) hk hname hv xs =>
    -- The name that is new has to be read, but there is no slot for it.
    obtain ⟨k, rfl⟩ := Option.ne_none_iff_exists'.1 hname
    have hgain : row'.gain slots (some k) v = .ok row' := by
      have hslot := slot?_rel hslots k
      rw [Outline.Ignores] at hk
      rw [hk] at hslot
      rw [Row.gain]
      generalize slot? slots k = x at hslot
      cases hslot
      exact if_pos hv
    rw [Members.row_cons, hgain]
    exact h.row hslots xs
  | .here (k := k) hv xs =>
    rw [Members.row_cons, Members.row_cons]
    exact (h.gain hslots k (.single hv)).bind fun _ _ h => h.row hslots xs
  | .later k v hxs =>
    rw [Members.row_cons, Members.row_cons]
    exact (h.gain hslots k .refl).bind fun _ _ h => hxs.row hslots h

/-! ## Records that are written as arrays -/

/-- The element at a place is known in the way of the member that it stands for. -/
lemma member_of_getElem? (hnames : (ms.map (·.1)).Nodup) {i : Nat} {k : String} {m : Outline}
    (h : ms[i]? = some (k, m)) :
    Outline.member (.record ms) (some k) = m ∧ Outline.element (.record ms) i = m := by
  constructor
  · rw [Outline.member, lookup_of_mem hnames (List.mem_of_getElem? h), Option.getD_some]
  · rw [Outline.element, h]
    rfl

/-- Edited elements are found alike.

**Proof sketch.** By induction on the slots, which are those of the members from the place on that the
edited elements begin at. -/
lemma EditElements.row (hnames : (ms.map (·.1)).Nodup) {i : Nat}
    (hslots : List.Forall₂ Slot.IsFor slots (ms.drop i)) {es es' : Elements}
    (hedit : EditElements Legible (.record ms) i es es') :
    Agree (Row.Alike (.record ms)) (es.row slots) (es'.row slots) := by
  generalize hrest : ms.drop i = rest at hslots
  induction hslots generalizing i es es' with
  | nil => cases hedit <;> exact .error _ _
  | @cons s m slots rest hs _ ih =>
    obtain ⟨k, m⟩ := m
    obtain ⟨rfl : s.name = k, hs⟩ := hs
    have hget : ms[i]? = some (s.name, m) := by
      rw [← List.head?_drop, hrest, List.head?_cons]
    have htail : ms.drop (i + 1) = rest := by
      rw [← List.tail_drop, hrest, List.tail_cons]
    obtain ⟨hmember, helement⟩ := member_of_getElem? hnames hget
    cases hedit with
    | @here _ _ v v' hv es =>
      rw [helement] at hv
      refine (hs _ _ hv).bind fun _ _ _ => .next _ fun row => .ok ?_
      exact (Row.Alike.refl row).cons (hmember ▸ .single hv)
    | @later _ _ es es' v hes =>
      exact .next _ fun _ => (ih hes htail).bind fun row row' h => .ok (h.cons .refl)

/-- A record respects edits if its fields do, and what is built from them asks for fields only.

**Proof sketch.** Whether it is written as an object or as an array, an edit leaves the row of what is
found alike: the members of a name are the same, but for an edit of one of them. -/
theorem Respects.record {build : Row → Except Fault α} (hnames : (ms.map (·.1)).Nodup)
    (hslots : List.Forall₂ Slot.IsFor slots ms)
    (hbuild : ∀ row row', Row.Alike (.record ms) row row' →
      Agree (· = ·) (build row) (build row')) :
    Respects (.record ms) (readRecord slots build) := by
  intro v v' hedit
  cases hedit with
  | arr hes => exact (hes.row hnames (by simpa using hslots)).bind hbuild
  | obj hms => exact (hms.row hslots (.refl [])).bind hbuild

end MergeTurn.Json
