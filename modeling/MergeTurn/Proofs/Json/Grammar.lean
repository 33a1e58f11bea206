import MergeTurn.Proofs.Json.Numbers

set_option autoImplicit false

/-!
# What is read of a document that is written by the grammar

The grammar leaves it open where blanks stand, and how characters and numbers are written. A document
that is written by it is read as itself, however that is done and whatever follows, as long as it does
not go on with a number.

## Main definitions

* `MergeTurn.Json.Writes` — a text is a written form of a document, with any blanks inside.
* `MergeTurn.Json.IsText` — a text holds a written form of a document and blanks, nothing else.

## Main results

* `MergeTurn.Json.readValue_of_writes` — a written form of a document is read as the document.
* `MergeTurn.Json.ofBytes_of_writes` — so is a text that holds nothing else.

## Design

The grammar is a relation between texts and documents, one rule a constructor. Induction on it
follows the calls of the reader, and the fuel of each call is measured by the text it has left.
-/

namespace MergeTurn.Json

/-- A text of blanks. -/
def Blank (ws : List UInt8) : Prop :=
  ∀ b ∈ ws, isSpace b = true

mutual

/-- A text is a written form of a document. -/
inductive Writes : List UInt8 → Json → Prop
  | null : Writes (charBytes nullChars) .null
  | bool (b : Bool) : Writes (charBytes (boolChars b)) (.bool b)
  | num {bs : List UInt8} {n : Numeral} (h : WritesNumber bs n) : Writes bs (.num n)
  | str {bs : List UInt8} {s : Option (List Char)} (h : WritesChars bs s) :
    Writes (0x22 :: bs) (.str (s.map String.ofList))
  | noElements {ws : List UInt8} (h : Blank ws) : Writes (0x5b :: (ws ++ [0x5d])) (.arr .nil)
  | elements {bs : List UInt8} {es : Elements} (h : WritesElements bs es) :
    Writes (0x5b :: bs) (.arr es)
  | noMembers {ws : List UInt8} (h : Blank ws) : Writes (0x7b :: (ws ++ [0x7d])) (.obj .nil)
  | members {bs : List UInt8} {ms : Members} (h : WritesMembers bs ms) :
    Writes (0x7b :: bs) (.obj ms)

/-- A text is a written form of elements, with the closing bracket. -/
inductive WritesElements : List UInt8 → Elements → Prop
  | last {ws bs ws' : List UInt8} {v : Json} (hw : Blank ws) (hv : Writes bs v) (hw' : Blank ws') :
    WritesElements (ws ++ (bs ++ (ws' ++ [0x5d]))) (.cons v .nil)
  | cons {ws bs ws' cs : List UInt8} {v : Json} {es : Elements} (hw : Blank ws) (hv : Writes bs v)
    (hw' : Blank ws') (hes : WritesElements cs es) :
    WritesElements (ws ++ (bs ++ (ws' ++ 0x2c :: cs))) (.cons v es)

/-- A text is a written form of members, with the closing brace. -/
inductive WritesMembers : List UInt8 → Members → Prop
  | last {ws ks ws₁ ws₂ bs ws' : List UInt8} {k : Option (List Char)} {v : Json} (hw : Blank ws)
    (hk : WritesChars ks k) (hw₁ : Blank ws₁) (hw₂ : Blank ws₂) (hv : Writes bs v)
    (hw' : Blank ws') :
    WritesMembers (ws ++ 0x22 :: (ks ++ (ws₁ ++ 0x3a :: (ws₂ ++ (bs ++ (ws' ++ [0x7d]))))))
      (.cons (k.map String.ofList) v .nil)
  | cons {ws ks ws₁ ws₂ bs ws' cs : List UInt8} {k : Option (List Char)} {v : Json} {ms : Members}
    (hw : Blank ws) (hk : WritesChars ks k) (hw₁ : Blank ws₁) (hw₂ : Blank ws₂) (hv : Writes bs v)
    (hw' : Blank ws') (hms : WritesMembers cs ms) :
    WritesMembers (ws ++ 0x22 :: (ks ++ (ws₁ ++ 0x3a :: (ws₂ ++ (bs ++ (ws' ++ 0x2c :: cs))))))
      (.cons (k.map String.ofList) v ms)

end

/-- A text holds a written form of a document, with any blanks around it. -/
def IsText (bs : List UInt8) (v : Json) : Prop :=
  ∃ ws cs ws', Blank ws ∧ Writes cs v ∧ Blank ws' ∧ bs = ws ++ (cs ++ ws')

/-! ## Blanks -/

/-- Blanks before a text are passed over. -/
lemma skipSpace_append {ws : List UInt8} (h : Blank ws) (r : List UInt8) :
    skipSpace (ws ++ r) = skipSpace r :=
  List.dropWhile_append_of_pos h

/-- A text that begins with something else than a blank has no blanks to pass over. -/
lemma skipSpace_cons {b : UInt8} (h : isSpace b = false) (r : List UInt8) :
    skipSpace (b :: r) = b :: r :=
  List.dropWhile_cons_of_neg (by simp [h])

/-- Blanks are passed over at once. -/
@[simp] lemma skipSpace_skipSpace (r : List UInt8) : skipSpace (skipSpace r) = skipSpace r := by
  induction r with
  | nil => rfl
  | cons b r ih =>
    cases hb : isSpace b with
    | true =>
      have hskip : skipSpace (b :: r) = skipSpace r := List.dropWhile_cons_of_pos hb
      rw [hskip, ih]
    | false => rw [skipSpace_cons hb, skipSpace_cons hb]

/-- Blanks do not go on with a number, nor does what does not begin with more of one. -/
lemma Blank.stops {ws : List UInt8} (h : Blank ws) {r : List UInt8} (hr : Stops r) :
    Stops (ws ++ r) := by
  cases ws with
  | nil => exact hr
  | cons b ws =>
    have hb := h b List.mem_cons_self
    simp only [isSpace, Bool.or_eq_true, beq_iff_eq] at hb
    rw [List.cons_append, stops_cons]
    rcases hb with ((rfl | rfl) | rfl) | rfl <;> decide

/-- A written document begins with something else than a blank or a closing bracket. -/
lemma Writes.exists_cons {bs : List UInt8} {v : Json} (h : Writes bs v) :
    ∃ b t, bs = b :: t ∧ isSpace b = false ∧ b ≠ 0x5d := by
  cases h with
  | null => exact ⟨0x6e, [0x75, 0x6c, 0x6c], by decide, by decide, by decide⟩
  | bool b =>
    cases b
    · exact ⟨0x66, [0x61, 0x6c, 0x73, 0x65], by decide, by decide, by decide⟩
    · exact ⟨0x74, [0x72, 0x75, 0x65], by decide, by decide, by decide⟩
  | num h =>
    obtain ⟨d, ds, hbytes, hd⟩ := h.exists_cons
    refine ⟨d, ds, hbytes, ?_, ?_⟩
    · rw [Bool.eq_false_iff]
      intro hs
      simp only [isSpace, Bool.or_eq_true, beq_iff_eq] at hs
      rcases hs with ((rfl | rfl) | rfl) | rfl <;> exact absurd hd (by decide)
    · rintro rfl
      exact absurd hd (by decide)
  | str => exact ⟨0x22, _, rfl, by decide, by decide⟩
  | noElements | elements => exact ⟨0x5b, _, rfl, by decide, by decide⟩
  | noMembers | members => exact ⟨0x7b, _, rfl, by decide, by decide⟩

/-! ## Reading by the first byte -/

/-- A number is read from its first digit or its sign on. -/
lemma readValue_number {fuel : Nat} {bs r r' : List UInt8} {b : UInt8} {n : Numeral}
    (hbs : skipSpace bs = b :: r) (hb : isDigit b = true ∨ b = 0x2d)
    (hn : lexNumber (b :: r) = some (n, r')) : readValue (fuel + 1) bs = (.num n, r') := by
  rw [readValue.eq_def]
  dsimp only
  rw [hbs]
  split
  case h_7 => rw [hn]
  -- No other kind of document begins with a digit or a sign.
  all_goals
    next heq =>
      injection heq with hhead
      subst hhead
      exact absurd hb (by decide)

/-- A string is read behind its opening quote. -/
lemma readValue_quote {fuel : Nat} {bs r r' : List UInt8} {s : Option String}
    (hbs : skipSpace bs = 0x22 :: r) (hs : readString r = some (s, r')) :
    readValue (fuel + 1) bs = (.str s, r') := by
  simp [readValue, hbs, hs]

/-- A value is read behind the blanks before it. -/
lemma readValue_skipSpace (fuel : Nat) (bs : List UInt8) :
    readValue fuel (skipSpace bs) = readValue fuel bs := by
  cases fuel with
  | zero => rfl
  | succ fuel => rw [readValue, readValue, skipSpace_skipSpace]

/-- Blanks before a value do not count. -/
lemma readValue_blank {ws : List UInt8} (h : Blank ws) (fuel : Nat) (bs : List UInt8) :
    readValue fuel (ws ++ bs) = readValue fuel bs := by
  rw [← readValue_skipSpace, skipSpace_append h, readValue_skipSpace]

/-- Elements are read behind the blanks before them. -/
lemma readElements_skipSpace (fuel : Nat) (bs : List UInt8) :
    readElements fuel (skipSpace bs) = readElements fuel bs := by
  cases fuel with
  | zero => rfl
  | succ fuel => rw [readElements, readElements, readValue_skipSpace]

/-- Members are read behind the blanks before them. -/
lemma readMembers_skipSpace (fuel : Nat) (bs : List UInt8) :
    readMembers fuel (skipSpace bs) = readMembers fuel bs := by
  cases fuel with
  | zero => rfl
  | succ fuel => rw [readMembers, readMembers, skipSpace_skipSpace]

/-- An array with elements is read behind its opening bracket. -/
lemma readValue_bracket {fuel : Nat} {bs r : List UInt8} (hbs : skipSpace bs = 0x5b :: r)
    (hr : ∀ t, skipSpace r ≠ 0x5d :: t) :
    readValue (fuel + 1) bs =
      (.arr (readElements fuel r).1, (readElements fuel r).2) := by
  rw [← readElements_skipSpace]
  simp [readValue, hbs]

/-- An object with members is read behind its opening brace. -/
lemma readValue_brace {fuel : Nat} {bs r : List UInt8} (hbs : skipSpace bs = 0x7b :: r)
    (hr : ∀ t, skipSpace r ≠ 0x7d :: t) :
    readValue (fuel + 1) bs =
      (.obj (readMembers fuel r).1, (readMembers fuel r).2) := by
  rw [← readMembers_skipSpace]
  simp [readValue, hbs]

/-- A value before a comma is followed by more elements. -/
lemma readElements_comma {fuel : Nat} {bs r t : List UInt8} {v : Json}
    (hv : readValue fuel bs = (v, r)) (hr : skipSpace r = 0x2c :: t) :
    readElements (fuel + 1) bs = (.cons v (readElements fuel t).1, (readElements fuel t).2) := by
  simp [readElements, hv, hr]

/-- A value before a closing bracket is the last. -/
lemma readElements_bracket {fuel : Nat} {bs r t : List UInt8} {v : Json}
    (hv : readValue fuel bs = (v, r)) (hr : skipSpace r = 0x5d :: t) :
    readElements (fuel + 1) bs = (.cons v .nil, t) := by
  simp [readElements, hv, hr]

/-- A member before a comma is followed by more members. -/
lemma readMembers_comma {fuel : Nat} {bs r r₁ r₂ r₃ t : List UInt8} {k : Option String} {v : Json}
    (hbs : skipSpace bs = 0x22 :: r) (hk : readString r = some (k, r₁))
    (hcolon : skipSpace r₁ = 0x3a :: r₂) (hv : readValue fuel r₂ = (v, r₃))
    (hr : skipSpace r₃ = 0x2c :: t) :
    readMembers (fuel + 1) bs = (.cons k v (readMembers fuel t).1, (readMembers fuel t).2) := by
  simp [readMembers, hbs, hk, hcolon, hv, hr]

/-- A member before a closing brace is the last. -/
lemma readMembers_brace {fuel : Nat} {bs r r₁ r₂ r₃ t : List UInt8} {k : Option String} {v : Json}
    (hbs : skipSpace bs = 0x22 :: r) (hk : readString r = some (k, r₁))
    (hcolon : skipSpace r₁ = 0x3a :: r₂) (hv : readValue fuel r₂ = (v, r₃))
    (hr : skipSpace r₃ = 0x7d :: t) :
    readMembers (fuel + 1) bs = (.cons k v .nil, t) := by
  simp [readMembers, hbs, hk, hcolon, hv, hr]

/-! ## Reading what is written -/

/-- Written elements begin with something else than a closing bracket. -/
lemma WritesElements.skipSpace_ne {bs : List UInt8} {es : Elements} (h : WritesElements bs es)
    (r t : List UInt8) : skipSpace (bs ++ r) ≠ 0x5d :: t := by
  have hne : ∀ {ws bs : List UInt8} {v : Json} (r : List UInt8), Blank ws → Writes bs v →
      skipSpace (ws ++ (bs ++ r)) ≠ 0x5d :: t := by
    intro ws bs v r hw hv heq
    obtain ⟨b, bs', rfl, hb, hclose⟩ := hv.exists_cons
    rw [skipSpace_append hw, List.cons_append, skipSpace_cons hb] at heq
    injection heq with hhead
    exact hclose hhead
  cases h with
  | last hw hv _ => simpa only [List.append_assoc] using hne _ hw hv
  | cons hw hv _ _ => simpa only [List.append_assoc] using hne _ hw hv

/-- Written members begin with the quote of a name. -/
lemma WritesMembers.exists_skipSpace {bs : List UInt8} {ms : Members} (h : WritesMembers bs ms)
    (r : List UInt8) : ∃ t, skipSpace (bs ++ r) = 0x22 :: t := by
  cases h with
  | last hw | cons hw =>
    rw [List.append_assoc, skipSpace_append hw]
    exact ⟨_, rfl⟩

mutual

/-- A written form of a document is read as the document, whatever follows that does not go on
with a number.

**Proof sketch.** By induction on the rules of the grammar. Of what a written document consists, no
part is longer than what is left of it behind its first byte, which pays for the call. -/
theorem readValue_of_writes {bs : List UInt8} {v : Json} (h : Writes bs v) {fuel : Nat}
    (hfuel : 2 * bs.length ≤ fuel) {r : List UInt8} (hr : Stops r) :
    readValue fuel (bs ++ r) = (v, r) := by
  obtain ⟨b, t, hbs, hb, -⟩ := h.exists_cons
  obtain ⟨fuel, rfl⟩ : ∃ f, fuel = f + 1 := ⟨fuel - 1, by subst hbs; simp at hfuel; omega⟩
  have hskip : skipSpace (bs ++ r) = bs ++ r := by rw [hbs]; exact skipSpace_cons hb _
  match h with
  | .null =>
    rw [readValue, hskip]
    rfl
  | .bool b =>
    rw [readValue, hskip]
    cases b <;> rfl
  | .num hn =>
    obtain ⟨d, ds, hbytes, hd⟩ := hn.exists_cons
    have hnum := lexNumber_of_writes hn hr
    rw [hbytes, List.cons_append] at hskip hnum ⊢
    exact readValue_number hskip hd hnum
  | .str hs =>
    rw [List.cons_append] at hskip ⊢
    exact readValue_quote hskip (readString_of_writes hs r)
  | .noElements hw =>
    have hclose : isSpace 0x5d = false := by decide
    simp only [List.cons_append, List.append_assoc, List.nil_append] at hskip ⊢
    simp [readValue, hskip, skipSpace_append hw, skipSpace_cons hclose]
  | .elements hes =>
    rw [List.cons_append] at hskip ⊢
    rw [readValue_bracket hskip (hes.skipSpace_ne r),
      readElements_of_writes hes (by simp at hfuel; omega)]
  | .noMembers hw =>
    have hclose : isSpace 0x7d = false := by decide
    simp only [List.cons_append, List.append_assoc, List.nil_append] at hskip ⊢
    simp [readValue, hskip, skipSpace_append hw, skipSpace_cons hclose]
  | .members hms =>
    obtain ⟨u, hu⟩ := hms.exists_skipSpace r
    rw [List.cons_append] at hskip ⊢
    rw [readValue_brace hskip (fun u' heq => by rw [hu] at heq; cases heq),
      readMembers_of_writes hms (by simp at hfuel; omega)]

/-- Written elements are read as the elements. -/
theorem readElements_of_writes {bs : List UInt8} {es : Elements} (h : WritesElements bs es)
    {fuel : Nat} (hfuel : 2 * bs.length + 1 ≤ fuel) (r : List UInt8) :
    readElements fuel (bs ++ r) = (es, r) := by
  obtain ⟨fuel, rfl⟩ : ∃ f, fuel = f + 1 := ⟨fuel - 1, by omega⟩
  match h with
  | .last hw hv hw' =>
    have hvalue : readValue fuel _ = _ := readValue_of_writes hv (by simp at hfuel; omega)
      (hw'.stops ((stops_cons 0x5d r).2 (by decide)))
    rw [← readValue_blank hw] at hvalue
    simp only [List.append_assoc, List.singleton_append]
    exact readElements_bracket hvalue (skipSpace_append hw' _)
  | @WritesElements.cons _ _ _ cs _ _ hw hv hw' hes =>
    have hvalue : readValue fuel _ = _ := readValue_of_writes hv (by simp at hfuel; omega)
      (hw'.stops ((stops_cons 0x2c (cs ++ r)).2 (by decide)))
    rw [← readValue_blank hw] at hvalue
    simp only [List.append_assoc, List.cons_append]
    rw [readElements_comma hvalue (skipSpace_append hw' _),
      readElements_of_writes hes (by simp at hfuel; omega)]

/-- Written members are read as the members. -/
theorem readMembers_of_writes {bs : List UInt8} {ms : Members} (h : WritesMembers bs ms)
    {fuel : Nat} (hfuel : 2 * bs.length + 1 ≤ fuel) (r : List UInt8) :
    readMembers fuel (bs ++ r) = (ms, r) := by
  obtain ⟨fuel, rfl⟩ : ∃ f, fuel = f + 1 := ⟨fuel - 1, by omega⟩
  match h with
  | .last hw hk hw₁ hw₂ hv hw' =>
    have hvalue : readValue fuel _ = _ := readValue_of_writes hv (by simp at hfuel; omega)
      (hw'.stops ((stops_cons 0x7d r).2 (by decide)))
    rw [← readValue_blank hw₂] at hvalue
    simp only [List.append_assoc, List.cons_append, List.nil_append]
    exact readMembers_brace (skipSpace_append hw _) (readString_of_writes hk _)
      (skipSpace_append hw₁ _) hvalue (skipSpace_append hw' _)
  | @WritesMembers.cons _ _ _ _ _ _ cs _ _ _ hw hk hw₁ hw₂ hv hw' hms =>
    have hvalue : readValue fuel _ = _ := readValue_of_writes hv (by simp at hfuel; omega)
      (hw'.stops ((stops_cons 0x2c (cs ++ r)).2 (by decide)))
    rw [← readValue_blank hw₂] at hvalue
    simp only [List.append_assoc, List.cons_append]
    rw [readMembers_comma (skipSpace_append hw _) (readString_of_writes hk _)
      (skipSpace_append hw₁ _) hvalue (skipSpace_append hw' _),
      readMembers_of_writes hms (by simp at hfuel; omega)]

end

/-- A text that holds a written document and blanks is read as the document. -/
theorem ofBytes_of_writes {bs : List UInt8} {v : Json} (h : IsText bs v) :
    ofBytes bs = (v, true) := by
  obtain ⟨ws, cs, ws', hw, h, hw', rfl⟩ := h
  have hread : readValue (2 * (ws ++ (cs ++ ws')).length + 2) (ws ++ (cs ++ ws')) = (v, ws') := by
    rw [readValue_blank hw]
    refine readValue_of_writes h (by simp; omega) ?_
    simpa using hw'.stops stops_nil
  have hrest : skipSpace ws' = [] := by
    rw [← List.append_nil ws', skipSpace_append hw']
    rfl
  rw [ofBytes, hread]
  simp [hrest]

end MergeTurn.Json
