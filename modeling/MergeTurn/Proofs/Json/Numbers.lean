import MergeTurn.Proofs.Json.Strings
import MergeTurn.Proofs.Text.Digits

set_option autoImplicit false

/-!
# Numbers that are written can be read

A number is written in decimal digits without leading zeros, maybe with a sign, a fraction and an
exponent, and is read as far as these go. So what follows must not begin like more of a number.

## Main definitions

* `MergeTurn.Json.Stops` — nothing that would go on with a number.
* `MergeTurn.Json.WritesNumber` — a text is a written form of a number.

## Main results

* `MergeTurn.Json.lexNumber_of_writes` — a written number is read as the number.
* `MergeTurn.Json.writesNumber_toDigits` — natural numbers are printed as they have to be written.
-/

namespace MergeTurn.Json

/-- A text that does not go on with a number that stands before it. -/
def Stops (r : List UInt8) : Prop :=
  ∀ b ∈ r.head?, isDigit b = false ∧ b ≠ 0x2e ∧ b ≠ 0x65 ∧ b ≠ 0x45

@[simp] lemma stops_nil : Stops [] := by simp [Stops]

@[simp] lemma stops_cons (b : UInt8) (r : List UInt8) :
    Stops (b :: r) ↔ isDigit b = false ∧ b ≠ 0x2e ∧ b ≠ 0x65 ∧ b ≠ 0x45 := by
  simp [Stops]

/-- The bytes of characters among the first 128. -/
lemma charBytes_of_lt {cs : List Char} (h : ∀ c ∈ cs, c.toNat < 128) :
    charBytes cs = cs.map fun c => UInt8.ofNat c.toNat := by
  induction cs with
  | nil => rfl
  | cons c cs ih =>
    obtain ⟨hc, hcs⟩ := List.forall_mem_cons.1 h
    rw [charBytes_cons, utf8EncodeChar_of_lt hc, ih hcs]
    rfl

/-- The byte of a digit has the code of the digit. -/
lemma toNat_digitByte {c : Char} (h : c.isDigit = true) :
    (UInt8.ofNat c.toNat).toNat = c.toNat := by
  have hc := Text.toNat_of_isDigit h
  exact UInt8.toNat_ofNat_of_lt' (Nat.lt_of_le_of_lt hc.2 (by decide))

/-- The bytes of digits are digits. -/
lemma isDigit_digitByte {c : Char} (h : c.isDigit = true) :
    isDigit (UInt8.ofNat c.toNat) = true := by
  have hc := Text.toNat_of_isDigit h
  rw [isDigit, Bool.and_eq_true, decide_eq_true_eq, decide_eq_true_eq, UInt8.le_iff_toNat_le,
    UInt8.le_iff_toNat_le, toNat_digitByte h]
  exact hc

/-- The value of the bytes of digits is that of the digits. -/
lemma digitsValue_map {cs : List Char} (h : ∀ c ∈ cs, c.isDigit = true) :
    digitsValue (cs.map fun c => UInt8.ofNat c.toNat) = Nat.ofDigitChars 10 cs 0 := by
  rw [digitsValue, List.foldl_map, Nat.ofDigitChars]
  exact List.foldl_ext _ _ _ fun n c hc => by rw [toNat_digitByte (h c hc)]; rfl

/-! ## Ways to write a number -/

/-- One decimal digit or more. -/
structure Digits (ds : List UInt8) : Prop where
  ne_nil : ds ≠ []
  all : ∀ d ∈ ds, isDigit d = true

/-- The digits before the point of a number. Zero stands alone. -/
structure WholeDigits (ds : List UInt8) : Prop extends Digits ds where
  zero : ds.head? = some 0x30 → ds.length = 1

/-- A text is a written form of the digits behind a point, or nothing. -/
inductive WritesFraction : List UInt8 → Option (List UInt8) → Prop
  | absent : WritesFraction [] none
  | point {ds : List UInt8} (h : Digits ds) : WritesFraction (0x2e :: ds) (some ds)

/-- A text is a written form of an exponent, or nothing. -/
inductive WritesExponent : List UInt8 → Option Int → Prop
  | absent : WritesExponent [] none
  | bare {e : UInt8} {ds : List UInt8} (he : e = 0x65 ∨ e = 0x45) (h : Digits ds) :
    WritesExponent (e :: ds) (some (digitsValue ds))
  | plus {e : UInt8} {ds : List UInt8} (he : e = 0x65 ∨ e = 0x45) (h : Digits ds) :
    WritesExponent (e :: 0x2b :: ds) (some (digitsValue ds))
  | minus {e : UInt8} {ds : List UInt8} (he : e = 0x65 ∨ e = 0x45) (h : Digits ds) :
    WritesExponent (e :: 0x2d :: ds) (some (-digitsValue ds))

/-- A text is a written form of a number: of a natural one by its digits alone, of any other by a
sign, a fraction or an exponent besides. -/
inductive WritesNumber : List UInt8 → Numeral → Prop
  | natural {ws : List UInt8} (hw : WholeDigits ws) : WritesNumber ws (.natural (digitsValue ws))
  | other {ss ws fs es : List UInt8} {fraction : Option (List UInt8)} {exponent : Option Int}
    (hs : ss = [] ∨ ss = [0x2d]) (hw : WholeDigits ws) (hf : WritesFraction fs fraction)
    (he : WritesExponent es exponent)
    (hother : ss = [] → fraction = none → exponent ≠ none) :
    WritesNumber (ss ++ (ws ++ (fs ++ es)))
      (.other (overflows ws (fraction.getD []) (exponent.getD 0)))

/-! ## Reading what is written -/

/-- Digits are taken as far as they go. -/
lemma takeWhile_digits {ds r : List UInt8} (h : ∀ b ∈ ds, isDigit b = true)
    (hr : ∀ b ∈ r.head?, isDigit b = false) :
    (ds ++ r).takeWhile isDigit = ds ∧ (ds ++ r).dropWhile isDigit = r := by
  rw [List.takeWhile_append_of_pos h, List.dropWhile_append_of_pos h]
  cases r with
  | nil => simp
  | cons b r =>
    have hb := hr b rfl
    rw [List.takeWhile_cons_of_neg (by simp [hb]), List.dropWhile_cons_of_neg (by simp [hb])]
    simp

/-- Digits are not empty. -/
lemma Digits.isEmpty_eq {ds : List UInt8} (h : Digits ds) : ds.isEmpty = false :=
  List.isEmpty_eq_false_iff.2 h.ne_nil

/-- What does not go on with a number does not begin with a digit. -/
lemma Stops.not_digit {r : List UInt8} (h : Stops r) : ∀ b ∈ r.head?, isDigit b = false :=
  fun b hb => (h b hb).1

/-- The mark of an exponent is no digit and no point. -/
lemma mark_not_digit {e : UInt8} (he : e = 0x65 ∨ e = 0x45) : isDigit e = false ∧ e ≠ 0x2e := by
  rcases he with rfl | rfl <;> decide

/-- Neither digits nor a fraction go on where an exponent may stand. -/
lemma WritesExponent.head {es r : List UInt8} {exponent : Option Int}
    (h : WritesExponent es exponent) (hr : Stops r) :
    ∀ b ∈ (es ++ r).head?, isDigit b = false ∧ b ≠ 0x2e := by
  intro b hb
  cases h with
  | absent => exact ⟨(hr b hb).1, (hr b hb).2.1⟩
  | bare he | plus he | minus he =>
    cases hb
    exact mark_not_digit he

/-- Digits do not go on where a fraction may stand. -/
lemma WritesFraction.head {fs r : List UInt8} {fraction : Option (List UInt8)}
    (h : WritesFraction fs fraction) (hr : ∀ b ∈ r.head?, isDigit b = false) :
    ∀ b ∈ (fs ++ r).head?, isDigit b = false := by
  intro b hb
  cases h with
  | absent => exact hr b hb
  | point =>
    cases hb
    decide

/-- A written exponent is read as what it is. -/
lemma lexExponent_of_writes {es r : List UInt8} {exponent : Option Int}
    (h : WritesExponent es exponent) (hr : Stops r) :
    lexExponent (es ++ r) = some (exponent, r) := by
  cases h with
  | absent =>
    cases r with
    | nil => rfl
    | cons b r =>
      have hb := (stops_cons b r).1 hr
      rw [List.nil_append, lexExponent.eq_def]
      dsimp only
      rw [if_neg (by rintro (he | he); exacts [hb.2.2.1 he, hb.2.2.2 he])]
  | @bare e ds he h =>
    obtain ⟨htake, hdrop⟩ := takeWhile_digits h.all hr.not_digit
    obtain ⟨d, ds', rfl⟩ := List.exists_cons_of_ne_nil h.ne_nil
    have hd := h.all d List.mem_cons_self
    rw [List.cons_append, lexExponent.eq_def]
    dsimp only
    rw [if_pos he]
    -- A sign is no digit.
    split
    · next heq =>
      injection heq with hhead
      subst hhead
      exact absurd hd (by decide)
    · next heq =>
      injection heq with hhead
      subst hhead
      exact absurd hd (by decide)
    · rw [htake, hdrop]
      rfl
  | plus he h | minus he h =>
    obtain ⟨htake, hdrop⟩ := takeWhile_digits h.all hr.not_digit
    simp [lexExponent, he, htake, hdrop, h.isEmpty_eq]

/-- A written fraction is read as what it is. -/
lemma lexFraction_of_writes {fs r : List UInt8} {fraction : Option (List UInt8)}
    (h : WritesFraction fs fraction) (hr : ∀ b ∈ r.head?, isDigit b = false ∧ b ≠ 0x2e) :
    lexFraction (fs ++ r) = some (fraction, r) := by
  cases h with
  | absent =>
    rw [List.nil_append, lexFraction.eq_def]
    split
    · exact absurd rfl (hr _ rfl).2
    · rfl
  | point h =>
    obtain ⟨htake, hdrop⟩ := takeWhile_digits h.all fun b hb => (hr b hb).1
    simp [lexFraction, htake, hdrop, h.isEmpty_eq]

/-- The digits before a point are read as they are. -/
lemma lexWhole_of_writes {ws r : List UInt8} (h : WholeDigits ws)
    (hr : ∀ b ∈ r.head?, isDigit b = false) : lexWhole (ws ++ r) = some (ws, r) := by
  obtain ⟨htake, hdrop⟩ := takeWhile_digits h.all hr
  rw [lexWhole, htake, hdrop, if_neg]
  rintro (hempty | ⟨hzero, hlength⟩)
  · rw [h.isEmpty_eq] at hempty
    cases hempty
  · rw [h.zero hzero] at hlength
    exact absurd hlength (by decide)

/-- A number without a sign begins with a digit. -/
lemma WholeDigits.exists_cons {ws : List UInt8} (h : WholeDigits ws) :
    ∃ d ds, ws = d :: ds ∧ isDigit d = true := by
  obtain ⟨d, ds, rfl⟩ := List.exists_cons_of_ne_nil h.ne_nil
  exact ⟨d, ds, rfl, h.all d List.mem_cons_self⟩

/-- A written number begins with a digit or a sign. -/
lemma WritesNumber.exists_cons {bs : List UInt8} {n : Numeral} (h : WritesNumber bs n) :
    ∃ d ds, bs = d :: ds ∧ (isDigit d = true ∨ d = 0x2d) := by
  cases h with
  | natural hw =>
    obtain ⟨d, ds, rfl, hd⟩ := hw.exists_cons
    exact ⟨d, ds, rfl, .inl hd⟩
  | other hs hw =>
    rcases hs with rfl | rfl
    · obtain ⟨d, ds, rfl, hd⟩ := hw.exists_cons
      exact ⟨d, _, rfl, .inl hd⟩
    · exact ⟨0x2d, _, rfl, .inr rfl⟩

/-- A number is read part by part. -/
lemma lexNumber_parts {ss ws fs es r : List UInt8} {fraction : Option (List UInt8)}
    {exponent : Option Int} (hs : ss = [] ∨ ss = [0x2d]) (hw : WholeDigits ws)
    (hf : WritesFraction fs fraction) (he : WritesExponent es exponent) (hr : Stops r) :
    lexNumber (ss ++ (ws ++ (fs ++ (es ++ r)))) =
      some (if ss = [] ∧ fraction = none ∧ exponent = none then .natural (digitsValue ws)
        else .other (overflows ws (fraction.getD []) (exponent.getD 0)), r) := by
  have hexponent := lexExponent_of_writes he hr
  have hfraction := lexFraction_of_writes hf (he.head hr)
  have hwhole := lexWhole_of_writes hw (hf.head fun b hb => (he.head hr b hb).1)
  rcases hs with rfl | rfl
  · obtain ⟨d, ds, rfl, hd⟩ := hw.exists_cons
    rw [List.nil_append, lexNumber.eq_def]
    split
    next negative t hsplit =>
      split at hsplit
      · -- A sign is no digit.
        next heq =>
          injection heq with hhead
          subst hhead
          exact absurd hd (by decide)
      · cases hsplit
        rw [hwhole]
        simp [hfraction, hexponent]
        split <;> rfl
  · simp [lexNumber, hwhole, hfraction, hexponent]

/-- A written number is read as the number, whatever follows that does not go on with it. -/
theorem lexNumber_of_writes {bs r : List UInt8} {n : Numeral} (h : WritesNumber bs n)
    (hr : Stops r) : lexNumber (bs ++ r) = some (n, r) := by
  cases h with
  | natural hw => exact lexNumber_parts (.inl rfl) hw .absent .absent hr
  | other hs hw hf he hother =>
    rw [List.append_assoc, List.append_assoc, List.append_assoc, lexNumber_parts hs hw hf he hr,
      if_neg fun h => hother h.1 h.2.1 h.2.2]

/-! ## Printing -/

/-- The bytes of a written number. -/
lemma charBytes_toDigits (n : Nat) :
    charBytes (Nat.toDigits 10 n) = (Nat.toDigits 10 n).map fun c => UInt8.ofNat c.toNat :=
  charBytes_of_lt fun c hc => by
    have := Text.toNat_of_isDigit (Text.isDigit_of_mem_toDigits hc)
    omega

/-- The bytes of a written number are digits. -/
lemma isDigit_of_mem_charBytes {n : Nat} {b : UInt8} (h : b ∈ charBytes (Nat.toDigits 10 n)) :
    isDigit b = true := by
  rw [charBytes_toDigits] at h
  obtain ⟨c, hc, rfl⟩ := List.mem_map.1 h
  exact isDigit_digitByte (Text.isDigit_of_mem_toDigits hc)

/-- A written number begins with a digit. -/
lemma exists_charBytes_toDigits (n : Nat) :
    ∃ d ds, charBytes (Nat.toDigits 10 n) = d :: ds ∧ isDigit d = true := by
  cases hd : charBytes (Nat.toDigits 10 n) with
  | nil => exact absurd hd (by simp [charBytes_toDigits])
  | cons d ds => exact ⟨d, ds, rfl, isDigit_of_mem_charBytes (hd ▸ List.mem_cons_self)⟩

/-- The digits that a natural number is printed with are as they have to be. -/
lemma wholeDigits_toDigits (n : Nat) : WholeDigits (charBytes (Nat.toDigits 10 n)) where
  ne_nil := by
    obtain ⟨d, ds, hbytes, -⟩ := exists_charBytes_toDigits n
    rw [hbytes]
    exact List.cons_ne_nil d ds
  all := fun b => isDigit_of_mem_charBytes
  zero := by
    intro hzero
    rw [charBytes_toDigits, List.head?_map, Option.map_eq_some_iff] at hzero
    obtain ⟨c, hc, hbyte⟩ := hzero
    have hval := toNat_digitByte (Text.isDigit_of_mem_toDigits (List.mem_of_head? hc))
    rw [hbyte] at hval
    have hone := Text.toDigits_of_head? (hc.trans (congrArg some (Char.toNat_inj.1 hval.symm)))
    rw [charBytes_toDigits, hone]
    rfl

/-- The value of the bytes of a written number is the number. -/
lemma digitsValue_toDigits (n : Nat) : digitsValue (charBytes (Nat.toDigits 10 n)) = n := by
  rw [charBytes_toDigits, digitsValue_map fun c => Text.isDigit_of_mem_toDigits]
  exact Nat.ofDigitChars_toDigits (by decide) (by decide)

/-- A natural number is printed as it has to be written. -/
theorem writesNumber_toDigits (n : Nat) :
    WritesNumber (charBytes (Nat.toDigits 10 n)) (.natural n) := by
  have h := WritesNumber.natural (wholeDigits_toDigits n)
  rwa [digitsValue_toDigits] at h

end MergeTurn.Json
