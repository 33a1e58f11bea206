import Mathlib.Algebra.Group.Nat.Even
import MergeTurn.Text.Hex

set_option autoImplicit false

/-!
# Hexadecimal digits are read as the bytes they are written for

Bytes are written with lower-case digits and read in either letter case. So what is read as some
bytes is exactly what is their written form once its letters are lower-case.

## Main definitions

* `MergeTurn.Text.IsHexDigit` — the hexadecimal digits, in either letter case.
* `MergeTurn.Text.IsHexPairs` — texts of an even number of hexadecimal digits.

## Main results

* `MergeTurn.Text.hexDecode?_eq_some_iff` — digits are read as the bytes that they are written for.
* `MergeTurn.Text.isSome_hexDecode?` — all texts of an even number of digits can be read.

## Design

What holds of a single digit is settled by going through the first 128 characters. No other
character is a digit, and none changes when letters become lower-case.
-/

namespace MergeTurn.Text

/-! ## Single digits -/

/-- A hexadecimal digit in either letter case. -/
def IsHexDigit (c : Char) : Prop :=
  ('0' ≤ c ∧ c ≤ '9') ∨ ('a' ≤ c ∧ c ≤ 'f') ∨ ('A' ≤ c ∧ c ≤ 'F')

instance (c : Char) : Decidable (IsHexDigit c) :=
  inferInstanceAs (Decidable (_ ∨ _ ∨ _))

/-- The characters with a value are the hexadecimal digits. -/
lemma isSome_digitValue? (c : Char) : (digitValue? c).isSome = true ↔ IsHexDigit c := by
  unfold digitValue? IsHexDigit
  split_ifs with h₁ h₂ h₃ <;> simp [*]

/-- The hexadecimal digits are among the first 128 characters. -/
lemma IsHexDigit.toNat_lt {c : Char} (h : IsHexDigit c) : c.toNat < 128 := by
  have hle : ∀ d : Char, c ≤ d → c.toNat ≤ d.toNat := fun d hd => Char.le_def.1 hd
  obtain ⟨-, h⟩ | ⟨-, h⟩ | ⟨-, h⟩ := h
  · exact Nat.lt_of_le_of_lt (hle _ h) (by decide)
  · exact Nat.lt_of_le_of_lt (hle _ h) (by decide)
  · exact Nat.lt_of_le_of_lt (hle _ h) (by decide)

/-- A character that is no letter of the first 128 has no other letter case. -/
lemma toLower_of_le {c : Char} (h : 128 ≤ c.toNat) : c.toLower = c := by
  have hupper : ¬ (65 ≤ c.toNat ∧ c.toNat ≤ 90) := by omega
  exact dif_neg hupper

/-- A digit below sixteen is one of the first 128 characters. -/
lemma toNat_hexDigit_lt {n : Nat} (h : n < 16) : (hexDigit n).toNat < 128 := by
  have hall : ∀ n < 16, (hexDigit n).toNat < 128 := by decide
  exact hall n h

/-- A character has a value below sixteen if it is the digit of that value in lower case. -/
lemma digitValue?_eq_some_iff (c : Char) (n : Nat) :
    digitValue? c = some n ↔ n < 16 ∧ c.toLower = hexDigit n := by
  have hread : ∀ k < 128, ∀ n ∈ digitValue? (Char.ofNat k),
      n < 16 ∧ (Char.ofNat k).toLower = hexDigit n := by decide
  have hwritten : ∀ k < 128, ∀ n < 16, (Char.ofNat k).toLower = hexDigit n →
      digitValue? (Char.ofNat k) = some n := by decide
  constructor
  · intro h
    have hc : c.toNat < 128 := ((isSome_digitValue? c).1 (by rw [h]; rfl)).toNat_lt
    have hall := hread c.toNat hc n
    rw [Char.ofNat_toNat] at hall
    exact hall h
  · rintro ⟨hn, h⟩
    have hc : c.toNat < 128 := by
      by_contra hge
      have hlower := toLower_of_le (Nat.le_of_not_lt hge)
      have hlt := toNat_hexDigit_lt hn
      rw [← h, hlower] at hlt
      exact hge hlt
    have hall := hwritten c.toNat hc n hn
    rw [Char.ofNat_toNat] at hall
    exact hall h

/-- Digits are written in lower case. -/
lemma toLower_hexDigit {n : Nat} (h : n < 16) : (hexDigit n).toLower = hexDigit n := by
  have hall : ∀ n < 16, (hexDigit n).toLower = hexDigit n := by decide
  exact hall n h

/-! ## Bytes -/

/-- A text of an even number of hexadecimal digits. -/
def IsHexPairs (cs : List Char) : Prop :=
  Even cs.length ∧ ∀ c ∈ cs, IsHexDigit c

/-- The two halves of a byte are below sixteen. -/
lemma halves_lt (b : UInt8) : b.toNat / 16 < 16 ∧ b.toNat % 16 < 16 := by
  have hb := b.toNat_lt
  omega

/-- Two values below sixteen are the halves of the byte that they make up. -/
lemma ofNat_eq_iff {h l : Nat} (hh : h < 16) (hl : l < 16) (b : UInt8) :
    UInt8.ofNat (16 * h + l) = b ↔ h = b.toNat / 16 ∧ l = b.toNat % 16 := by
  have hval : (UInt8.ofNat (16 * h + l)).toNat = 16 * h + l :=
    UInt8.toNat_ofNat_of_lt' (show 16 * h + l < 256 by omega)
  rw [← UInt8.toNat_inj, hval]
  omega

/-- Every byte is written with two digits. -/
lemma length_hexEncode (bytes : List UInt8) : (hexEncode bytes).length = 2 * bytes.length := by
  induction bytes with
  | nil => rfl
  | cons b bytes ih =>
    rw [hexEncode] at ih ⊢
    simp only [List.flatMap_cons, List.length_append, ih, hexByte, List.length_cons,
      List.length_nil]
    omega

/-- Bytes are written in lower case. -/
lemma map_toLower_hexEncode (bytes : List UInt8) :
    (hexEncode bytes).map Char.toLower = hexEncode bytes := by
  induction bytes with
  | nil => rfl
  | cons b bytes ih =>
    have hb := halves_lt b
    rw [hexEncode] at ih ⊢
    simp [hexByte, ih, toLower_hexDigit hb.1, toLower_hexDigit hb.2]

/-- Two digits more are read as one byte more, of which they are the halves. -/
lemma hexDecode?_cons_cons (high low : Char) (r : List Char) (b : UInt8) (bytes : List UInt8) :
    hexDecode? (high :: low :: r) = some (b :: bytes) ↔
      (high.toLower = hexDigit (b.toNat / 16) ∧ low.toLower = hexDigit (b.toNat % 16)) ∧
        hexDecode? r = some bytes := by
  obtain ⟨hb, hb'⟩ := halves_lt b
  have hhalf : ∀ (c : Char) {n : Nat}, n < 16 → (c.toLower = hexDigit n ↔ digitValue? c = some n) :=
    fun c n hn => ((digitValue?_eq_some_iff c n).trans (and_iff_right hn)).symm
  rw [hhalf high hb, hhalf low hb', hexDecode?]
  cases hh : digitValue? high with
  | none => simp
  | some h =>
    cases hl : digitValue? low with
    | none => simp
    | some l =>
      cases hr : hexDecode? r with
      | none => simp
      | some rest =>
        have hbyte := ofNat_eq_iff ((digitValue?_eq_some_iff high h).1 hh).1
          ((digitValue?_eq_some_iff low l).1 hl).1 b
        simp only [Option.some.injEq, List.cons.injEq, hbyte]

/-- Two digits or more are not read as no byte at all. -/
lemma hexDecode?_cons_cons_ne (high low : Char) (r : List Char) :
    hexDecode? (high :: low :: r) ≠ some [] := by
  rw [hexDecode?]
  split <;> simp

/-- Digits are read as the bytes that they are written for, once their letters are lower-case.

**Proof sketch.** By induction, two digits at a time. A digit that stands alone is written for
nothing, and two digits are read as a byte exactly if they are its halves. -/
theorem hexDecode?_eq_some_iff (cs : List Char) (bytes : List UInt8) :
    hexDecode? cs = some bytes ↔ cs.map Char.toLower = hexEncode bytes := by
  match cs, bytes with
  | [], [] => simp [hexDecode?, hexEncode]
  | [], b :: bytes => simp [hexDecode?, hexEncode, hexByte]
  | [c], bytes =>
    have hodd : [c.toLower] ≠ hexEncode bytes := by
      intro h
      have hlength := congrArg List.length h
      rw [length_hexEncode, List.length_singleton] at hlength
      omega
    simp [hexDecode?, hodd]
  | high :: low :: r, [] =>
    simp [hexDecode?_cons_cons_ne, hexEncode]
  | high :: low :: r, b :: bytes =>
    have ih := hexDecode?_eq_some_iff r bytes
    rw [hexDecode?_cons_cons, ih]
    simp [hexEncode, hexByte, and_assoc]

/-- Bytes are read from the digits that they are written with. -/
lemma hexDecode?_hexEncode (bytes : List UInt8) : hexDecode? (hexEncode bytes) = some bytes :=
  (hexDecode?_eq_some_iff _ _).2 (map_toLower_hexEncode bytes)

/-- The texts that can be read are those of an even number of hexadecimal digits. -/
theorem isSome_hexDecode? (cs : List Char) : (hexDecode? cs).isSome = true ↔ IsHexPairs cs := by
  match cs with
  | [] => simp [hexDecode?, IsHexPairs]
  | [c] => simp [hexDecode?, IsHexPairs]
  | high :: low :: r =>
    have ih := isSome_hexDecode? r
    have hlength : Even (high :: low :: r).length ↔ Even r.length := by
      rw [List.length_cons, List.length_cons, add_assoc, Nat.even_add]
      exact iff_true_right (by decide)
    have hstep : (hexDecode? (high :: low :: r)).isSome = true ↔
        (IsHexDigit high ∧ IsHexDigit low) ∧ (hexDecode? r).isSome = true := by
      rw [← isSome_digitValue?, ← isSome_digitValue?, hexDecode?]
      cases digitValue? high <;> cases digitValue? low <;> cases hexDecode? r <;> simp
    rw [hstep, ih, IsHexPairs, IsHexPairs, hlength, List.forall_mem_cons, List.forall_mem_cons,
      and_left_comm, and_assoc]

end MergeTurn.Text
