import MergeTurn.Proofs.Text.Hex
import MergeTurn.Webhook.Signature

set_option autoImplicit false

/-!
# Which signatures are accepted

A signature is accepted if it is the one that the holder of the secret makes, whatever the letter
case of its digits. It is malformed if it cannot be a signature at all, and a mismatch otherwise.

## Main definitions

* `MergeTurn.Webhook.Carries` — the digits that a header carries behind its start.

## Main results

* `MergeTurn.Webhook.verify_decides` — which headers are accepted, malformed or a mismatch.
-/

namespace MergeTurn.Webhook

open Text (IsHexPairs hexDecode? hexEncode hexDecode?_eq_some_iff isSome_hexDecode?)

/-- A header starts as it has to and carries the given digits behind that. -/
def Carries (header : String) (digits : List Char) : Prop :=
  header.toList = "sha256=".toList ++ digits

variable {header : String} {digits : List Char} {body secret : List UInt8}

/-- A header carries one text of digits only. -/
lemma Carries.digits_eq {digits' : List Char} (h : Carries header digits)
    (h' : Carries header digits') : digits = digits' :=
  List.append_cancel_left (h.symm.trans h')

/-- The signature of a body carries the digits of its keyed digest. -/
lemma carries_sign (body secret : List UInt8) :
    Carries (sign body secret) (hexEncode (Digest.hmac secret body)) := by
  rw [Carries, sign, String.toList_ofList]
  rfl

/-- The digest in a header is what its digits are read as. -/
lemma signatureBytes_of_carries (h : Carries header digits) :
    signatureBytes header = (hexDecode? digits).elim (.error .malformed) .ok := by
  have hstart : signatureStart.isPrefixOf header.toList = true := by
    rw [List.isPrefixOf_iff_prefix, h]
    exact ⟨digits, rfl⟩
  have hdrop : header.toList.drop signatureStart.length = digits := by
    rw [h]
    exact List.drop_left
  rw [signatureBytes, if_pos hstart, hdrop]
  cases hexDecode? digits <;> rfl

/-- A header that carries no digits is malformed. -/
lemma signatureBytes_of_not_carries (h : ∀ digits, ¬ Carries header digits) :
    signatureBytes header = .error .malformed := by
  rw [signatureBytes, if_neg]
  intro hstart
  obtain ⟨digits, hdigits⟩ := List.isPrefixOf_iff_prefix.1 hstart
  exact h digits hdigits.symm

/-- Digits are those of the signature of a body if they are the lower-case ones of its digest. -/
lemma carries_sign_iff (body secret : List UInt8) (digits : List Char) :
    Carries (sign body secret) digits ↔ digits = hexEncode (Digest.hmac secret body) :=
  ⟨fun h => h.digits_eq (carries_sign body secret), fun h => h ▸ carries_sign body secret⟩

/-- What becomes of a header is a question of the digits that it carries. -/
lemma verify_of_carries (h : Carries header digits) (body secret : List UInt8) :
    (verify body header secret = .ok () ↔
        Carries (sign body secret) (digits.map Char.toLower)) ∧
      (verify body header secret = .error .malformed ↔ ¬ IsHexPairs digits) ∧
      (verify body header secret = .error .mismatch ↔
        IsHexPairs digits ∧ ¬ Carries (sign body secret) (digits.map Char.toLower)) := by
  have hread := hexDecode?_eq_some_iff digits (Digest.hmac secret body)
  rw [carries_sign_iff, ← hread, verify, signatureBytes_of_carries h, ← isSome_hexDecode?]
  cases hexDecode? digits with
  | none => simp
  | some digest =>
    by_cases hdigest : digest = Digest.hmac secret body
    · simp [hdigest]
    · simp [hdigest]

/-- A header is accepted if it carries the digits of the signature of the body, in either letter
case. It is malformed if it does not carry an even number of hexadecimal digits, and a mismatch if it
carries any others, among them all that are too few or too many. So the signature of a body is
accepted for that body. -/
theorem verify_decides (body secret : List UInt8) (header : String) :
    (verify body header secret = .ok () ↔
        ∃ digits, Carries header digits ∧
          Carries (sign body secret) (digits.map Char.toLower)) ∧
      (verify body header secret = .error .malformed ↔
        ¬ ∃ digits, Carries header digits ∧ IsHexPairs digits) ∧
      (verify body header secret = .error .mismatch ↔
        ∃ digits, Carries header digits ∧ IsHexPairs digits ∧
          ¬ Carries (sign body secret) (digits.map Char.toLower)) ∧
      (∀ digits, Carries header digits → IsHexPairs digits → digits.length ≠ 64 →
        verify body header secret = .error .mismatch) ∧
      verify body (sign body secret) secret = .ok () := by
  have hsigned : verify body (sign body secret) secret = .ok () := by
    refine (verify_of_carries (carries_sign body secret) body secret).1.2 ?_
    rw [Text.map_toLower_hexEncode]
    exact carries_sign body secret
  by_cases hcarries : ∃ digits, Carries header digits
  · obtain ⟨digits, h⟩ := hcarries
    obtain ⟨hok, hmalformed, hmismatch⟩ := verify_of_carries h body secret
    have honly : ∀ P : List Char → Prop, (∃ digits, Carries header digits ∧ P digits) ↔ P digits :=
      fun P => ⟨fun ⟨_, h', hP⟩ => h.digits_eq h' ▸ hP, fun hP => ⟨digits, h, hP⟩⟩
    rw [honly, honly, honly]
    refine ⟨hok, hmalformed, hmismatch, fun digits' h' hpairs hlength => ?_, hsigned⟩
    obtain rfl := h.digits_eq h'
    refine hmismatch.2 ⟨hpairs, fun hsign => hlength ?_⟩
    have hdigest := congrArg List.length ((carries_sign_iff body secret _).1 hsign)
    rw [List.length_map, Text.length_hexEncode, Digest.length_hmac] at hdigest
    exact hdigest
  · have hnone : ∀ digits, ¬ Carries header digits := fun digits h => hcarries ⟨digits, h⟩
    have hverify : verify body header secret = .error .malformed := by
      rw [verify, signatureBytes_of_not_carries hnone]
    simp [hnone, hverify, hsigned]

/-- The body of a delivery. -/
def sampleBody : List UInt8 := "\x7b\"zen\":\"Keep it logically awesome.\"\x7d".toUTF8.toList

/-- The secret that it is signed with. -/
def sampleSecret : List UInt8 := "merge-turn".toUTF8.toList

/-- The signature of a body is a mismatch if its last two digits are missing. -/
theorem verify_decides_truncated :
    let digits := (hexEncode (Digest.hmac sampleSecret sampleBody)).take 62
    let header := String.ofList ("sha256=".toList ++ digits)
    sampleBody ≠ [] ∧ sampleSecret ≠ [] ∧ Carries header digits ∧ IsHexPairs digits ∧
      digits.length ≠ 64 ∧ verify sampleBody header sampleSecret = .error .mismatch := by
  intro digits header
  have hall : IsHexPairs (hexEncode (Digest.hmac sampleSecret sampleBody)) :=
    (isSome_hexDecode? _).1 (by rw [Text.hexDecode?_hexEncode]; rfl)
  have hlength : digits.length = 62 := by
    rw [List.length_take, Text.length_hexEncode, Digest.length_hmac]
    rfl
  have hcarries : Carries header digits := String.toList_ofList
  have hpairs : IsHexPairs digits :=
    ⟨by rw [hlength]; decide, fun c hc => hall.2 c (List.mem_of_mem_take hc)⟩
  have hshort : digits.length ≠ 64 := by omega
  exact ⟨by decide +kernel, by decide +kernel, hcarries, hpairs, hshort,
    (verify_decides sampleBody sampleSecret header).2.2.2.1 digits hcarries hpairs hshort⟩

end MergeTurn.Webhook
