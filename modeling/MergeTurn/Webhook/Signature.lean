import MergeTurn.Digest.Hmac
import MergeTurn.Text.Hex

set_option autoImplicit false

/-!
# Signatures of webhooks

A webhook is signed with a secret that only its sender and the service know: its header holds the
keyed digest of its body in hexadecimal.

## Main definitions

* `MergeTurn.Webhook.sign` — the header of a body.
* `MergeTurn.Webhook.signatureBytes` — the digest in a header.
* `MergeTurn.Webhook.verify` — whether a header belongs to a body.
-/

namespace MergeTurn.Webhook

/-- Why a signature is refused. -/
inductive SignatureError where
  | malformed
  | mismatch
  | unusableSecret
deriving DecidableEq, Repr

/-- The message for a signature that is refused. -/
def SignatureError.message : SignatureError → String
  | .malformed => "signature header is not of the form sha256=<hex>"
  | .mismatch => "signature does not match payload"
  | .unusableSecret => "webhook secret is not usable as an HMAC key"

/-- What a header begins with. -/
def signatureStart : List Char := ['s', 'h', 'a', '2', '5', '6', '=']

/-- The header of a body. -/
def sign (body secret : List UInt8) : String :=
  String.ofList (signatureStart ++ Text.hexEncode (Digest.hmac secret body))

/-- The digest in a header. -/
def signatureBytes (header : String) : Except SignatureError (List UInt8) :=
  if signatureStart.isPrefixOf header.toList then
    match Text.hexDecode? (header.toList.drop signatureStart.length) with
    | some digest => .ok digest
    | none => .error .malformed
  else .error .malformed

/-- Accepts a header that holds the digest of a body. -/
def verify (body : List UInt8) (header : String) (secret : List UInt8) :
    Except SignatureError Unit :=
  match signatureBytes header with
  | .error e => .error e
  | .ok digest => if digest = Digest.hmac secret body then .ok () else .error .mismatch

end MergeTurn.Webhook
