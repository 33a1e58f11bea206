import MergeTurn.Digest.Sha256

set_option autoImplicit false

/-!
# Keyed digests

A keyed digest binds a message to a secret: the message is digested behind the key masked with
one pad, and the result behind the key masked with another.

## Main definitions

* `MergeTurn.Digest.blockKey` — a key brought to the length of one block.
* `MergeTurn.Digest.hmac` — the keyed digest of a message.

## Main results

* `MergeTurn.Digest.length_hmac` — a keyed digest has thirty-two bytes.
-/

namespace MergeTurn.Digest

/-- A key brought to the sixty-four bytes of a block: a longer key is digested first, and zeros
fill what is missing. -/
def blockKey (key : List UInt8) : List UInt8 :=
  let k := if key.length ≤ 64 then key else sha256 key
  k ++ List.replicate (64 - k.length) 0

/-- The keyed digest of a message, by SHA-256. -/
def hmac (key message : List UInt8) : List UInt8 :=
  let k := blockKey key
  sha256 (k.map (· ^^^ 0x5c) ++ sha256 (k.map (· ^^^ 0x36) ++ message))

/-- A keyed digest has thirty-two bytes, whatever the key and the message. -/
theorem length_hmac (key message : List UInt8) : (hmac key message).length = 32 :=
  length_sha256 _

end MergeTurn.Digest
