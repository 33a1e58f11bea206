set_option autoImplicit false

/-!
# The SHA-256 digest

A message is padded to blocks of sixteen words, and each block is mixed into a chain of eight
words; the last chain is the digest.

## Main definitions

* `MergeTurn.Digest.Chain` — the eight words that the blocks are mixed into.
* `MergeTurn.Digest.schedule` — the sixty-four words that a block expands to.
* `MergeTurn.Digest.compress` — one block mixed into the chain.
* `MergeTurn.Digest.sha256` — the digest of a message.

## Main results

* `MergeTurn.Digest.length_sha256` — a digest has thirty-two bytes.

## Design

Everything is a fold over lists: bytes are grouped into words and words into blocks, big end
first, and the message schedule is grown one word at a time, newest word first, so that the words
that the next one needs are at fixed places.
-/

namespace MergeTurn.Digest

/-- The eight words that the blocks of a message are mixed into. -/
structure Chain where
  a : UInt32
  b : UInt32
  c : UInt32
  d : UInt32
  e : UInt32
  f : UInt32
  g : UInt32
  h : UInt32
deriving DecidableEq

/-- The chain before the first block: the first 32 bits of the fractional parts of the square
roots of the first eight primes. -/
def Chain.start : Chain :=
  ⟨0x6a09e667, 0xbb67ae85, 0x3c6ef372, 0xa54ff53a, 0x510e527f, 0x9b05688c, 0x1f83d9ab, 0x5be0cd19⟩

/-- The round constants: the first 32 bits of the fractional parts of the cube roots of the first
sixty-four primes. -/
def roundConstants : List UInt32 :=
  [0x428a2f98, 0x71374491, 0xb5c0fbcf, 0xe9b5dba5, 0x3956c25b, 0x59f111f1, 0x923f82a4, 0xab1c5ed5,
   0xd807aa98, 0x12835b01, 0x243185be, 0x550c7dc3, 0x72be5d74, 0x80deb1fe, 0x9bdc06a7, 0xc19bf174,
   0xe49b69c1, 0xefbe4786, 0x0fc19dc6, 0x240ca1cc, 0x2de92c6f, 0x4a7484aa, 0x5cb0a9dc, 0x76f988da,
   0x983e5152, 0xa831c66d, 0xb00327c8, 0xbf597fc7, 0xc6e00bf3, 0xd5a79147, 0x06ca6351, 0x14292967,
   0x27b70a85, 0x2e1b2138, 0x4d2c6dfc, 0x53380d13, 0x650a7354, 0x766a0abb, 0x81c2c92e, 0x92722c85,
   0xa2bfe8a1, 0xa81a664b, 0xc24b8b70, 0xc76c51a3, 0xd192e819, 0xd6990624, 0xf40e3585, 0x106aa070,
   0x19a4c116, 0x1e376c08, 0x2748774c, 0x34b0bcb5, 0x391c0cb3, 0x4ed8aa4a, 0x5b9cca4f, 0x682e6ff3,
   0x748f82ee, 0x78a5636f, 0x84c87814, 0x8cc70208, 0x90befffa, 0xa4506ceb, 0xbef9a3f7, 0xc67178f2]

/-- A word rotated to the right. -/
def rotateRight (w n : UInt32) : UInt32 :=
  (w >>> n) ||| (w <<< (32 - n))

/-- The four bytes of a word, big end first. -/
def wordBytes (w : UInt32) : List UInt8 :=
  [(w >>> 24).toUInt8, (w >>> 16).toUInt8, (w >>> 8).toUInt8, w.toUInt8]

/-- The words that groups of four bytes stand for, big end first. -/
def words : List UInt8 → List UInt32
  | b0 :: b1 :: b2 :: b3 :: r =>
    ((b0.toUInt32 <<< 24) ||| (b1.toUInt32 <<< 16) ||| (b2.toUInt32 <<< 8) ||| b3.toUInt32) ::
      words r
  | _ => []

/-- The next word of the message schedule, from the words before it, newest first. -/
def nextWord (w : List UInt32) : UInt32 :=
  let w2 := w.getD 1 0
  let w15 := w.getD 14 0
  let s1 := rotateRight w2 17 ^^^ rotateRight w2 19 ^^^ (w2 >>> 10)
  let s0 := rotateRight w15 7 ^^^ rotateRight w15 18 ^^^ (w15 >>> 3)
  w.getD 15 0 + s0 + w.getD 6 0 + s1

/-- A message schedule, newest word first, grown by a number of words. -/
def grow : Nat → List UInt32 → List UInt32
  | 0, w => w
  | n + 1, w => grow n (nextWord w :: w)

/-- The sixty-four words that a block of sixteen expands to. -/
def schedule (block : List UInt32) : List UInt32 :=
  (grow 48 block.reverse).reverse

/-- One round: a word of the schedule and its constant mixed into the chain. -/
def Chain.round (s : Chain) (w k : UInt32) : Chain :=
  let s1 := rotateRight s.e 6 ^^^ rotateRight s.e 11 ^^^ rotateRight s.e 25
  let choice := (s.e &&& s.f) ^^^ (~~~s.e &&& s.g)
  let t1 := s.h + s1 + choice + k + w
  let s0 := rotateRight s.a 2 ^^^ rotateRight s.a 13 ^^^ rotateRight s.a 22
  let majority := (s.a &&& s.b) ^^^ (s.a &&& s.c) ^^^ (s.b &&& s.c)
  ⟨t1 + (s0 + majority), s.a, s.b, s.c, s.d + t1, s.e, s.f, s.g⟩

/-- The word by word sum of two chains. -/
def Chain.add (s t : Chain) : Chain :=
  ⟨s.a + t.a, s.b + t.b, s.c + t.c, s.d + t.d, s.e + t.e, s.f + t.f, s.g + t.g, s.h + t.h⟩

/-- One block mixed into the chain: sixty-four rounds, added to the chain before them. -/
def compress (s : Chain) (block : List UInt32) : Chain :=
  s.add (((schedule block).zip roundConstants).foldl (fun t wk => t.round wk.1 wk.2) s)

/-- The first so many blocks of sixteen words. -/
def firstBlocks : Nat → List UInt32 → List (List UInt32)
  | 0, _ => []
  | n + 1, w => w.take 16 :: firstBlocks n (w.drop 16)

/-- The blocks that a number of words fill, sixteen words each. -/
def blocks (w : List UInt32) : List (List UInt32) :=
  firstBlocks (w.length / 16) w

/-- A message with its padding: a one bit, zeros up to eight bytes short of a block's end, and
the length in bits. -/
def padded (message : List UInt8) : List UInt8 :=
  let bits := 8 * message.length
  message ++ 0x80 :: List.replicate ((119 - message.length % 64) % 64) 0 ++
    wordBytes (UInt32.ofNat (bits / UInt32.size)) ++ wordBytes (UInt32.ofNat bits)

/-- The bytes of a chain, first word first. -/
def Chain.bytes (s : Chain) : List UInt8 :=
  [s.a, s.b, s.c, s.d, s.e, s.f, s.g, s.h].flatMap wordBytes

/-- The SHA-256 digest of a message. -/
def sha256 (message : List UInt8) : List UInt8 :=
  ((blocks (words (padded message))).foldl compress .start).bytes

theorem Chain.length_bytes (s : Chain) : s.bytes.length = 32 := rfl

/-- A digest has thirty-two bytes. -/
theorem length_sha256 (message : List UInt8) : (sha256 message).length = 32 :=
  Chain.length_bytes _

end MergeTurn.Digest
