import MergeTurn.Json.Basic
import MergeTurn.Text.Hex

set_option autoImplicit false

/-!
# Reading JSON

From bytes to documents, by the strict grammar: no byte order mark, no trailing comma, no leading
zero, no control character in a string, and nothing but blanks after the document.

## Main definitions

* `MergeTurn.Json.lexString` — the pieces of a string and what follows it.
* `MergeTurn.Json.spell` — the bytes that the pieces of a string stand for.
* `MergeTurn.Json.lexNumber` — a number and what follows it.
* `MergeTurn.Json.readValue` — a document and what follows it.
* `MergeTurn.Json.ofBytes` — the document of a text, and whether the text ends with it.

## Design

A string is read in two passes, pieces first. Whether the pieces stand for text matters only to
those who read the string, while a fault in their form is a fault of the whole document.

The mutual functions carry fuel. Twice the length of the text is enough, since at most two calls
in a row take nothing from it.
-/

namespace MergeTurn.Json

/-- Whether a byte is one of the four blanks of JSON. -/
def isSpace (b : UInt8) : Bool :=
  b == 0x20 || b == 0x09 || b == 0x0a || b == 0x0d

/-- A text without its leading blanks. -/
def skipSpace (bs : List UInt8) : List UInt8 :=
  bs.dropWhile isSpace

/-! ## Strings -/

/-- A piece of a string as written. -/
inductive Piece where
  /-- A byte, as it stands or by a short escape. -/
  | byte (b : UInt8)
  /-- A unit given by four hexadecimal digits. -/
  | unit (n : Nat)
deriving DecidableEq

/-- The byte that a short escape stands for. -/
def shortEscape? (b : UInt8) : Option UInt8 :=
  if b = 0x22 then some 0x22       -- quote
  else if b = 0x5c then some 0x5c  -- backslash
  else if b = 0x2f then some 0x2f  -- slash
  else if b = 0x62 then some 0x08  -- backspace
  else if b = 0x66 then some 0x0c  -- form feed
  else if b = 0x6e then some 0x0a  -- line feed
  else if b = 0x72 then some 0x0d  -- carriage return
  else if b = 0x74 then some 0x09  -- tab
  else none

/-- The value of four hexadecimal digits. -/
def fourDigits? (a b c d : UInt8) : Option Nat := do
  let a ← Text.digitValue? (Char.ofNat a.toNat)
  let b ← Text.digitValue? (Char.ofNat b.toNat)
  let c ← Text.digitValue? (Char.ofNat c.toNat)
  let d ← Text.digitValue? (Char.ofNat d.toNat)
  return ((a * 16 + b) * 16 + c) * 16 + d

/-- The pieces of a string up to its closing quote, and what follows the quote. There is no
answer if the string does not end, holds a control character or an escape of the wrong form. -/
def lexString : List UInt8 → Option (List Piece × List UInt8)
  | [] => none
  | 0x22 :: r => some ([], r)
  | 0x5c :: 0x75 :: a :: b :: c :: d :: r =>
    match fourDigits? a b c d, lexString r with
    | some n, some (ps, r) => some (.unit n :: ps, r)
    | _, _ => none
  | 0x5c :: e :: r =>
    match shortEscape? e, lexString r with
    | some b, some (ps, r) => some (.byte b :: ps, r)
    | _, _ => none
  | b :: r =>
    if b < 0x20 ∨ b = 0x5c then none
    else match lexString r with
      | some (ps, r) => some (.byte b :: ps, r)
      | none => none

/-- The bytes of a code point. -/
def codeBytes (n : Nat) : List UInt8 :=
  String.utf8EncodeChar (Char.ofNat n)

/-- The bytes that the pieces of a string stand for. A unit of the upper surrogate half and one of
the lower half right after it stand for one code point; apart from that such units stand for
nothing. -/
def spell : List Piece → Option (List UInt8)
  | [] => some []
  | .byte b :: ps => (spell ps).map (b :: ·)
  | .unit n :: ps =>
    if n < 0xd800 ∨ 0xdfff < n then (spell ps).map (codeBytes n ++ ·)
    else if 0xdbff < n then none
    else match ps with
      | .unit m :: ps =>
        if 0xdc00 ≤ m ∧ m ≤ 0xdfff then
          (spell ps).map (codeBytes (0x10000 + (n - 0xd800) * 0x400 + (m - 0xdc00)) ++ ·)
        else none
      | _ => none

/-- The text that bytes stand for. -/
def utf8? (bs : List UInt8) : Option String :=
  String.fromUTF8? ⟨bs.toArray⟩

/-- A string behind its opening quote, with its content if that is text, and what follows. -/
def readString (bs : List UInt8) : Option (Option String × List UInt8) :=
  (lexString bs).map fun (ps, r) => ((spell ps).bind utf8?, r)

/-! ## Numbers -/

/-- Whether a byte is a decimal digit. -/
def isDigit (b : UInt8) : Bool :=
  0x30 ≤ b && b ≤ 0x39

/-- The value of decimal digits. -/
def digitsValue (ds : List UInt8) : Nat :=
  ds.foldl (fun n d => 10 * n + (d.toNat - 0x30)) 0

/-- A natural number rounded to a double: to fifty-three leading bits, ties to even. -/
def roundDouble (n : Nat) : Nat :=
  let ulp := Nat.pow 2 (Nat.log2 n + 1 - 53)
  let q := n / ulp
  let r := n % ulp
  if ulp < 2 * r ∨ (2 * r = ulp ∧ q % 2 = 1) then (q + 1) * ulp else q * ulp

/-- The digits of a number that its double is computed from, as many leading ones as a 64-bit
word can hold, and the number of digits left over. -/
def significand (ds : List UInt8) : Nat × Nat :=
  ds.foldl (fun (n, dropped) d =>
    let m := 10 * n + (d.toNat - 0x30)
    if dropped = 0 ∧ m < UInt64.size then (m, 0) else (n, dropped + 1)) (0, 0)

/-- Whether a number with the given digits before and behind its point and the given exponent is
too large for a double. -/
def overflows (whole fraction : List UInt8) (exponent : Int) : Bool :=
  let (w, dropped) := significand whole
  let (n, ignored) := if dropped = 0 then significand (whole ++ fraction) else (w, 0)
  let scale : Int :=
    if dropped = 0 then exponent - (fraction.length - ignored : Nat) else exponent + dropped
  n != 0 && (308 < scale ||
    (0 ≤ scale && Numeral.doubleBound ≤ roundDouble n * roundDouble (Nat.pow 10 scale.toNat)))

/-- The exponent of a number, if it has one, and what follows. -/
def lexExponent : List UInt8 → Option (Option Int × List UInt8)
  | e :: r =>
    if e = 0x65 ∨ e = 0x45 then
      let (negative, r) := match r with
        | 0x2b :: r => (false, r)
        | 0x2d :: r => (true, r)
        | r => (false, r)
      let ds := r.takeWhile isDigit
      let n : Int := digitsValue ds
      if ds.isEmpty then none else some (some (if negative then -n else n), r.dropWhile isDigit)
    else some (none, e :: r)
  | [] => some (none, [])

/-- The digits behind the point of a number, if it has one, and what follows. -/
def lexFraction : List UInt8 → Option (Option (List UInt8) × List UInt8)
  | 0x2e :: r =>
    let ds := r.takeWhile isDigit
    if ds.isEmpty then none else some (some ds, r.dropWhile isDigit)
  | r => some (none, r)

/-- The digits before the point of a number and what follows. Zero stands alone. -/
def lexWhole (bs : List UInt8) : Option (List UInt8 × List UInt8) :=
  let ds := bs.takeWhile isDigit
  if ds.isEmpty ∨ (ds.head? = some 0x30 ∧ 1 < ds.length) then none
  else some (ds, bs.dropWhile isDigit)

/-- A number and what follows it. -/
def lexNumber (bs : List UInt8) : Option (Numeral × List UInt8) := do
  let (negative, r) := match bs with
    | 0x2d :: r => (true, r)
    | r => (false, r)
  let (whole, r) ← lexWhole r
  let (fraction, r) ← lexFraction r
  let (exponent, r) ← lexExponent r
  if ¬ negative ∧ fraction = none ∧ exponent = none then
    return (.natural (digitsValue whole), r)
  else
    return (.other (overflows whole (fraction.getD []) (exponent.getD 0)), r)

/-! ## Documents -/

mutual

/-- A document, behind blanks, and what follows it. Nothing follows a break. -/
def readValue : Nat → List UInt8 → Json × List UInt8
  | 0, _ => (.cut, [])
  | fuel + 1, bs =>
    match skipSpace bs with
    | 0x6e :: 0x75 :: 0x6c :: 0x6c :: r => (.null, r)
    | 0x74 :: 0x72 :: 0x75 :: 0x65 :: r => (.bool true, r)
    | 0x66 :: 0x61 :: 0x6c :: 0x73 :: 0x65 :: r => (.bool false, r)
    | 0x22 :: r =>
      match readString r with
      | some (s, r) => (.str s, r)
      | none => (.cut, [])
    | 0x5b :: r =>
      match skipSpace r with
      | 0x5d :: r => (.arr .nil, r)
      | r =>
        let (es, r) := readElements fuel r
        (.arr es, r)
    | 0x7b :: r =>
      match skipSpace r with
      | 0x7d :: r => (.obj .nil, r)
      | r =>
        let (ms, r) := readMembers fuel r
        (.obj ms, r)
    | r =>
      match lexNumber r with
      | some (n, r) => (.num n, r)
      | none => (.cut, [])

/-- One or more elements up to the closing bracket, and what follows it. -/
def readElements : Nat → List UInt8 → Elements × List UInt8
  | 0, _ => (.cut, [])
  | fuel + 1, bs =>
    let (v, r) := readValue fuel bs
    match skipSpace r with
    | 0x2c :: r =>
      let (es, r) := readElements fuel r
      (.cons v es, r)
    | 0x5d :: r => (.cons v .nil, r)
    | _ => (.cons v .cut, [])

/-- One or more members up to the closing brace, and what follows it. -/
def readMembers : Nat → List UInt8 → Members × List UInt8
  | 0, _ => (.cut, [])
  | fuel + 1, bs =>
    match skipSpace bs with
    | 0x22 :: r =>
      match readString r with
      | none => (.cut, [])
      | some (k, r) =>
        match skipSpace r with
        | 0x3a :: r =>
          let (v, r) := readValue fuel r
          match skipSpace r with
          | 0x2c :: r =>
            let (ms, r) := readMembers fuel r
            (.cons k v ms, r)
          | 0x7d :: r => (.cons k v .nil, r)
          | _ => (.cons k v .cut, [])
        | _ => (.cons k .cut .cut, [])
    | _ => (.cut, [])

end

/-- The document of a text, and whether nothing but blanks follows it. -/
def ofBytes (bs : List UInt8) : Json × Bool :=
  let (v, r) := readValue (2 * bs.length + 2) bs
  (v, (skipSpace r).isEmpty)

end MergeTurn.Json
