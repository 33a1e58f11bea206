import MergeTurn.Text.Quoted

set_option autoImplicit false

/-!
# Bytes in hexadecimal

Digests travel as text, two hexadecimal digits a byte.

## Main definitions

* `MergeTurn.Text.digitValue?` — the value of a hexadecimal digit in either letter case.
* `MergeTurn.Text.hexEncode` — bytes written with lower-case digits.
* `MergeTurn.Text.hexDecode?` — the bytes that an even number of digits stands for.
-/

namespace MergeTurn.Text

/-- The value of a hexadecimal digit in either letter case. -/
def digitValue? (c : Char) : Option Nat :=
  if '0' ≤ c ∧ c ≤ '9' then some (c.toNat - '0'.toNat)
  else if 'a' ≤ c ∧ c ≤ 'f' then some (c.toNat - 'a'.toNat + 10)
  else if 'A' ≤ c ∧ c ≤ 'F' then some (c.toNat - 'A'.toNat + 10)
  else none

/-- The two lower-case digits of a byte, high one first. -/
def hexByte (b : UInt8) : List Char :=
  [hexDigit (b.toNat / 16), hexDigit (b.toNat % 16)]

/-- Bytes written with two lower-case digits each. -/
def hexEncode (bytes : List UInt8) : List Char :=
  bytes.flatMap hexByte

/-- The bytes that hexadecimal digits stand for. There is no answer for an odd number of digits
or for any other character. -/
def hexDecode? : List Char → Option (List UInt8)
  | [] => some []
  | [_] => none
  | high :: low :: r =>
    match digitValue? high, digitValue? low, hexDecode? r with
    | some h, some l, some bytes => some (UInt8.ofNat (16 * h + l) :: bytes)
    | _, _, _ => none

example : hexDecode? ['0', 'a', 'F', 'f'] = some [10, 255] := by decide
example : hexEncode [10, 255] = ['0', 'a', 'f', 'f'] := by decide

end MergeTurn.Text
