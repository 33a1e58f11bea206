set_option autoImplicit false

/-!
# Natural numbers in text

Settings and addresses give natural numbers in decimal digits, with any number of leading zeros.

## Main definitions

* `MergeTurn.Text.natural?` — the number that digits stand for, in any base up to sixteen.
* `MergeTurn.Text.word?` — a number below a bound, after an optional plus sign.
-/

namespace MergeTurn.Text

/-- The value of ASCII decimal digits. -/
def digitsNat (ds : List Char) : Nat :=
  ds.foldl (fun n d => 10 * n + (d.toNat - '0'.toNat)) 0

/-- The number that a text of one or more ASCII decimal digits stands for. -/
def natural? (cs : List Char) : Option Nat :=
  if ¬ cs.isEmpty ∧ cs.all Char.isDigit then some (digitsNat cs) else none

/-- The number below a bound that a text stands for. It may begin with a plus sign. -/
def word? (bound : Nat) (s : String) : Option Nat :=
  let digits := match s.toList with
    | '+' :: r => r
    | r => r
  (natural? digits).filter (· < bound)

example : word? UInt64.size "+007" = some 7 ∧ word? UInt64.size "+" = none ∧
    word? UInt64.size " 5" = none ∧ word? UInt64.size "18446744073709551616" = none := by decide

end MergeTurn.Text
