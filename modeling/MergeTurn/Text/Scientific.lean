import MergeTurn.Text.Decimal

set_option autoImplicit false

/-!
# Doubles in text

A double is given in decimal digits with an optional sign, an optional point and an optional
exponent of ten, or by a word for what is no finite number. The words may be in any letter case.

## Main definitions

* `MergeTurn.Text.integer?` — the whole number that digits with an optional sign stand for.
* `MergeTurn.Text.decimal?` — the digits and the exponent of ten of a number without a sign.
* `MergeTurn.Text.double?` — the double nearest to what a text stands for.
-/

namespace MergeTurn.Text

/-- The whole number that digits with an optional sign stand for. -/
def integer? : List Char → Option Int
  | '-' :: r => (natural? r).map fun n => -(n : Int)
  | '+' :: r => (natural? r).map fun n => (n : Int)
  | r => (natural? r).map fun n => (n : Int)

/-- Whether a character announces an exponent. -/
def isExponentMark (c : Char) : Bool :=
  c == 'e' || c == 'E'

/-- The number without its point, and the exponent of ten that it is multiplied by. There is at
least one digit before the exponent. -/
def decimal? (cs : List Char) : Option (Nat × Int) := do
  let digits := cs.takeWhile fun c => !isExponentMark c
  let exponent ← match cs.dropWhile fun c => !isExponentMark c with
    | [] => some 0
    | _ :: r => integer? r
  let whole := digits.takeWhile (· != '.')
  let fraction := (digits.dropWhile (· != '.')).drop 1
  return (← natural? (whole ++ fraction), exponent - fraction.length)

/-- The absolute value of the double nearest to what a text without a sign stands for. -/
def magnitude? (cs : List Char) : Option Float :=
  match String.ofList (cs.map Char.toLower) with
  | "inf" | "infinity" => some (1 / 0)
  | "nan" => some (0 / 0)
  | _ => (decimal? cs).map fun (n, exponent) =>
    Float.ofScientific n (exponent < 0) exponent.natAbs

/-- The double nearest to what a text stands for. -/
def double? (s : String) : Option Float :=
  match s.toList with
  | '-' :: r => (magnitude? r).map fun x => -x
  | '+' :: r => magnitude? r
  | r => magnitude? r

example : decimal? "12.50".toList = some (1250, -2) ∧ decimal? ".5e3".toList = some (5, 2) ∧
    decimal? "2E-3".toList = some (2, -3) ∧ decimal? ".".toList = none ∧
    decimal? "1e".toList = none ∧ decimal? "1.2.3".toList = none := by decide

end MergeTurn.Text
