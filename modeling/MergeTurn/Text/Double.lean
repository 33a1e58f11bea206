set_option autoImplicit false

/-!
# Whole numbers as doubles

A whole number that is handed on as a double keeps 53 bits. It is written with the fewest digits
that tell it from other doubles: up to sixteen digits positionally with one decimal place, and
otherwise with an exponent of ten.

## Main definitions

* `MergeTurn.Text.nearestDouble` — the double nearest to a whole number.
* `MergeTurn.Text.shortestDigits` — the fewest digits that tell a whole double from others.
* `MergeTurn.Text.doubleText` — the text of a whole number as a double.
-/

namespace MergeTurn.Text

/-- The step between the doubles around a whole number. -/
def doubleStep (n : Nat) : Nat :=
  Nat.pow 2 (n.log2 - 52)

/-- The double nearest to a whole number, of two the one with an even number of steps. -/
def nearestDouble (n : Nat) : Nat :=
  let step := doubleStep n
  let q := n / step
  let rest := 2 * (n % step)
  (if step < rest ∨ (rest = step ∧ q % 2 = 1) then q + 1 else q) * step

/-- The multiple of a power of ten that is nearest to a whole number, as the multiplier. -/
def roundTo (power n : Nat) : Nat :=
  (2 * n + power) / (2 * power)

/-- The fewest leading digits that tell a whole double from others, and the power of ten that they
are multiplied by, tried from a number of dropped digits downwards. -/
def shortestFrom (v : Nat) : Nat → Nat × Nat
  | 0 => (v, 0)
  | dropped + 1 =>
    let digits := roundTo (Nat.pow 10 (dropped + 1)) v
    if nearestDouble (digits * Nat.pow 10 (dropped + 1)) = v then (digits, dropped + 1)
    else shortestFrom v dropped

/-- The fewest digits that tell a whole double from others, and their power of ten. -/
def shortestDigits (v : Nat) : Nat × Nat :=
  shortestFrom v ((Nat.toDigits 10 v).length - 1)

/-- The text of a whole number as a double. -/
def doubleText (n : Nat) : String :=
  let v := nearestDouble n
  let (digits, power) := shortestDigits v
  let ds := Nat.toDigits 10 digits
  if v < Nat.pow 10 16 then String.ofList (ds ++ List.replicate power '0' ++ ['.', '0'])
  else
    let exponent := Nat.toDigits 10 (power + ds.length - 1)
    match ds with
    | [d] => String.ofList ([d, 'e'] ++ exponent)
    | d :: r =>
      let r := (r.reverse.dropWhile (· == '0')).reverse
      String.ofList (if r.isEmpty then [d, 'e'] ++ exponent else d :: '.' :: r ++ 'e' :: exponent)
    | [] => ""

example : doubleText 3 = "3.0" ∧ doubleText 0 = "0.0" ∧ doubleText 1200 = "1200.0" := by
  decide +kernel

example : doubleText (Nat.pow 10 16) = "1e16" ∧
    doubleText 18446744073709551615 = "1.8446744073709552e19" := by decide +kernel

end MergeTurn.Text
