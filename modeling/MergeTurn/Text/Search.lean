set_option autoImplicit false

/-!
# Pieces of a text

## Main definitions

* `MergeTurn.Text.contains` — whether a piece stands somewhere in a text.
* `MergeTurn.Text.suffixFrom?` — the text from the first occurrence of a piece on.

## Main results

* `MergeTurn.Text.contains_iff` — a piece is contained exactly when it is an infix.
* `MergeTurn.Text.isSome_suffixFrom?` — there is a first occurrence exactly when there is one.
-/

namespace MergeTurn.Text

/-- Whether a piece stands at the beginning of a text or anywhere later. -/
def contains (piece : List Char) : List Char → Bool
  | [] => piece.isEmpty
  | c :: r => piece.isPrefixOf (c :: r) || contains piece r

theorem contains_iff (piece text : List Char) : contains piece text = true ↔ piece <:+: text := by
  induction text with
  | nil => simp [contains]
  | cons c r ih =>
    rw [contains, Bool.or_eq_true, List.isPrefixOf_iff_prefix, ih, List.infix_cons_iff]

/-- What follows the first occurrence of a piece, with the piece. -/
def suffixFrom? (piece : List Char) : List Char → Option (List Char)
  | [] => if piece.isEmpty then some [] else none
  | c :: r => if piece.isPrefixOf (c :: r) then some (c :: r) else suffixFrom? piece r

theorem isSome_suffixFrom? (piece text : List Char) :
    (suffixFrom? piece text).isSome = contains piece text := by
  induction text with
  | nil => cases h : piece.isEmpty <;> simp [suffixFrom?, contains, h]
  | cons c r ih => cases h : piece.isPrefixOf (c :: r) <;> simp [suffixFrom?, contains, h, ih]

end MergeTurn.Text
