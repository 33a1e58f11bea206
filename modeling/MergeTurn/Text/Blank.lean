set_option autoImplicit false

/-!
# Blank text

A setting or a name that holds nothing but blanks counts as absent. Blanks are the characters
with the Unicode property `White_Space`.

## Main definitions

* `MergeTurn.Text.isBlank` — whether a character is a blank.
* `MergeTurn.Text.isBlankText` — whether a text holds nothing but blanks.
-/

namespace MergeTurn.Text

/-- Whether a character has the Unicode property `White_Space`. -/
def isBlank (c : Char) : Bool :=
  let n := c.toNat
  (0x9 ≤ n && n ≤ 0xd) || n == 0x20 || n == 0x85 || n == 0xa0 || n == 0x1680 ||
    (0x2000 ≤ n && n ≤ 0x200a) || n == 0x2028 || n == 0x2029 || n == 0x202f || n == 0x205f ||
    n == 0x3000

/-- Whether a text holds nothing but blanks, so that trimming it leaves nothing. -/
def isBlankText (s : String) : Bool :=
  s.toList.all isBlank

theorem isBlankText_iff (s : String) : isBlankText s = true ↔ ∀ c ∈ s.toList, isBlank c = true := by
  simp [isBlankText]

/-- Blanks go beyond the ASCII ones, but the zero-width space is none. -/
example : isBlankText " \t\u00a0\u3000" ∧ ¬ isBlankText "\u200b" := by decide

end MergeTurn.Text
