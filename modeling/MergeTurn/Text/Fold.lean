import MergeTurn.Text.Search

set_option autoImplicit false

/-!
# Searching a message for a marker

The texts of failed calls are searched for lower-case ASCII markers whatever the letter case of
the text. A character outside ASCII can take part in such a match only if its lower-case form
holds an ASCII letter, and just two do: the Kelvin sign and the capital I with a dot.

## Main definitions

* `MergeTurn.Text.foldChar` — the lower-case form of a character, as far as ASCII letters go.
* `MergeTurn.Text.fold` — the same for a text.
* `MergeTurn.Text.mentions` — whether a text contains a marker, letter case aside.

## Main results

* `MergeTurn.Text.mentions_iff` — a marker is mentioned exactly when it is an infix of the folded
  text.
-/

namespace MergeTurn.Text

/-- The lower-case form of a character. Characters outside ASCII whose lower-case form holds no
ASCII letter are left as they are: they match no marker in either case. -/
def foldChar (c : Char) : List Char :=
  if c = '\u212a' then ['k']
  else if c = '\u0130' then ['i', '\u0307']
  else [c.toLower]

/-- The lower-case form of a text, as far as ASCII letters go. -/
def fold (s : String) : List Char :=
  s.toList.flatMap foldChar

/-- Whether a text contains a lower-case marker, letter case aside. -/
def mentions (s marker : String) : Bool :=
  contains marker.toList (fold s)

theorem mentions_iff (s marker : String) :
    mentions s marker = true ↔ marker.toList <:+: fold s :=
  contains_iff _ _

example : mentions "Request TIMED OUT" "timed out" ∧ ¬ mentions "Rate  limit" "rate limit" := by
  decide

end MergeTurn.Text
