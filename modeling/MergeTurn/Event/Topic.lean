set_option autoImplicit false

/-!
# Topic patterns

A topic is a list of segments between dots. A subscriber gives a pattern of the same form, in
which `*` stands for any one segment and `**` for all that is left.

## Main definitions

* `MergeTurn.Topic.segments` — the segments of a topic or a pattern.
* `MergeTurn.Topic.accepts` — whether a topic matches a pattern.
-/

namespace MergeTurn.Topic

/-- The pieces between the dots of a text. An empty text is one empty piece. -/
def pieces : List Char → List (List Char)
  | [] => [[]]
  | c :: r =>
    if c = '.' then [] :: pieces r
    else match pieces r with
      | p :: ps => (c :: p) :: ps
      | [] => [[c]]

/-- The segments of a topic or a pattern. -/
def segments (s : String) : List (List Char) :=
  pieces s.toList

/-- Whether the segments of a topic match those of a pattern. -/
def segmentsMatch : List (List Char) → List (List Char) → Bool
  | p :: ps, ts =>
    if p = ['*', '*'] then true
    else match ts with
      | t :: ts => (p = ['*'] || p = t) && segmentsMatch ps ts
      | [] => false
  | [], ts => ts.isEmpty

/-- Whether a topic matches a pattern. -/
def accepts (pattern topic : String) : Bool :=
  segmentsMatch (segments pattern) (segments topic)

example : Topic.accepts "item.*" "item.add" ∧ Topic.accepts "**" "" ∧
    ¬ Topic.accepts "item" "item.add" := by decide

end MergeTurn.Topic
