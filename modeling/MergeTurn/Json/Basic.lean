set_option autoImplicit false

/-!
# JSON documents

A document is kept as a tree that says what its text says, as far as anybody reads it: strings
are decoded, the order and repetition of members is kept, and blanks and the choice of escapes
are gone. A text may also stop being JSON somewhere. The tree then breaks off there, so that
whoever reads it in order finds the first fault of the text first.

## Main definitions

* `MergeTurn.Numeral` — a number as written.
* `MergeTurn.Json`, `MergeTurn.Json.Elements`, `MergeTurn.Json.Members` — documents.
* `MergeTurn.Json.Whole` — the documents that do not break off.
* `MergeTurn.Json.Plain` — the documents that have a text of their own.

## Design

Elements and members are lists of their own, not `List`s, since they may end in a break. A string
without a content is one whose escapes or bytes stand for no text: it may be passed over, but it
cannot be read.
-/

namespace MergeTurn

/-- A number as written. Only naturals are ever read; of the others it matters whether a double
can hold them. -/
inductive Numeral where
  /-- Digits only. -/
  | natural (n : Nat)
  /-- A number with a sign, a fraction or an exponent. -/
  | other (overflows : Bool)
deriving DecidableEq

/-- The least natural number that no double can hold: half a place beyond the greatest double. -/
def Numeral.doubleBound : Nat :=
  Nat.pow 2 1024 - Nat.pow 2 970

mutual

/-- A document, or what can be read of one. -/
inductive Json where
  | null
  | bool (b : Bool)
  | num (n : Numeral)
  /-- A string, with its content unless that stands for no text. -/
  | str (content : Option String)
  | arr (elements : Json.Elements)
  | obj (members : Json.Members)
  /-- The text is not JSON from here on. -/
  | cut

/-- The elements of an array. -/
inductive Json.Elements where
  | nil
  /-- The array breaks off between two elements. -/
  | cut
  | cons (head : Json) (tail : Json.Elements)

/-- The members of an object, in the order written. -/
inductive Json.Members where
  | nil
  /-- The object breaks off between two members. -/
  | cut
  | cons (key : Option String) (value : Json) (tail : Json.Members)

end

instance : Inhabited Json := ⟨.null⟩

namespace Json

mutual

/-- Whether a document is JSON to its end. -/
def Whole : Json → Bool
  | .arr es => es.Whole
  | .obj ms => ms.Whole
  | .cut => false
  | _ => true

/-- Whether an array is JSON to its end. -/
def Elements.Whole : Elements → Bool
  | .nil => true
  | .cut => false
  | .cons v es => v.Whole && es.Whole

/-- Whether an object is JSON to its end. A key that stands for no text is passed over like any
other string. -/
def Members.Whole : Members → Bool
  | .nil => true
  | .cut => false
  | .cons _ v ms => v.Whole && ms.Whole

end

mutual

/-- Whether a document has a text of its own: it does not break off, its strings are text and its
numbers naturals. -/
def Plain : Json → Bool
  | .num (.other _) => false
  | .str none => false
  | .arr es => es.Plain
  | .obj ms => ms.Plain
  | .cut => false
  | _ => true

/-- Whether every element has a text of its own. -/
def Elements.Plain : Elements → Bool
  | .nil => true
  | .cut => false
  | .cons v es => v.Plain && es.Plain

/-- Whether every member has a text of its own. -/
def Members.Plain : Members → Bool
  | .nil => true
  | .cut => false
  | .cons k v ms => k.isSome && v.Plain && ms.Plain

end

/-- Elements from a list. -/
def Elements.ofList : List Json → Elements
  | [] => .nil
  | v :: vs => .cons v (ofList vs)

/-- Members from a list of names and values. -/
def Members.ofList : List (String × Json) → Members
  | [] => .nil
  | (k, v) :: ms => .cons (some k) v (ofList ms)

/-- The document of a text. -/
def text (s : String) : Json := .str (some s)

/-- The document of a natural number. -/
def nat (n : Nat) : Json := .num (.natural n)

/-- The document of a value that may be absent. -/
def option {α : Type} (f : α → Json) : Option α → Json
  | none => .null
  | some a => f a

/-- The array of a list. -/
def array {α : Type} (f : α → Json) (as : List α) : Json :=
  .arr (.ofList (as.map f))

/-- The object with the given members. -/
def object (ms : List (String × Json)) : Json :=
  .obj (.ofList ms)

@[simp] theorem plain_text (s : String) : (text s).Plain = true := rfl

@[simp] theorem plain_nat (n : Nat) : (nat n).Plain = true := rfl

theorem plain_option {α : Type} {f : α → Json} (h : ∀ a, (f a).Plain = true) (o : Option α) :
    (option f o).Plain = true := by
  cases o
  · rfl
  · exact h _

theorem Elements.plain_ofList {vs : List Json} (h : ∀ v ∈ vs, v.Plain = true) :
    (Elements.ofList vs).Plain = true := by
  induction vs with
  | nil => rfl
  | cons v vs ih => simp_all [ofList, Elements.Plain]

theorem Members.plain_ofList {ms : List (String × Json)} (h : ∀ m ∈ ms, m.2.Plain = true) :
    (Members.ofList ms).Plain = true := by
  induction ms with
  | nil => rfl
  | cons m ms ih => simp_all [ofList, Members.Plain]

theorem plain_array {α : Type} {f : α → Json} {as : List α} (h : ∀ a ∈ as, (f a).Plain = true) :
    (array f as).Plain = true :=
  Elements.plain_ofList (by simpa using h)

theorem plain_object {ms : List (String × Json)} (h : ∀ m ∈ ms, m.2.Plain = true) :
    (object ms).Plain = true :=
  Members.plain_ofList h

end Json

end MergeTurn
