import MergeTurn.Json.Reader

set_option autoImplicit false

/-!
# Reading values out of documents

Typed readers walk a document in the order written and stop at its first fault, which is either a
fault of the text or a value of the wrong shape.

## Main definitions

* `MergeTurn.Json.Fault` — why a text is refused.
* `MergeTurn.Json.Field` — a member that a record reads.
* `MergeTurn.Json.readRecord` — the known members of an object, or the elements of an array in
  the order of the fields.
* `MergeTurn.Json.readTagged` — a record of one of several shapes, named by one of its members.
* `MergeTurn.Json.decode` — a value from a text.

## Design

A record is read in two steps. The first walks the members and checks each known one where it
stands: a second value for a field is refused before it is looked at, and the values of unknown
members only have to be JSON. The second step takes the fields from what was found, and can only
fail for a field that is missing.
-/

namespace MergeTurn

/-- Whether a number is too large for a double. -/
def Numeral.tooLarge : Numeral → Bool
  | .natural n => doubleBound ≤ n
  | .other overflows => overflows

namespace Json

/-- Why a text is refused. -/
inductive Fault where
  /-- The text is not JSON, or holds something that no value can hold. -/
  | notJson
  /-- The text is JSON, but says something else than was asked for. -/
  | wrongShape
deriving DecidableEq

/-- The fault of a document that is not of the kind asked for. A scalar is read before it is
refused, so that a fault in its text comes first. -/
def mismatch : Json → Fault
  | .cut => .notJson
  | .str none => .notJson
  | .num n => if n.tooLarge then .notJson else .wrongShape
  | _ => .wrongShape

/-- A natural number below a bound. -/
def readNat (bound : Nat) : Json → Except Fault Nat
  | .num (.natural n) => if n < bound then .ok n else .error (mismatch (.num (.natural n)))
  | v => .error (mismatch v)

/-- A text. -/
def readText : Json → Except Fault String
  | .str (some s) => .ok s
  | v => .error (mismatch v)

/-- A truth value. -/
def readBool : Json → Except Fault Bool
  | .bool b => .ok b
  | v => .error (mismatch v)

/-- A value or nothing. -/
def readOption {α : Type} (read : Json → Except Fault α) : Json → Except Fault (Option α)
  | .null => .ok none
  | v => (read v).map some

/-- The values of the elements of an array. -/
def Elements.read {α : Type} (read : Json → Except Fault α) : Elements → Except Fault (List α)
  | .nil => .ok []
  | .cut => .error .notJson
  | .cons v es => do
    let a ← read v
    let as ← es.read read
    return a :: as

/-- A list of values. -/
def readList {α : Type} (read : Json → Except Fault α) : Json → Except Fault (List α)
  | .arr es => es.read read
  | v => .error (mismatch v)

/-- The names and values of the members of an object. -/
def Members.readEntries {α : Type} (read : Json → Except Fault α) :
    Members → Except Fault (List (String × α))
  | .nil => .ok []
  | .cut => .error .notJson
  | .cons none _ _ => .error .notJson
  | .cons (some k) v ms => do
    let a ← read v
    let as ← ms.readEntries read
    return (k, a) :: as

/-- The entries of a dictionary, in the order written. -/
def readEntries {α : Type} (read : Json → Except Fault α) : Json → Except Fault (List (String × α))
  | .obj ms => ms.readEntries read
  | v => .error (mismatch v)

/-- One of several words, written as a text or as the name of the only member of an object, whose
value is then null. -/
def readWord {α : Type} (words : List (String × α)) : Json → Except Fault α
  | .str (some s) =>
    match words.lookup s with
    | some a => .ok a
    | none => .error .wrongShape
  | .obj (.cons (some s) v ms) =>
    match words.lookup s, v, ms with
    | none, _, _ => .error .wrongShape
    | some a, .null, .nil => .ok a
    | some _, .null, _ => .error .notJson
    | some _, v, _ => .error (mismatch v)
  | .obj _ => .error .notJson
  | v => .error (mismatch v)

/-- One of several words, written as a text. -/
def readName {α : Type} (words : List (String × α)) : Json → Except Fault α
  | .str (some s) =>
    match words.lookup s with
    | some a => .ok a
    | none => .error .wrongShape
  | v => .error (mismatch v)

/-! ## Records -/

/-- A member that a record reads: its name, how its value is read, and what it is taken for when
it is missing, if it may be. -/
structure Field (α : Type) where
  name : String
  read : Json → Except Fault α
  absent : Option α

/-- A member that must be there. -/
def required {α : Type} (name : String) (read : Json → Except Fault α) : Field α :=
  ⟨name, read, none⟩

/-- A member that may be missing or null. -/
def optional {α : Type} (name : String) (read : Json → Except Fault α) : Field (Option α) :=
  ⟨name, readOption read, some none⟩

/-- The name of a field and the check that its value can be read. -/
structure Slot where
  name : String
  check : Json → Except Fault Unit

/-- A field without the type of its values. -/
def Field.slot {α : Type} (f : Field α) : Slot :=
  ⟨f.name, fun v => (f.read v).map fun _ => ()⟩

/-- The values found for the fields of a record. -/
abbrev Row := List (String × Json)

/-- The value of a field in a row. -/
def Row.get {α : Type} (row : Row) (f : Field α) : Except Fault α :=
  match row.lookup f.name with
  | some v => f.read v
  | none =>
    match f.absent with
    | some a => .ok a
    | none => .error .wrongShape

/-- The slot of a given name. -/
def slot? (slots : List Slot) (name : String) : Option Slot :=
  slots.find? (·.name == name)

/-- The known members of an object, after those found before. -/
def Members.row (slots : List Slot) (found : Row) : Members → Except Fault Row
  | .nil => .ok found
  | .cut => .error .notJson
  | .cons none _ _ => .error .notJson
  | .cons (some k) v ms =>
    match slot? slots k with
    | none => if v.Whole then ms.row slots found else .error .notJson
    | some s =>
      if (found.lookup k).isSome then .error .wrongShape
      else do
        s.check v
        ms.row slots ((k, v) :: found)

/-- The elements of an array, one for each field in order. -/
def Elements.row : List Slot → Elements → Except Fault Row
  | [], .nil => .ok []
  | [], _ => .error .notJson
  | _ :: _, .nil => .error .wrongShape
  | _ :: _, .cut => .error .notJson
  | s :: slots, .cons v es => do
    s.check v
    let row ← es.row slots
    return (s.name, v) :: row

/-- A record, written as an object or as an array of exactly its fields. -/
def readRecord {α : Type} (slots : List Slot) (build : Row → Except Fault α) :
    Json → Except Fault α
  | .obj ms => ms.row slots [] >>= build
  | .arr es => es.row slots >>= build
  | v => .error (mismatch v)

/-! ## Tagged records -/

mutual

/-- Whether a document can be held without knowing what it is for: all its strings are text, its
numbers fit a double and it is not nested deeper than there is room. -/
def Holdable (room : Nat) : Json → Bool
  | .num n => !n.tooLarge
  | .str none => false
  | .arr es => 0 < room && es.Holdable (room - 1)
  | .obj ms => 0 < room && ms.Holdable (room - 1)
  | .cut => false
  | _ => true

/-- Whether all elements can be held. -/
def Elements.Holdable (room : Nat) : Elements → Bool
  | .nil => true
  | .cut => false
  | .cons v es => v.Holdable room && es.Holdable room

/-- Whether all members can be held. -/
def Members.Holdable (room : Nat) : Members → Bool
  | .nil => true
  | .cut => false
  | .cons k v ms => k.isSome && v.Holdable room && ms.Holdable room

end

/-- How deep the members of a tagged record may be nested. -/
def holdingRoom : Nat := 126

/-- The tag of an object and its other members, which are all held before the tag is known. -/
def Members.splitTag {α : Type} (tag : String) (readTag : Json → Except Fault α)
    (found : Option α) : Members → Except Fault (α × Members)
  | .nil =>
    match found with
    | some a => .ok (a, .nil)
    | none => .error .wrongShape
  | .cut => .error .notJson
  | .cons none _ _ => .error .notJson
  | .cons (some k) v ms =>
    if k = tag then
      if found.isSome then .error .wrongShape
      else do
        let a ← readTag v
        ms.splitTag tag readTag (some a)
    else if v.Holdable holdingRoom then do
      let (a, rest) ← ms.splitTag tag readTag found
      return (a, .cons (some k) v rest)
    else .error .notJson

/-- A record of one of several shapes. An object names its shape in the member `tag`, wherever
that stands; an array names it in its first element. -/
def readTagged {α β : Type} (tag : String) (shapes : List (String × α))
    (readBody : α → Json → Except Fault β) : Json → Except Fault β
  | .obj ms => do
    let (a, rest) ← ms.splitTag tag (readName shapes) none
    readBody a (.obj rest)
  | .arr (.cons v es) => do
    let a ← readName shapes v
    if es.Holdable holdingRoom then readBody a (.arr es) else .error .notJson
  | .arr .nil => .error .wrongShape
  | .arr .cut => .error .notJson
  | v => .error (mismatch v)

/-! ## Texts -/

/-- A value from a text that holds nothing else. -/
def decode {α : Type} (read : Json → Except Fault α) (bs : List UInt8) : Except Fault α :=
  let (v, ends) := ofBytes bs
  match read v with
  | .error e => .error e
  | .ok a => if ends then .ok a else .error .notJson

/-- Whether bytes are a document that can be held, and nothing else. -/
def isDocument (bs : List UInt8) : Bool :=
  (ofBytes bs).1.Holdable (holdingRoom + 1) && (ofBytes bs).2

end Json

end MergeTurn
