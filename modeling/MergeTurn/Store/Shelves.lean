import MergeTurn.Booking

set_option autoImplicit false

/-!
# Shelves of lists and sets

What a store holds: named lists of bookings and named sets of pull requests. A list or set comes
into being when something is put into it, and goes when its last element does.

## Main definitions

* `MergeTurn.Shelves` — named lists and sets.
* `MergeTurn.Shelves.bookings`, `MergeTurn.Shelves.hasMember` — what is read from them.
* `MergeTurn.Shelves.addMember`, `removeMember`, `append`, `removeFirst` — how they change.
-/

namespace MergeTurn

/-- Named lists of bookings and named sets of pull requests. -/
structure Shelves where
  lists : Std.ExtTreeMap String (List Booking)
  sets : Std.ExtTreeMap String (Std.ExtTreeSet PullNumber)

namespace Shelves

/-- Shelves with nothing on them. -/
def empty : Shelves := ⟨∅, ∅⟩

/-- The list of a name. -/
def bookings (key : String) (s : Shelves) : List Booking :=
  s.lists.getD key []

/-- Whether a pull request is in the set of a name. -/
def hasMember (scope : String) (n : PullNumber) (s : Shelves) : Bool :=
  (s.sets.getD scope ∅).contains n

/-- The bookings at the front of a list, or all of them. -/
def front (key : String) (limit : Option Nat) (s : Shelves) : List Booking :=
  match limit with
  | none => s.bookings key
  | some n => (s.bookings key).take n

/-- The shelves with a pull request put into a set. -/
def addMember (scope : String) (n : PullNumber) (s : Shelves) : Shelves :=
  { s with sets := s.sets.insert scope ((s.sets.getD scope ∅).insert n) }

/-- The shelves with a pull request taken out of a set. -/
def removeMember (scope : String) (n : PullNumber) (s : Shelves) : Shelves :=
  match s.sets[scope]? with
  | none => s
  | some members =>
    let rest := members.erase n
    { s with sets := if rest.isEmpty then s.sets.erase scope else s.sets.insert scope rest }

/-- The shelves with a booking put at the end of a list. -/
def append (key : String) (b : Booking) (s : Shelves) : Shelves :=
  { s with lists := s.lists.insert key (s.bookings key ++ [b]) }

/-- The shelves with the first booking of a pull request taken out of a list. -/
def removeFirst (key : String) (n : PullNumber) (s : Shelves) : Shelves :=
  if (s.bookings key).any (·.number == n) then
    let rest := (s.bookings key).eraseP (·.number == n)
    { s with lists := if rest.isEmpty then s.lists.erase key else s.lists.insert key rest }
  else s

end Shelves

end MergeTurn
