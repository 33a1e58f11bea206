import MergeTurn.Store.Basic

set_option autoImplicit false

/-!
# Stores that fail on demand

A store can be put behind a plan that says, for each of its primitives, which of the next calls
fail. A call that fails never reaches the store.

## Main definitions

* `MergeTurn.Primitive` — the primitives by name.
* `MergeTurn.StoreFault` — ways to fail.
* `MergeTurn.Faulty` — a store behind a plan.
* `MergeTurn.Faulty.plan` — a plan with more to come for one primitive.
-/

namespace MergeTurn

/-- The primitives of a store. -/
inductive Primitive where
  | isMember
  | addMember
  | removeMember
  | append
  | removeFirst
  | readRange
  | length
deriving DecidableEq, Repr

/-- The name of a primitive. -/
def Primitive.name : Primitive → String
  | .isMember => "is_member"
  | .addMember => "add_member"
  | .removeMember => "remove_member"
  | .append => "append"
  | .removeFirst => "remove_first_match"
  | .readRange => "read_range"
  | .length => "length"

/-- The primitives by name. -/
def Primitive.names : List (String × Primitive) :=
  [.isMember, .addMember, .removeMember, .append, .removeFirst, .readRange, .length].map
    fun p => (p.name, p)

/-- Ways to fail. -/
inductive StoreFault where
  | unavailable
  | version
  /-- Only for the removal of a booking, which then finds none. -/
  | denial
deriving DecidableEq, Repr

/-- The faults by name. -/
def StoreFault.names : List (String × StoreFault) :=
  [("unavailable", .unavailable), ("schema", .version), ("false", .denial)]

/-- The error that a fault of a primitive raises, if it raises one. -/
def StoreFault.error? (p : Primitive) : StoreFault → Option StoreError
  | .unavailable => some (.unavailable ("injected " ++ p.name))
  | .version => some (.version 1 9)
  | .denial => none

/-- A store behind a plan: for each primitive the fates of its next calls, where a call without a
fault passes. Calls beyond the plan pass too. -/
structure Faulty (σ : Type) where
  inner : σ
  fates : Primitive → List (Option StoreFault)

namespace Faulty

variable {σ : Type}

/-- A store with nothing planned. -/
def healthy (s : σ) : Faulty σ := ⟨s, fun _ => []⟩

/-- The plan with more fates for a primitive: some passes, then a fault some number of times. -/
def plan (p : Primitive) (passes times : Nat) (fault : StoreFault) (s : Faulty σ) : Faulty σ :=
  { s with
    fates := fun q =>
      if q = p then s.fates p ++ List.replicate passes none ++ List.replicate times (some fault)
      else s.fates q }

/-- The fate of the next call of a primitive, and the store with that fate used up. -/
def fate (p : Primitive) (s : Faulty σ) : Option StoreFault × Faulty σ :=
  match s.fates p with
  | [] => (none, s)
  | f :: rest => (f, { s with fates := fun q => if q = p then rest else s.fates q })

/-- A call of a primitive. A fault that raises no error lets the call pass. -/
def call {α : Type} (p : Primitive) (op : σ → Except StoreError α × σ) (s : Faulty σ) :
    Except StoreError α × Faulty σ :=
  let (fault, s) := s.fate p
  match fault.bind (StoreFault.error? p) with
  | some e => (.error e, s)
  | none =>
    let (answer, inner) := op s.inner
    (answer, { s with inner })

instance [Store σ] : Store (Faulty σ) where
  isMember scope n := call .isMember (Store.isMember scope n)
  addMember scope n := call .addMember (Store.addMember scope n)
  removeMember scope n := call .removeMember (Store.removeMember scope n)
  append key b := call .append (Store.append key b)
  removeFirst key n s :=
    if (s.fate .removeFirst).1 = some .denial then (.ok false, (s.fate .removeFirst).2)
    else call .removeFirst (Store.removeFirst key n) s
  readRange key limit := call .readRange (Store.readRange key limit)
  length key := call .length (Store.length key)

end Faulty

end MergeTurn
