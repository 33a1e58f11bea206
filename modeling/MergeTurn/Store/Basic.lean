import MergeTurn.Booking

set_option autoImplicit false

/-!
# Stores

The desk keeps its books in a store of named lists of bookings and named sets of pull requests.
Each primitive works on one list or one set. Lists and sets that were never written are empty.

## Main definitions

* `MergeTurn.StoreError` — why a store refuses a call.
* `MergeTurn.Store` — the primitives.

## Design

A primitive answers with the store afterwards even when it fails or only reads, since a store may
keep accounts of its calls.
-/

namespace MergeTurn

/-- Why a store refuses a call. -/
inductive StoreError where
  /-- The store cannot be reached. -/
  | unavailable (reason : String)
  /-- Its file cannot be read or written. -/
  | file
  /-- Its file does not hold what a store writes. -/
  | content
  /-- Its file was written in another version of the form. -/
  | version (expected got : UInt32)
deriving DecidableEq, Repr

namespace StoreError

/-- The message of a store's error. -/
def message : StoreError → String
  | .unavailable reason => "queue store unavailable: " ++ reason
  | .file => "IO error: the file cannot be accessed"
  | .content => "JSON error: the file is not a snapshot"
  | .version expected got =>
    "schema version mismatch: expected " ++ toString expected.toNat ++
      ", got " ++ toString got.toNat

/-- Whether an error means that the store cannot be reached. -/
def isUnavailable : StoreError → Bool
  | .unavailable _ => true
  | _ => false

end StoreError

/-- The primitives of a store. Lists go by the names of lanes, sets by the names of repositories. -/
class Store (σ : Type) where
  /-- Whether a pull request is in a set. -/
  isMember : String → PullNumber → σ → Except StoreError Bool × σ
  /-- Puts a pull request into a set. -/
  addMember : String → PullNumber → σ → Except StoreError Unit × σ
  /-- Takes a pull request out of a set. -/
  removeMember : String → PullNumber → σ → Except StoreError Unit × σ
  /-- Puts a booking at the end of a list and answers its new length. -/
  append : String → Booking → σ → Except StoreError Nat × σ
  /-- Takes the first booking of a pull request out of a list, and answers whether there was one. -/
  removeFirst : String → PullNumber → σ → Except StoreError Bool × σ
  /-- The bookings at the front of a list, or all of them. -/
  readRange : String → Option Nat → σ → Except StoreError (List Booking) × σ
  /-- The length of a list. -/
  length : String → σ → Except StoreError Nat × σ

end MergeTurn
