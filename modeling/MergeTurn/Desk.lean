import MergeTurn.Event
import MergeTurn.Store.Basic
import MergeTurn.Text.Blank

set_option autoImplicit false

/-!
# The booking desk

The desk alone writes the books of the lanes. It keeps two of them in step: the list of each lane,
and for each repository the set of pull requests that are in any of its lanes. Whatever it changes
it publishes, when the store has taken the change.

## Main definitions

* `MergeTurn.Turn` — what an operation of the desk answers, leaves and publishes.
* `MergeTurn.Desk.book`, `MergeTurn.Desk.unbook` — the operations that change a lane.
* `MergeTurn.Desk.bookings`, `first`, `length`, `position` — what can be asked about a lane.

## Design

The desk works with any store. It holds nothing itself, so its operations are functions of the
store.
-/

namespace MergeTurn

/-- Why the desk refuses an operation. -/
inductive DeskError where
  /-- The booking lacks something. -/
  | invalid (reason : String)
  | store (cause : StoreError)
deriving DecidableEq, Repr

namespace DeskError

/-- The message of an error of the desk. -/
def message : DeskError → String
  | .invalid reason => "invalid queue item: " ++ reason
  | .store cause => "store error: " ++ cause.message

/-- Whether an error means that the store cannot be reached. -/
def isUnavailable : DeskError → Bool
  | .invalid _ => false
  | .store cause => cause.isUnavailable

end DeskError

/-- What came of a booking. -/
inductive BookOutcome where
  /-- The booking was appended, at a place counted from zero. -/
  | added (place : Nat)
  /-- The pull request is in a lane of the repository already. -/
  | duplicate
deriving DecidableEq, Repr

/-- What came of a removal. -/
inductive UnbookOutcome where
  | removed (booking : Booking) (removal : Removal)
  /-- The pull request is not in the lane. -/
  | notBooked
deriving DecidableEq

/-- What an operation of the desk answers, the store that it leaves, and what it publishes. -/
structure Turn (σ α : Type) where
  answer : Except DeskError α
  store : σ
  published : List LaneEvent

namespace Turn

variable {σ α β : Type}

/-- An operation that failed. -/
def fail (e : DeskError) (s : σ) : Turn σ α := ⟨.error e, s, []⟩

/-- An operation that published nothing. -/
def done (a : α) (s : σ) : Turn σ α := ⟨.ok a, s, []⟩

/-- The turn of a call that only asks the store. -/
def ask (f : α → β) (call : Except StoreError α × σ) : Turn σ β :=
  match call with
  | (.ok a, s) => done (f a) s
  | (.error e, s) => fail (.store e) s

end Turn

/-- What is wrong with a booking, if anything. -/
def Booking.flaw? (b : Booking) : Option String :=
  if b.number.val = 0 then some "pull_request_number must be positive"
  else if Text.isBlankText b.username then some "username must not be empty"
  else none

namespace Desk

variable {σ : Type} [Store σ]

/-- Appends a booking to a lane, unless the pull request is in a lane of the repository already.
The repository's set is written before the lane's list; if the list cannot be written, the set is
put back. -/
def book (lane : Lane) (b : Booking) (s : σ) : Turn σ BookOutcome :=
  match b.flaw? with
  | some reason => .fail (.invalid reason) s
  | none =>
    match Store.isMember lane.repo.storeKey b.number s with
    | (.error e, s) => .fail (.store e) s
    | (.ok true, s) => .done .duplicate s
    | (.ok false, s) =>
      match Store.addMember lane.repo.storeKey b.number s with
      | (.error e, s) => .fail (.store e) s
      | (.ok (), s) =>
        match Store.append lane.storeKey b s with
        | (.error e, s) => .fail (.store e) (Store.removeMember lane.repo.storeKey b.number s).2
        | (.ok length, s) => ⟨.ok (.added (length - 1)), s, [.added lane b (length - 1)]⟩

/-- Takes a pull request out of a lane and out of its repository's set. A pull request that is in
no list of the lane is left alone, since it may be in another lane. -/
def unbook (lane : Lane) (n : PullNumber) (closed : Bool) (s : σ) : Turn σ UnbookOutcome :=
  match Store.readRange lane.storeKey none s with
  | (.error e, s) => .fail (.store e) s
  | (.ok bookings, s) =>
    match bookings.find? (·.number == n) with
    | none => .done .notBooked s
    | some b =>
      match Store.removeFirst lane.storeKey n s with
      | (.error e, s) => .fail (.store e) s
      | (.ok found, s) =>
        match Store.removeMember lane.repo.storeKey n s with
        | (.error e, s) => .fail (.store e) s
        | (.ok (), s) =>
          if found then
            let removal : Removal := ⟨closed, bookings.head?.any (·.number == n)⟩
            ⟨.ok (.removed b removal), s, [.removed lane b removal]⟩
          else .done .notBooked s

/-- The bookings of a lane, in order. -/
def bookings (lane : Lane) (s : σ) : Turn σ (List Booking) :=
  .ask id (Store.readRange lane.storeKey none s)

/-- The first bookings of a lane, at most a number of them. -/
def firstBookings (lane : Lane) (limit : Nat) (s : σ) : Turn σ (List Booking) :=
  .ask id (Store.readRange lane.storeKey (some limit) s)

/-- The head of a lane, if the lane is not empty. -/
def head (lane : Lane) (s : σ) : Turn σ (Option Booking) :=
  .ask List.head? (Store.readRange lane.storeKey (some 1) s)

/-- The length of a lane. -/
def length (lane : Lane) (s : σ) : Turn σ Nat :=
  .ask id (Store.length lane.storeKey s)

/-- The place of a pull request in a lane, counted from zero, if it is there. -/
def position (lane : Lane) (n : PullNumber) (s : σ) : Turn σ (Option Nat) :=
  .ask (·.findIdx? (·.number == n)) (Store.readRange lane.storeKey none s)

end Desk

end MergeTurn
