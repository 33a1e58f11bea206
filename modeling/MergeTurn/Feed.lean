import MergeTurn.Booking

set_option autoImplicit false

/-!
# The feed of lanes

Whoever wants to watch lanes gets a snapshot of a lane whenever it changes. The feed keeps a number
of snapshots for those who are slow; who falls further behind goes on with the oldest one kept.
That loses nothing in the end, since each snapshot is complete.

## Main definitions

* `MergeTurn.LaneSnapshot` — the content of a lane at one moment.
* `MergeTurn.Feed` — the snapshots kept, and how far each receiver has come.
* `MergeTurn.Feed.subscribe`, `MergeTurn.Feed.send`, `MergeTurn.Feed.receive` — its operations.
-/

namespace MergeTurn

/-- The content of a lane at one moment. -/
structure LaneSnapshot where
  lane : Lane
  bookings : List Booking
deriving DecidableEq

/-- What a receiver gets. -/
inductive Received where
  | snapshot (s : LaneSnapshot)
  /-- The receiver was too slow and lost a number of snapshots. -/
  | lagged (lost : Nat)
  /-- There is nothing that the receiver has not got. -/
  | nothing
deriving DecidableEq

/-- Snapshots with the receivers that wait for them. -/
structure Feed where
  /-- The number of snapshots that are kept. -/
  room : Nat
  /-- The number of snapshots that were sent and are not kept any more. -/
  gone : Nat
  /-- The last snapshots, oldest first. -/
  kept : List LaneSnapshot
  /-- For each receiver, how many of the snapshots are behind it. Receivers that have left have no
  number. -/
  receivers : List (Option Nat)

namespace Feed

/-- The default room. -/
def defaultRoom : Nat := 256

/-- A feed without receivers. Its room is rounded up to a power of two. -/
def new (room : Nat) : Feed := ⟨room.nextPowerOfTwo, 0, [], []⟩

/-- The number of snapshots that were sent. -/
def sent (f : Feed) : Nat := f.gone + f.kept.length

/-- The number of receivers that have not left. -/
def receiverCount (f : Feed) : Nat := f.receivers.countP Option.isSome

/-- The feed with a new receiver, behind all that was sent before. Its number is the number of
receivers before it. -/
def subscribe (f : Feed) : Feed :=
  { f with receivers := f.receivers ++ [some f.sent] }

/-- The feed after a receiver has left. -/
def leave (receiver : Nat) (f : Feed) : Feed :=
  { f with receivers := f.receivers.set receiver none }

/-- The feed with a further snapshot. Without a receiver it is lost. -/
def send (s : LaneSnapshot) (f : Feed) : Feed :=
  if f.receiverCount = 0 then f
  else if f.kept.length < f.room then { f with kept := f.kept ++ [s] }
  else { f with gone := f.gone + 1, kept := f.kept.drop 1 ++ [s] }

/-- What a receiver gets next, and the feed afterwards. Nothing is known of a receiver that is not
there. -/
def receive (receiver : Nat) (f : Feed) : Option (Received × Feed) :=
  match f.receivers[receiver]? with
  | some (some next) =>
    if next < f.gone then
      some (.lagged (f.gone - next), { f with receivers := f.receivers.set receiver (some f.gone) })
    else
      match f.kept[next - f.gone]? with
      | none => some (.nothing, f)
      | some s =>
        some (.snapshot s, { f with receivers := f.receivers.set receiver (some (next + 1)) })
  | _ => none

end Feed

end MergeTurn
