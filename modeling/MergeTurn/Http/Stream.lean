import MergeTurn.Feed
import MergeTurn.Wire.Basic

set_option autoImplicit false

/-!
# Event streams

Who watches a lane gets an event with its content at once, and another for each snapshot of it from
the feed. When there is nothing to send for a while, an empty frame shows that the stream is alive.

## Main definitions

* `MergeTurn.Http.Stream` — a stream of the snapshots of one lane.
* `MergeTurn.Http.Stream.poll` — the frames that are ready.
-/

namespace MergeTurn

/-- The snapshots that a receiver has not got and can still get, and the feed afterwards. The fuel
is the number of things that are received at most. -/
def Feed.catchUp (receiver : Nat) : Nat → Feed → List LaneSnapshot × Feed
  | 0, f => ([], f)
  | n + 1, f =>
    match f.receive receiver with
    | some (.snapshot s, f) =>
      let (rest, f) := catchUp receiver n f
      (s :: rest, f)
    | some (.lagged _, f) => catchUp receiver n f
    | some (.nothing, f) => ([], f)
    | none => ([], f)

namespace Http

/-- An event of a stream. -/
structure ServerEvent where
  name : String
  data : Json

/-- What is sent at once: the events in it, or none in a frame that only shows life. -/
abbrev Frame := List ServerEvent

/-- The name of the events with snapshots. -/
def snapshotEvent : String := "snapshot"

/-- The document of a snapshot. -/
def encodeSnapshot (s : LaneSnapshot) : Json :=
  Json.object [("key", Wire.encodeLane s.lane), ("items", Json.array Wire.encodeBooking s.bookings)]

/-- The frame of a snapshot. -/
def snapshotFrame (s : LaneSnapshot) : Frame :=
  [⟨snapshotEvent, encodeSnapshot s⟩]

/-- A stream of the snapshots of one lane. -/
structure Stream where
  lane : Lane
  /-- Its number among the receivers of the feed, while it is one. -/
  receiver : Option Nat
  /-- What is sent before anything from the feed. -/
  waiting : List LaneSnapshot
  /-- The time from which on nothing was sent. -/
  quietSince : Nat
  ended : Bool

namespace Stream

/-- For how many milliseconds nothing is sent before an empty frame is. -/
def patience : Nat := 15000

/-- The snapshots of the lane that the stream has not sent, and the feed and the stream without
them. -/
def take (s : Stream) (f : Feed) : List LaneSnapshot × Stream × Feed :=
  match s.receiver with
  | none => (s.waiting, { s with waiting := [] }, f)
  | some receiver =>
    let (news, f) := f.catchUp receiver (f.kept.length + 2)
    (s.waiting ++ news.filter (·.lane == s.lane), { s with waiting := [] }, f)

/-- The frames that are ready at a time, unless the stream has ended. -/
def poll (now : Nat) (s : Stream) (f : Feed) : Option (List Frame) × Stream × Feed :=
  if s.ended then (none, s, f)
  else
    let (snapshots, s, f) := s.take f
    if !snapshots.isEmpty then (some (snapshots.map snapshotFrame), { s with quietSince := now }, f)
    else if s.quietSince + patience ≤ now then (some [[]], { s with quietSince := now }, f)
    else (some [], s, f)

/-- A stream that keeps what it can still get, and leaves the feed. -/
def detach (s : Stream) (f : Feed) : Stream :=
  let (snapshots, s, _) := s.take f
  { s with waiting := snapshots, receiver := none }

end Stream

end Http

end MergeTurn
