import MergeTurn.Booking

set_option autoImplicit false

/-!
# Events

Whoever changes a lane, or learns that the checks of its head have ended, publishes an event.
Failed side effects are published too, so that somebody may notice.

## Main definitions

* `MergeTurn.LaneEvent` — a change of a lane.
* `MergeTurn.HeadChecks` — the end of the checks of a lane's head.
* `MergeTurn.DeliveryFailure` — a side effect that could not be delivered.
* `MergeTurn.Event` — all of these.
* `MergeTurn.Event.topic` — the topic that an event is published under.
-/

namespace MergeTurn

/-- The circumstances of a removal: whether the pull request was closed, and whether it was the
head of its lane. -/
structure Removal where
  closed : Bool
  headChanged : Bool
deriving DecidableEq, Repr

/-- A change of a lane. -/
inductive LaneEvent where
  /-- A booking was appended, at a place counted from zero. -/
  | added (lane : Lane) (booking : Booking) (place : Nat)
  | removed (lane : Lane) (booking : Booking) (removal : Removal)
deriving DecidableEq

/-- The checks of a lane's head have ended. -/
structure HeadChecks where
  lane : Lane
  number : PullNumber
  username : String
  commit : CommitId
  state : CheckState
deriving DecidableEq, Repr

/-- The kinds of side effects that can fail. -/
inductive Effect where
  | statusReport
  | notification
deriving DecidableEq, Repr

/-- A side effect that could not be delivered. Nobody repeats it. -/
structure DeliveryFailure where
  effect : Effect
  lane : Lane
  number : PullNumber
  error : String
deriving DecidableEq, Repr

/-- Everything that is published. -/
inductive Event where
  | lane (event : LaneEvent)
  | checks (event : HeadChecks)
  | failed (event : DeliveryFailure)
deriving DecidableEq

/-- The word for a kind of side effect. -/
def Effect.word : Effect → String
  | .statusReport => "status_report"
  | .notification => "notification"

/-- The kinds of side effects by their words. -/
def Effect.words : List (String × Effect) :=
  [.statusReport, .notification].map fun e => (e.word, e)

/-- The topic of a booking. -/
def addedTopic : String := "item.add"

/-- The topic of a removal. -/
def removedTopic : String := "item.remove"

/-- The topic of ended checks. -/
def checksTopic : String := "head.checks.completed"

/-- The topic of a side effect that could not be delivered. -/
def Effect.failureTopic : Effect → String
  | .statusReport => "status.report.ko"
  | .notification => "notification.sent.ko"

namespace LaneEvent

/-- The topic that a change is published under. -/
def topic : LaneEvent → String
  | .added .. => addedTopic
  | .removed .. => removedTopic

/-- The lane that changed. -/
def lane : LaneEvent → Lane
  | .added l .. => l
  | .removed l .. => l

/-- The booking that was added or removed. -/
def booking : LaneEvent → Booking
  | .added _ b _ => b
  | .removed _ b _ => b

end LaneEvent

/-- The topic that an event is published under. -/
def Event.topic : Event → String
  | .lane e => e.topic
  | .checks _ => checksTopic
  | .failed f => f.effect.failureTopic

end MergeTurn
