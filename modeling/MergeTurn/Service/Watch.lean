import MergeTurn.Service.Basic

set_option autoImplicit false

/-!
# Metrics and snapshots

Every change of a lane is counted, the lane is measured, and its content is shown to those who
watch it.

## Main definitions

* `MergeTurn.Service.measure` — counts a change and measures the lane.
* `MergeTurn.Service.showLane` — shows the lane.
-/

namespace MergeTurn

/-- The counter of bookings. -/
def addCounter : String := "queue.item.add"

/-- The counter of removals. -/
def removeCounter : String := "queue.item.remove"

/-- The gauge of the length of a lane. -/
def lengthGauge : String := "queue.length"

/-- The counter of a kind of change. -/
def LaneEvent.counter : LaneEvent → String
  | .added .. => addCounter
  | .removed .. => removeCounter

/-- The names that the metrics of a lane are filed under. -/
def Lane.tags (l : Lane) : Tags :=
  [("owner", l.repo.owner), ("repo", l.repo.name), ("branch", l.branch), ("queue", l.toText)]

namespace Service

variable {σ : Type}

/-- Enters a metric in the ledger. -/
def meter (m : Metric) (s : Service σ) : Service σ :=
  { s with ledger := { s.ledger with metrics := s.ledger.metrics ++ [m] } }

/-- Shows a snapshot of a lane to those who watch. -/
def showSnapshot (snapshot : LaneSnapshot) (s : Service σ) : Service σ :=
  let error := s.clients.watch s.ledger.snapshots.length
  let ledger := { s.ledger with snapshots := s.ledger.snapshots ++ [⟨snapshot, error⟩] }
  match error with
  | none => { s with ledger, feed := s.feed.send snapshot }
  | some _ => { s with ledger }

variable [Store σ]

/-- Counts a change and measures the lane as it is by now. -/
def measure (e : LaneEvent) (s : Service σ) : Service σ :=
  match (s.meter (.counter e.counter e.lane.tags)).atDesk (Desk.length e.lane) with
  | (.error _, s) => s
  | (.ok length, s) => s.meter (.gauge lengthGauge length e.lane.tags)

/-- Shows a lane as it is by now. -/
def showLane (lane : Lane) (s : Service σ) : Service σ :=
  match s.atDesk (Desk.bookings lane) with
  | (.error _, s) => s
  | (.ok bookings, s) => s.showSnapshot ⟨lane, bookings⟩

end Service

end MergeTurn
