import MergeTurn.Bus
import MergeTurn.Client
import MergeTurn.Registry

set_option autoImplicit false

/-!
# The state of the service

The service holds the books of the lanes, the registry of pull requests, what it has told people,
and the tasks that its own events have given it.

## Main definitions

* `MergeTurn.Handler`, `MergeTurn.wiring` — what listens to which events.
* `MergeTurn.Dispatch` — what people have been told, and are about to be.
* `MergeTurn.Ledger` — everything that was published and every call to a client.
* `MergeTurn.Service` — all of it.
* `MergeTurn.Service.publish` — publishing an event.

## Design

A task is a handler with the event that it is to handle. Tasks run in the order in which they came
about, one after the other, whenever the service has time for them. A task that waits for the clock
becomes an alarm.

Clients are given by their answers: the error of each call by its number, if it is to fail.

Alarms are numbered with natural numbers, and so are subscriptions. A word of 64 bits counts as far
as any service will ever get, so nothing is said of what happens when it is used up.
-/

namespace MergeTurn

/-- What listens to events. -/
inductive Handler where
  /-- Sets the status of a booked pull request. -/
  | labelAdded
  /-- Brings the statuses of a lane up to date after a removal. -/
  | labelRemoved
  /-- Notifies the head of a lane. -/
  | noticeHead
  /-- Notifies the head of a lane that its checks have ended. -/
  | noticeChecks
  /-- Counts changes and measures lanes. -/
  | measure
  /-- Shows the lane. -/
  | watch
deriving DecidableEq, Repr

/-- The subscriptions of the handlers. -/
def wiring : Bus Handler :=
  [(addedTopic, Handler.labelAdded), (removedTopic, .labelRemoved), (addedTopic, .noticeHead),
    (removedTopic, .noticeHead), (checksTopic, .noticeChecks), ("item.*", .measure),
    ("item.*", .watch)].foldl (fun b s => (b.subscribe s.1 s.2).2) Bus.empty

/-- The handlers of an event, in the order of their subscriptions. -/
def handlers (e : Event) : List Handler :=
  (wiring.audience e).map (·.handler)

@[simp] theorem handlers_added (l : Lane) (b : Booking) (n : Nat) :
    handlers (.lane (.added l b n)) = [.labelAdded, .noticeHead, .measure, .watch] := by
  have h : ∀ e : Event, e.topic = addedTopic →
      handlers e = [.labelAdded, .noticeHead, .measure, .watch] := by
    intro e he
    simp only [handlers, Bus.audience, he]
    decide
  exact h _ rfl

@[simp] theorem handlers_removed (l : Lane) (b : Booking) (r : Removal) :
    handlers (.lane (.removed l b r)) = [.labelRemoved, .noticeHead, .measure, .watch] := by
  have h : ∀ e : Event, e.topic = removedTopic →
      handlers e = [.labelRemoved, .noticeHead, .measure, .watch] := by
    intro e he
    simp only [handlers, Bus.audience, he]
    decide
  exact h _ rfl

@[simp] theorem handlers_checks (c : HeadChecks) : handlers (.checks c) = [.noticeChecks] := by
  have h : ∀ e : Event, e.topic = checksTopic → handlers e = [.noticeChecks] := by
    intro e he
    simp only [handlers, Bus.audience, he]
    decide
  exact h _ rfl

/-- Nobody acts on a side effect that could not be delivered. -/
@[simp] theorem handlers_failed (f : DeliveryFailure) : handlers (.failed f) = [] := by
  have h : ∀ (k : Effect) (e : Event), e.topic = k.failureTopic → handlers e = [] := by
    intro k e he
    simp only [handlers, Bus.audience, he]
    cases k <;> decide
  exact h f.effect _ rfl

/-- A handler with the event that it is to handle. -/
structure Task where
  handler : Handler
  event : Event
deriving DecidableEq

/-- A result of checks: on which commit of which pull request, and which. -/
structure Verdict where
  number : PullNumber
  commit : CommitId
  state : CheckState
deriving DecidableEq, Repr

/-- The result that ended checks had. -/
def HeadChecks.verdict (c : HeadChecks) : Verdict := ⟨c.number, c.commit, c.state⟩

/-- A task that waits to notify the head of a lane of its checks. -/
structure Alarm where
  /-- The time at which it goes on. -/
  due : Nat
  generation : Nat
  checks : HeadChecks
deriving DecidableEq

/-- What people have been told, and are about to be. -/
structure Dispatch where
  /-- The head of each lane that was notified last. -/
  heads : Std.ExtTreeMap Lane PullNumber
  /-- For each lane the generation of the alarm that waits for it. -/
  pending : Std.ExtTreeMap Lane Nat
  /-- The result of checks that was delivered last for each lane. -/
  delivered : Std.ExtTreeMap Lane Verdict
  nextGeneration : Nat

/-- Nothing told and nothing pending. -/
def Dispatch.empty : Dispatch := ⟨∅, ∅, ∅, 0⟩

/-- How the clients answer: the error of each call by its number, if it is to fail. -/
structure Clients where
  status : Nat → Option ClientError
  notice : Nat → Option ClientError
  watch : Nat → Option ClientError

/-- Clients that never fail. -/
def Clients.willing : Clients := ⟨fun _ => none, fun _ => none, fun _ => none⟩

/-- Everything that was published and every call to a client, in order. -/
structure Ledger where
  events : List Event
  reports : List (Attempt (StatusTarget × StatusReport))
  notices : List (Attempt Notice)
  metrics : List Metric
  snapshots : List (Attempt LaneSnapshot)

/-- An empty ledger. -/
def Ledger.empty : Ledger := ⟨[], [], [], [], []⟩

/-- What was entered in a ledger after it stood as an earlier one. -/
def Ledger.since (l earlier : Ledger) : Ledger :=
  ⟨l.events.drop earlier.events.length, l.reports.drop earlier.reports.length,
    l.notices.drop earlier.notices.length, l.metrics.drop earlier.metrics.length,
    l.snapshots.drop earlier.snapshots.length⟩

/-- What the service is told when it is set up. -/
structure Rules where
  /-- The context of the statuses that the service posts itself. -/
  context : String
  /-- For how many milliseconds a result of checks is held back. -/
  debounce : Nat
deriving DecidableEq, Repr

/-- The service, over a store. -/
structure Service (σ : Type) where
  rules : Rules
  clients : Clients
  store : σ
  registry : Registry
  dispatch : Dispatch
  feed : Feed
  /-- The tasks that can run, in order. -/
  tasks : List Task
  /-- The tasks that wait for the clock, in the order of their times. -/
  alarms : List Alarm
  /-- The time in milliseconds. -/
  now : Nat
  ledger : Ledger

namespace Service

variable {σ : Type}

/-- A service that has just been started. -/
def start (rules : Rules) (store : σ) (registry : Registry) (room : Nat) : Service σ :=
  ⟨rules, .willing, store, registry, .empty, .new room, [], [], 0, .empty⟩

/-- Publishes an event: it is entered in the ledger and becomes a task for each of its
handlers. -/
def publish (e : Event) (s : Service σ) : Service σ :=
  { s with
    tasks := s.tasks ++ (handlers e).map fun h => ⟨h, e⟩
    ledger := { s.ledger with events := s.ledger.events ++ [e] } }

/-- The number of those who hear of an event: its handlers and the ledger. -/
def listeners (e : Event) : Nat := (handlers e).length + 1

/-- Publishes changes of lanes in order. -/
def publishAll (es : List LaneEvent) (s : Service σ) : Service σ :=
  es.foldl (fun s e => s.publish (.lane e)) s

/-- An operation of the desk, with what it publishes. -/
def atDesk {α : Type} (op : σ → Turn σ α) (s : Service σ) : Except DeskError α × Service σ :=
  let turn := op s.store
  (turn.answer, { s with store := turn.store }.publishAll turn.published)

end Service

end MergeTurn
