import MergeTurn.Bus

set_option autoImplicit false

/-!
# Publishing and handling

An event that is published is handed to every subscription it matches. Each gets a task of its
own, and tasks run one after the other in the order in which they came about. A task may wait for
the clock; the others go on meanwhile.

## Main definitions

* `MergeTurn.Reaction` — what a handler does about an event.
* `MergeTurn.Exchange` — a bus with its tasks and its clock.
* `MergeTurn.Exchange.hand` — makes the tasks of an event, and counts them.
* `MergeTurn.Exchange.ask` — does one of the things that a handler can do, and answers it.
* `MergeTurn.Exchange.runNext` — runs the next task.
* `MergeTurn.Exchange.settle`, `MergeTurn.Exchange.drain` — run tasks until only waiting ones, or
  none, are left.

## Design

What a handler does is given by a function `react`, so that the exchange can be studied for all
handlers at once. Handlers may publish what they themselves listen to, so tasks may go on for ever:
`settle` and `drain` take the number of tasks they run at most.
-/

namespace MergeTurn

/-- What a handler can do to the exchange. -/
inductive Act (η : Type) where
  | publish (event : Event)
  | subscribe (pattern : String) (handler : η)
  | unsubscribe (id : Nat)

/-- What an act is answered with: to how many an event was handed, the number of a subscription, or
whether there was one to give up. -/
abbrev Act.Answer {η : Type} : Act η → Type
  | .publish _ => Nat
  | .subscribe _ _ => Nat
  | .unsubscribe _ => Bool

/-- How the run of a handler ends. Nobody else is affected by a bad end. -/
inductive Ending where
  | finished
  | failed
  | aborted
deriving DecidableEq, Repr

/-- What a handler does about an event: it waits for some milliseconds, acts, and ends. -/
structure Reaction (η : Type) where
  wait : Nat
  acts : List (Act η)
  ending : Ending

/-- An event on its way to a subscription. -/
structure Delivery (η : Type) where
  subscriber : Nat
  handler : η
  event : Event

/-- A delivery that was handled. -/
structure Handled where
  subscriber : Nat
  event : Event
  ending : Ending
deriving DecidableEq

/-- A bus with its tasks and its clock. -/
structure Exchange (η : Type) where
  bus : Bus η
  /-- The tasks that can run, in order. -/
  ready : List (Delivery η)
  /-- The tasks that wait, with the times at which they go on, earliest first. -/
  asleep : List (Nat × Delivery η)
  /-- The time in milliseconds. -/
  now : Nat
  /-- All deliveries that were handled, in order. -/
  handled : List Handled

namespace Exchange

variable {η : Type}

/-- An exchange without subscriptions. -/
def empty : Exchange η := ⟨.empty, [], [], 0, []⟩

/-- The number of tasks that are not finished. -/
def inFlight (x : Exchange η) : Nat := x.ready.length + x.asleep.length

/-- To how many subscriptions an event is handed, and the exchange with a task for each of them. -/
def hand (e : Event) (x : Exchange η) : Nat × Exchange η :=
  let audience := x.bus.audience e
  (audience.length, { x with ready := x.ready ++ audience.map fun s => ⟨s.id, s.handler, e⟩ })

/-- The exchange with the tasks of an event. -/
def publish (e : Event) (x : Exchange η) : Exchange η := (x.hand e).2

/-- The answer to an act, and the exchange after it. -/
def ask (x : Exchange η) : (a : Act η) → a.Answer × Exchange η
  | .publish e => x.hand e
  | .subscribe pattern handler =>
    let (id, bus) := x.bus.subscribe pattern handler
    (id, { x with bus })
  | .unsubscribe id =>
    let (found, bus) := x.bus.unsubscribe id
    (found, { x with bus })

/-- The exchange after one act of a handler, who may ignore the answer. -/
def act (x : Exchange η) (a : Act η) : Exchange η := (x.ask a).2

/-- A handler publishes like anybody else. -/
theorem act_publish (e : Event) (x : Exchange η) : x.act (.publish e) = x.publish e := rfl

/-- The exchange after a handler has done what it does about a delivery. -/
def perform (d : Delivery η) (r : Reaction η) (x : Exchange η) : Exchange η :=
  r.acts.foldl act { x with handled := x.handled ++ [⟨d.subscriber, d.event, r.ending⟩] }

/-- Waiting tasks with one more, behind all that do not wait longer. -/
def insertAsleep (due : Nat) (d : Delivery η) :
    List (Nat × Delivery η) → List (Nat × Delivery η)
  | [] => [(due, d)]
  | (t, d') :: rest =>
    if t ≤ due then (t, d') :: insertAsleep due d rest else (due, d) :: (t, d') :: rest

variable (react : η → Event → Reaction η)

/-- The exchange after its next task has run to its end, or up to where it waits. -/
def runNext (x : Exchange η) : Exchange η :=
  match x.ready with
  | [] => x
  | d :: rest =>
    let r := react d.handler d.event
    let x := { x with ready := rest }
    if r.wait = 0 then x.perform d r
    else { x with asleep := insertAsleep (x.now + r.wait) d x.asleep }

/-- The exchange at the time at which its first waiting task goes on, after that task. -/
def wakeNext (x : Exchange η) : Exchange η :=
  match x.asleep with
  | [] => x
  | (due, d) :: rest => { x with asleep := rest, now := due }.perform d (react d.handler d.event)

/-- Runs tasks until only waiting ones are left, at most a number of them. -/
def settle : Nat → Exchange η → Exchange η
  | 0, x => x
  | n + 1, x => if x.ready.isEmpty then x else settle n (x.runNext react)

/-- Runs tasks until none are left, at most a number of them. When all wait, the time of the first
comes. -/
def drain : Nat → Exchange η → Exchange η
  | 0, x => x
  | n + 1, x =>
    if !x.ready.isEmpty then drain n (x.runNext react)
    else if x.asleep.isEmpty then x
    else drain n (x.wakeNext react)

/-- The text that shows an exchange. -/
def debugText (x : Exchange η) : String :=
  "EventBus \x7b subscribers: " ++ toString x.bus.subscriptions.length ++
    ", in_flight: " ++ toString x.inFlight ++ " \x7d"

end Exchange

end MergeTurn
