import MergeTurn.Service.Labels
import MergeTurn.Service.Notices
import MergeTurn.Service.Watch

set_option autoImplicit false

/-!
# Running the tasks

## Main definitions

* `MergeTurn.Service.handle` — what each handler does.
* `MergeTurn.Service.runNext` — runs the next task.
* `MergeTurn.Service.settle` — runs all tasks that can run.
* `MergeTurn.Service.advance` — lets time pass.
* `MergeTurn.Service.drain` — lets time pass until nothing is left to do.
* `MergeTurn.Service.restart` — the service started anew.

## Design

No handler publishes anything that has a handler itself. So as many runs as there are tasks leave
none, and once nothing can run as many alarms as there are leave none either.
-/

namespace MergeTurn.Service

variable {σ : Type} [Store σ]

/-- What a handler does about an event. Events that a handler is not for leave it cold. -/
def handle (h : Handler) (e : Event) (s : Service σ) : Service σ :=
  match h, e with
  | .labelAdded, .lane (.added lane b _) => s.onAdded lane b.number
  | .labelRemoved, .lane (.removed lane b removal) => s.onRemoved lane b.number removal.closed
  | .noticeHead, .lane change => s.onChange change
  | .noticeChecks, .checks c => s.onChecks c
  | .measure, .lane change => s.measure change
  | .watch, .lane change => s.showLane change.lane
  | _, _ => s

/-- Runs the next task. -/
def runNext (s : Service σ) : Service σ :=
  match s.tasks with
  | [] => s
  | t :: rest => { s with tasks := rest }.handle t.handler t.event

/-- Runs a number of tasks. -/
def runTasks : Nat → Service σ → Service σ
  | 0, s => s
  | n + 1, s => runTasks n s.runNext

/-- Runs all tasks that can run. -/
def settle (s : Service σ) : Service σ :=
  s.runTasks s.tasks.length

/-- Lets the first alarm ring, at its time, and runs the tasks that follow. -/
def ringNext (s : Service σ) : Service σ :=
  match s.alarms with
  | [] => s
  | a :: rest => ({ s with alarms := rest, now := a.due }.ring a).settle

/-- Lets alarms ring in order up to a time, at most a number of them. -/
def ringUntil (time : Nat) : Nat → Service σ → Service σ
  | 0, s => s
  | n + 1, s =>
    match s.alarms with
    | [] => s
    | a :: _ => if a.due ≤ time then ringUntil time n s.ringNext else s

/-- Lets a number of milliseconds pass. -/
def advance (ms : Nat) (s : Service σ) : Service σ :=
  let s := s.settle
  let time := s.now + ms
  { s.ringUntil time s.alarms.length with now := time }

/-- Lets a number of alarms ring in order. -/
def ringAll : Nat → Service σ → Service σ
  | 0, s => s
  | n + 1, s => ringAll n s.ringNext

/-- Lets time pass until no task and no alarm is left. -/
def drain (s : Service σ) : Service σ :=
  let s := s.settle
  s.ringAll s.alarms.length

omit [Store σ] in
/-- The service started anew over a store and a registry. The clients, the time and the
ledger go on. Tasks and alarms are lost, and so is what people have been told. -/
def restart (store : σ) (registry : Registry) (room : Nat) (s : Service σ) : Service σ :=
  { start s.rules store registry room with
    clients := s.clients
    now := s.now
    ledger := s.ledger }

end MergeTurn.Service
