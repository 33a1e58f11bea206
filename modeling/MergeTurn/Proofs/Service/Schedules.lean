import MergeTurn.Proofs.Service.Runs

set_option autoImplicit false

/-!
# Schedules

A schedule says all that is not up to the service itself: which call comes when, which of the tasks
that can run is run, when the time passes and when the store is tampered with. Nothing has to
succeed, and tasks need not run in the order in which they came about.

## Main definitions

* `MergeTurn.Service.Act` — what can be done to the service.
* `MergeTurn.Service.Reply` — what it answers.
* `MergeTurn.Service.act`, `MergeTurn.Service.enact` — an act, and a schedule of acts.

## Design

The service's own ways to run tasks and to let time pass are acts beside the finer ones, since a
schedule may do either.
-/

namespace MergeTurn.Service

/-- What can be done to the service over a store. -/
inductive Act (σ : Type) where
  | call (c : Call)
  /-- Somebody posts a status. -/
  | check (change : CheckChange)
  /-- The labels of a lane are set again. -/
  | relabel (lane : Lane)
  /-- One of the tasks that can run is run. -/
  | task (i : Nat)
  /-- One of the alarms rings, if its time has come. -/
  | alarm (i : Nat)
  /-- The clock goes on, and nothing else happens. -/
  | wait (ms : Nat)
  /-- All tasks are run, and the alarms ring that become due in a number of milliseconds. -/
  | advance (ms : Nat)
  /-- All tasks are run and all alarms ring. -/
  | drain
  /-- The store is changed from outside. -/
  | outside (f : σ → σ)

/-- What the service answers. The number of labels that were delivered is left out. -/
inductive Reply where
  | booked (answer : Except DeskError BookOutcome)
  | unbooked (answer : Except DeskError UnbookOutcome)
  | placed (answer : Except DeskError (Option Nat))
  | checked (answer : Except DeskError CheckOutcome)
  | relabelled (answer : Except DeskError Unit)
  | nothing
deriving DecidableEq

variable {σ : Type} [Store σ]

/-- A call with its answer. -/
def perform : Call → Service σ → Reply × Service σ
  | .opened p clock, s => (s.opened p clock).map .booked id
  | .updated p, s => (s.updated p).map .placed id
  | .closed p closing, s => (s.closed p closing).map .unbooked id
  | .book lane b, s => (s.book lane b).map .booked id
  | .unbook lane n, s => (s.unbook lane n false).map .unbooked id

/-- Runs one of the tasks that can run. -/
def runAt (i : Nat) (s : Service σ) : Service σ :=
  match s.tasks[i]? with
  | none => s
  | some t => { s with tasks := s.tasks.eraseIdx i }.handle t.handler t.event

omit [Store σ] in
/-- Lets one of the alarms ring, if its time has come. -/
def ringAt (i : Nat) (s : Service σ) : Service σ :=
  match s.alarms[i]? with
  | none => s
  | some a => if a.due ≤ s.now then { s with alarms := s.alarms.eraseIdx i }.ring a else s

/-- An act, with the answer to it. -/
def act : Act σ → Service σ → Reply × Service σ
  | .call c, s => s.perform c
  | .check change, s => (s.checkChanged change).map .checked id
  | .relabel lane, s => (s.relabel lane).map (fun a => .relabelled (a.map fun _ => ())) id
  | .task i, s => (.nothing, s.runAt i)
  | .alarm i, s => (.nothing, s.ringAt i)
  | .wait ms, s => (.nothing, { s with now := s.now + ms })
  | .advance ms, s => (.nothing, s.advance ms)
  | .drain, s => (.nothing, s.drain)
  | .outside f, s => (.nothing, { s with store := f s.store })

/-- A schedule of acts, with the answers to them. -/
def enact : List (Act σ) → Service σ → List Reply × Service σ
  | [], s => ([], s)
  | a :: acts, s =>
    let (reply, s) := s.act a
    let (replies, s) := enact acts s
    (reply :: replies, s)

/-- Running the first of the tasks is running the next task. -/
lemma runAt_zero (s : Service σ) : s.runAt 0 = s.runNext := by
  unfold runAt runNext
  cases s.tasks <;> rfl

/-- Without tasks there is nothing to run. -/
lemma settle_of_idle {s : Service σ} (h : s.tasks = []) : s.settle = s := by
  rw [settle, h]
  rfl

end MergeTurn.Service
