import MergeTurn.Service.Labels

set_option autoImplicit false

/-!
# Calls of the service

What webhooks and people ask of the service. A call answers at once; what follows from it is left
to tasks.

## Main definitions

* `MergeTurn.Service.book`, `MergeTurn.Service.unbook` — bookings by hand.
* `MergeTurn.Service.opened`, `updated`, `closed` — the life of a pull request.
* `MergeTurn.Service.checkChanged` — a status that somebody posted.
-/

namespace MergeTurn

/-- How a pull request was closed. -/
inductive Closing where
  | merged (merger : String)
  | dropped
deriving DecidableEq, Repr

/-- The last status of a closed pull request. -/
def Closing.label : Closing → StatusReport
  | .merged merger => mergedLabel merger
  | .dropped => placeLabel none

/-- A status that somebody posted on a commit. -/
structure CheckChange where
  repo : Repo
  commit : CommitId
  state : CheckState
  context : String
deriving DecidableEq, Repr

/-- What came of a status that somebody posted. -/
inductive CheckOutcome where
  /-- The service posted it itself. -/
  | ownContext
  /-- The commit is the last one of no pull request on record. -/
  | unknownCommit
  /-- The pull request is not the head of its lane. -/
  | notHead
  /-- The checks of the head go on. -/
  | stillPending
  /-- The end of the head's checks was published. -/
  | published
deriving DecidableEq, Repr

namespace Service

variable {σ : Type} [Store σ]

/-- Books a pull request by hand. -/
def book (lane : Lane) (b : Booking) (s : Service σ) : Except DeskError BookOutcome × Service σ :=
  s.atDesk (Desk.book lane b)

/-- Takes a pull request out of a lane by hand. -/
def unbook (lane : Lane) (n : PullNumber) (closed : Bool) (s : Service σ) :
    Except DeskError UnbookOutcome × Service σ :=
  s.atDesk (Desk.unbook lane n closed)

/-- The service with other pull requests on record. -/
def withRegistry (f : Registry → Registry) (s : Service σ) : Service σ :=
  { s with registry := f s.registry }

/-- Posts the label of the place that a pull request has, and answers that place. -/
def labelPlace (p : Pull) (s : Service σ) : Except DeskError (Option Nat) × Service σ :=
  match s.atDesk (Desk.position p.lane p.number) with
  | (.error e, s) => (.error e, s)
  | (.ok place, s) => (.ok place, (s.label p.lane p place).2)

/-- A pull request was opened: it is recorded, and booked for its author. If it is booked already
nothing is published, so its label is set again at once. -/
def opened (p : Pull) (clock : Time.Timestamp) (s : Service σ) :
    Except DeskError BookOutcome × Service σ :=
  match (s.withRegistry (·.record p)).book p.lane ⟨p.number, p.author, clock⟩ with
  | (.error e, s) => (.error e, s)
  | (.ok (.added place), s) => (.ok (.added place), s)
  | (.ok .duplicate, s) =>
    match s.labelPlace p with
    | (.error e, s) => (.error e, s)
    | (.ok _, s) => (.ok .duplicate, s)

/-- A pull request has new commits: it is recorded, and its label set on the last of them. -/
def updated (p : Pull) (s : Service σ) : Except DeskError (Option Nat) × Service σ :=
  (s.withRegistry (·.record p)).labelPlace p

/-- A pull request was closed: it is taken out of its lane, gets its last status, and is forgotten.
Those who were behind it are looked after by the task that follows its removal. -/
def closed (p : Pull) (closing : Closing) (s : Service σ) :
    Except DeskError UnbookOutcome × Service σ :=
  match s.unbook p.lane p.number true with
  | (.error e, s) => (.error e, s)
  | (.ok outcome, s) =>
    (.ok outcome, (s.post p.lane p closing.label).2.withRegistry (·.forget p.key))

/-- Somebody posted a status. Only a final one on the last commit of a head matters. -/
def checkChanged (change : CheckChange) (s : Service σ) :
    Except DeskError CheckOutcome × Service σ :=
  if change.context = s.rules.context then (.ok .ownContext, s)
  else match s.registry.findByHead? change.repo change.commit with
    | none => (.ok .unknownCommit, s)
    | some p =>
      match s.atDesk (Desk.head p.lane) with
      | (.error e, s) => (.error e, s)
      | (.ok none, s) => (.ok .notHead, s)
      | (.ok (some b), s) =>
        if b.number ≠ p.number then (.ok .notHead, s)
        else if change.state.isFinal then
          (.ok .published,
            s.publish (.checks ⟨p.lane, b.number, b.username, change.commit, change.state⟩))
        else (.ok .stillPending, s)

end Service

end MergeTurn
