import MergeTurn.Service.Basic

set_option autoImplicit false

/-!
# Labels

The status of a pull request is its label: it says at which place of its lane the pull request is.
After a removal all who were behind it move up, so the labels of the visible places are set again.

## Main definitions

* `MergeTurn.Service.post` — posts a status.
* `MergeTurn.Service.label` — posts the label of a place.
* `MergeTurn.Service.relabel` — sets the labels of the visible places of a lane.
* `MergeTurn.Service.onAdded`, `MergeTurn.Service.onRemoved` — what follows a change of a lane.
-/

namespace MergeTurn.Service

variable {σ : Type}

/-- Posts a status on the last commit of a pull request, with the page of the pull request, and
answers whether it was delivered. If not, that is published. -/
def post (lane : Lane) (p : Pull) (report : StatusReport) (s : Service σ) : Bool × Service σ :=
  let error := s.clients.status s.ledger.reports.length
  let call := (p.statusTarget, report.withTarget p.pageUrl)
  let s := { s with ledger := { s.ledger with reports := s.ledger.reports ++ [⟨call, error⟩] } }
  match error with
  | none => (true, s)
  | some e => (false, s.publish (.failed ⟨.statusReport, lane, p.number, e.message⟩))

/-- Posts the label of a place, or of no place, for a pull request. -/
def label (lane : Lane) (p : Pull) (place : Option Nat) (s : Service σ) : Bool × Service σ :=
  s.post lane p (placeLabel place)

/-- Posts the labels of bookings that follow each other from a place on, as far as their pull
requests are on record, and answers how many were delivered. -/
def labelFrom (lane : Lane) (place : Nat) (bs : List Booking) (s : Service σ) : Nat × Service σ :=
  match bs with
  | [] => (0, s)
  | b :: bs =>
    match s.registry.get? ⟨lane.repo, b.number⟩ with
    | none => s.labelFrom lane (place + 1) bs
    | some p =>
      let (ok, s) := s.label lane p (some place)
      let (count, s) := s.labelFrom lane (place + 1) bs
      (if ok then count + 1 else count, s)

variable [Store σ]

/-- Sets the labels of the visible places of a lane, and of one behind them, and answers how many
were delivered. All places further back look the same, so one removal does not change them. -/
def relabel (lane : Lane) (s : Service σ) : Except DeskError Nat × Service σ :=
  match s.atDesk (Desk.firstBookings lane (lastShownPlace + 1)) with
  | (.error e, s) => (.error e, s)
  | (.ok bs, s) =>
    let (count, s) := s.labelFrom lane 0 bs
    (.ok count, s)

/-- Sets the label of a booked pull request, at the place where it is by now. -/
def onAdded (lane : Lane) (n : PullNumber) (s : Service σ) : Service σ :=
  match s.registry.get? ⟨lane.repo, n⟩ with
  | none => s
  | some p =>
    match s.atDesk (Desk.position lane n) with
    | (.error _, s) => s
    | (.ok place, s) => (s.label lane p place).2

/-- Sets the labels of a lane after a removal, and blocks the removed pull request unless it was
closed. -/
def onRemoved (lane : Lane) (n : PullNumber) (closed : Bool) (s : Service σ) : Service σ :=
  match s.relabel lane with
  | (.error _, s) => s
  | (.ok _, s) =>
    if closed then s
    else match s.registry.get? ⟨lane.repo, n⟩ with
      | none => s
      | some p => (s.label lane p none).2

end MergeTurn.Service
