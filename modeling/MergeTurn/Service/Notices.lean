import MergeTurn.Service.Basic

set_option autoImplicit false

/-!
# Notices

Who becomes the head of a lane is told so, once for each time. Who is the head is also told when
the checks of the head have ended. Such a result is held back for a while: a newer one for the same
lane takes its place, and a new head cancels it. A result that was just delivered is not delivered
again.

## Main definitions

* `MergeTurn.Service.cancel` — gives up the result that is held back for a lane.
* `MergeTurn.Service.notifyHead` — tells a head that it is one.
* `MergeTurn.Service.onChecks`, `MergeTurn.Service.ring` — holds a result back, and delivers it.
-/

namespace MergeTurn.Service

variable {σ : Type}

/-- Notifies somebody. If that fails, it is published. -/
def notify (lane : Lane) (n : PullNumber) (notice : Notice) (s : Service σ) : Service σ :=
  let error := s.clients.notice s.ledger.notices.length
  let s := { s with ledger := { s.ledger with notices := s.ledger.notices ++ [⟨notice, error⟩] } }
  match error with
  | none => s
  | some e => s.publish (.failed ⟨.notification, lane, n, e.message⟩)

/-- Gives up the result that is held back for a lane, if there is one. -/
def cancel (lane : Lane) (s : Service σ) : Service σ :=
  match s.dispatch.pending[lane]? with
  | none => s
  | some generation =>
    { s with
      dispatch := { s.dispatch with pending := s.dispatch.pending.erase lane }
      alarms := s.alarms.filter (·.generation != generation) }

/-- Tells a pull request that it is the head of a lane, unless it was told last. -/
def notifyHead (lane : Lane) (n : PullNumber) (username : String) (s : Service σ) : Service σ :=
  if s.dispatch.heads[lane]? = some n then s
  else
    let heads := s.dispatch.heads.insert lane n
    let s := { s with dispatch := { s.dispatch with heads } }.cancel lane
    s.notify lane n (.head lane n username)

/-- Forgets the head of a lane that has none any more. -/
def vacate (lane : Lane) (s : Service σ) : Service σ :=
  { s with dispatch := { s.dispatch with heads := s.dispatch.heads.erase lane } }.cancel lane

/-- Tells the new head of a lane, if a change has brought one about. -/
def onChange [Store σ] (e : LaneEvent) (s : Service σ) : Service σ :=
  match e with
  | .added lane b place => if place = 0 then s.notifyHead lane b.number b.username else s
  | .removed lane _ removal =>
    if removal.headChanged then
      match s.atDesk (Desk.head lane) with
      | (.error _, s) => s
      | (.ok none, s) => s.vacate lane
      | (.ok (some b), s) => s.notifyHead lane b.number b.username
    else s

/-- Delivers a result that was held back, unless it has been replaced. -/
def ring (a : Alarm) (s : Service σ) : Service σ :=
  let c := a.checks
  if s.dispatch.pending[c.lane]? = some a.generation then
    let dispatch := { s.dispatch with
      pending := s.dispatch.pending.erase c.lane
      delivered := s.dispatch.delivered.insert c.lane c.verdict }
    { s with dispatch }.notify c.lane c.number (.checks c.lane c.number c.username c.state)
  else s

/-- Holds a result of checks back in the place of an older one for the lane, unless the same result
was delivered last. -/
def onChecks (c : HeadChecks) (s : Service σ) : Service σ :=
  if s.dispatch.delivered[c.lane]? = some c.verdict then s
  else
    let t := s.cancel c.lane
    let generation := t.dispatch.nextGeneration
    let alarm : Alarm := ⟨t.now + s.rules.debounce, generation, c⟩
    let dispatch := { t.dispatch with
      pending := t.dispatch.pending.insert c.lane generation
      nextGeneration := generation + 1 }
    if s.rules.debounce = 0 then { t with dispatch }.ring alarm
    else { t with dispatch, alarms := t.alarms ++ [alarm] }

/-- The number of results that are held back. -/
def pendingChecks (s : Service σ) : Nat := s.dispatch.pending.size

end MergeTurn.Service
