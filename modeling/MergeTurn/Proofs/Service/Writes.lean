import Mathlib.Tactic.Lemma
import MergeTurn.Service.Tasks
import MergeTurn.Store.Memory

set_option autoImplicit false

/-!
# What handlers write

Each handler writes to a few parts of the service and leaves the others as they are. Each lemma here
names the parts that one operation writes to, so whatever depends on other parts is the same
afterwards. A handler publishes nothing but side effects that could not be delivered.

## Main results

* `MergeTurn.Service.post_writes`, `MergeTurn.Service.notify_writes` — calls to clients.
* `MergeTurn.Service.atDesk_writes` — the desk.
* `MergeTurn.Service.notifyHead_writes`, `MergeTurn.Service.vacate_writes` — telling heads.
* `MergeTurn.Service.onAdded_writes`, `MergeTurn.Service.onRemoved_writes` — setting labels.
* `MergeTurn.Service.onChecks_writes` — holding back results of checks.
* `MergeTurn.Service.measure_writes`, `MergeTurn.Service.showLane_writes` — metrics and snapshots.
-/

namespace MergeTurn.Service

section Clients

variable {σ : Type} (s : Service σ) (lane : Lane)

/-- Publishing that a side effect could not be delivered only enters it in the ledger, since nobody
acts on it. -/
lemma publish_failed (f : DeliveryFailure) :
    s.publish (.failed f) =
      { s with ledger := { s.ledger with events := s.ledger.events ++ [.failed f] } } := by
  simp [publish]

/-- Notifying somebody writes to the ledger only. -/
lemma notify_writes (n : PullNumber) (notice : Notice) :
    ∃ error failures, s.notify lane n notice =
      { s with ledger := { s.ledger with
        notices := s.ledger.notices ++ [⟨notice, error⟩]
        events := s.ledger.events ++ List.map .failed failures } } := by
  unfold notify
  dsimp only
  split
  · exact ⟨_, [], by rw [List.map_nil, List.append_nil]⟩
  · exact ⟨_, [_], publish_failed ..⟩

/-- Posting a status writes to the ledger only. -/
lemma post_writes (p : Pull) (report : StatusReport) :
    ∃ reports failures, (s.post lane p report).2 =
      { s with ledger := { s.ledger with
        reports, events := s.ledger.events ++ List.map .failed failures } } := by
  unfold post
  dsimp only
  split
  · exact ⟨_, [], by rw [List.map_nil, List.append_nil]⟩
  · exact ⟨_, [_], publish_failed ..⟩

/-- Setting labels from a place on writes to the ledger only. -/
lemma labelFrom_writes (place : Nat) (bs : List Booking) :
    ∃ reports failures, (s.labelFrom lane place bs).2 =
      { s with ledger := { s.ledger with
        reports, events := s.ledger.events ++ List.map .failed failures } } := by
  induction bs generalizing s place with
  | nil => exact ⟨_, [], by rw [List.map_nil, List.append_nil]; rfl⟩
  | cons b bs ih =>
    unfold labelFrom
    split
    · exact ih s (place + 1)
    · next p _ =>
      obtain ⟨reports, failures, hpost⟩ := s.post_writes lane p (placeLabel (some place))
      obtain ⟨reports', failures', hrest⟩ :=
        ih (s.post lane p (placeLabel (some place))).2 (place + 1)
      rw [hpost] at hrest
      refine ⟨reports', failures ++ failures', ?_⟩
      rw [List.map_append, ← List.append_assoc]
      simpa only [label, hpost] using hrest

/-- Giving up a result of checks writes to the results that are held back only. -/
lemma cancel_writes :
    ∃ pending alarms, s.cancel lane =
      { s with dispatch := { s.dispatch with pending }, alarms } := by
  unfold cancel
  split
  · exact ⟨_, _, rfl⟩
  · exact ⟨_, _, rfl⟩

/-- Telling a head that was not told last writes to who was told, to the results that are held back
and to the ledger. -/
lemma notifyHead_writes {n : PullNumber} (username : String)
    (h : s.dispatch.heads[lane]? ≠ some n) :
    ∃ pending alarms error failures, s.notifyHead lane n username =
      { s with
        dispatch := { s.dispatch with heads := s.dispatch.heads.insert lane n, pending }
        alarms
        ledger := { s.ledger with
          notices := s.ledger.notices ++ [⟨.head lane n username, error⟩]
          events := s.ledger.events ++ List.map .failed failures } } := by
  unfold notifyHead
  rw [if_neg h]
  obtain ⟨pending, alarms, hcancel⟩ := cancel_writes
    { s with dispatch := { s.dispatch with heads := s.dispatch.heads.insert lane n } } lane
  dsimp only
  rw [hcancel]
  obtain ⟨error, failures, hnotify⟩ := notify_writes
    { s with
      dispatch := { s.dispatch with heads := s.dispatch.heads.insert lane n, pending }
      alarms } lane n (.head lane n username)
  exact ⟨_, _, _, _, hnotify⟩

/-- Noting that a lane has no head writes to who was told and to the results that are held back. -/
lemma vacate_writes :
    ∃ pending alarms, s.vacate lane =
      { s with
        dispatch := { s.dispatch with heads := s.dispatch.heads.erase lane, pending }
        alarms } := by
  obtain ⟨pending, alarms, hcancel⟩ := cancel_writes
    { s with dispatch := { s.dispatch with heads := s.dispatch.heads.erase lane } } lane
  exact ⟨_, _, hcancel⟩

/-- Publishing changes of lanes writes to the tasks and to the ledger. -/
lemma publishAll_writes (es : List LaneEvent) :
    ∃ tasks events, s.publishAll es =
      { s with tasks, ledger := { s.ledger with events } } := by
  induction es generalizing s with
  | nil => exact ⟨_, _, rfl⟩
  | cons e es ih =>
    obtain ⟨tasks, events, h⟩ := ih (s.publish (.lane e))
    exact ⟨tasks, events, h⟩

/-- The desk writes to the store, and publishes. -/
lemma atDesk_writes {α : Type} (op : σ → Turn σ α) :
    ∃ store tasks events, (s.atDesk op).2 =
      { s with store, tasks, ledger := { s.ledger with events } } := by
  obtain ⟨tasks, events, h⟩ :=
    publishAll_writes { s with store := (op s.store).store } (op s.store).published
  exact ⟨_, tasks, events, h⟩

end Clients

section Checks

variable {σ : Type} (s : Service σ)

/-- Delivering a result of checks notifies of nothing but this result, and otherwise writes to what
is known of checks only. -/
lemma ring_writes (a : Alarm) :
    ∃ pending delivered notices failures, s.ring a =
      { s with
        dispatch := { s.dispatch with pending, delivered }
        ledger := { s.ledger with
          notices := s.ledger.notices ++ notices
          events := s.ledger.events ++ List.map .failed failures } } ∧
      ∀ x ∈ notices, x.call =
        .checks a.checks.lane a.checks.number a.checks.username a.checks.state := by
  unfold ring
  dsimp only
  split
  · obtain ⟨error, failures, hnotify⟩ := notify_writes
      { s with dispatch := { s.dispatch with
          pending := s.dispatch.pending.erase a.checks.lane
          delivered := s.dispatch.delivered.insert a.checks.lane a.checks.verdict } }
      a.checks.lane a.checks.number
      (.checks a.checks.lane a.checks.number a.checks.username a.checks.state)
    exact ⟨_, _, _, _, hnotify, fun x hx => by rw [List.mem_singleton.1 hx]⟩
  · exact ⟨_, _, [], [], by rw [List.map_nil, List.append_nil, List.append_nil], by simp⟩

/-- Holding back a result of checks notifies of nothing but this result, and otherwise writes to
what is known of checks only. -/
lemma onChecks_writes (c : HeadChecks) :
    ∃ pending delivered nextGeneration alarms notices failures, s.onChecks c =
      { s with
        dispatch := ⟨s.dispatch.heads, pending, delivered, nextGeneration⟩
        alarms
        ledger := { s.ledger with
          notices := s.ledger.notices ++ notices
          events := s.ledger.events ++ List.map .failed failures } } ∧
      ∀ x ∈ notices, x.call = .checks c.lane c.number c.username c.state := by
  obtain ⟨pending, alarms, hcancel⟩ := s.cancel_writes c.lane
  unfold onChecks
  rw [hcancel]
  split
  · exact ⟨_, _, _, _, [], [], by rw [List.map_nil, List.append_nil, List.append_nil], by simp⟩
  · dsimp only
    split
    · obtain ⟨pending', delivered, notices, failures, hring, hchecks⟩ := ring_writes
        { s with
          dispatch := { s.dispatch with
            pending := pending.insert c.lane s.dispatch.nextGeneration
            nextGeneration := s.dispatch.nextGeneration + 1 }
          alarms } ⟨s.now + s.rules.debounce, s.dispatch.nextGeneration, c⟩
      exact ⟨_, _, _, _, _, _, hring, hchecks⟩
    · exact ⟨_, _, _, _, [], [], by rw [List.map_nil, List.append_nil, List.append_nil], by simp⟩

end Checks

section Lanes

variable (s : Service Memory)

/-- Asking the store leaves it as it is. -/
lemma atDesk_read {α β : Type} (f : α → β) (g : Shelves → α) (s : Service Memory) :
    ∃ answer, s.atDesk (fun m => .ask f (m.read g)) = (answer, s) := by
  simp only [atDesk, Memory.read]
  split
  · exact ⟨_, rfl⟩
  · exact ⟨_, rfl⟩

/-- Setting the label of a booking writes to the ledger only. -/
lemma onAdded_writes (lane : Lane) (n : PullNumber) :
    ∃ reports failures, s.onAdded lane n =
      { s with ledger := { s.ledger with
        reports, events := s.ledger.events ++ List.map .failed failures } } := by
  obtain ⟨answer, hread⟩ : ∃ answer, s.atDesk (Desk.position lane n) = (answer, s) :=
    atDesk_read _ _ s
  have hnone : s = { s with ledger := { s.ledger with
      events := s.ledger.events ++ List.map .failed [] } } := by
    rw [List.map_nil, List.append_nil]
  simp only [onAdded, hread]
  split
  · exact ⟨_, [], hnone⟩
  · cases answer with
    | error _ => exact ⟨_, [], hnone⟩
    | ok place => exact post_writes ..

/-- Setting the labels of a lane after a removal writes to the ledger only. -/
lemma onRemoved_writes (lane : Lane) (n : PullNumber) (closed : Bool) :
    ∃ reports failures, s.onRemoved lane n closed =
      { s with ledger := { s.ledger with
        reports, events := s.ledger.events ++ List.map .failed failures } } := by
  obtain ⟨answer, hread⟩ : ∃ answer,
      s.atDesk (Desk.firstBookings lane (lastShownPlace + 1)) = (answer, s) := atDesk_read _ _ s
  simp only [onRemoved, relabel, hread]
  cases answer with
  | error _ => exact ⟨_, [], by rw [List.map_nil, List.append_nil]⟩
  | ok bs =>
    obtain ⟨reports, failures, hlabels⟩ := s.labelFrom_writes lane 0 bs
    simp only [hlabels]
    split
    · exact ⟨_, _, rfl⟩
    · split
      · exact ⟨_, _, rfl⟩
      · next p _ =>
        obtain ⟨reports', failures', hpost⟩ := post_writes
          { s with ledger := { s.ledger with
            reports, events := s.ledger.events ++ List.map .failed failures } }
          lane p (placeLabel none)
        refine ⟨reports', failures ++ failures', ?_⟩
        rw [List.map_append, ← List.append_assoc]
        exact hpost

/-- Measuring a lane writes to the metrics only. -/
lemma measure_writes (e : LaneEvent) :
    ∃ metrics, s.measure e = { s with ledger := { s.ledger with metrics } } := by
  obtain ⟨answer, hread⟩ : ∃ answer,
      (s.meter (.counter e.counter e.lane.tags)).atDesk (Desk.length e.lane) =
        (answer, s.meter (.counter e.counter e.lane.tags)) := atDesk_read _ _ _
  simp only [measure, hread]
  cases answer with
  | error _ => exact ⟨_, rfl⟩
  | ok _ => exact ⟨_, rfl⟩

/-- Showing a lane writes to the feed and to the snapshots only. -/
lemma showLane_writes (lane : Lane) :
    ∃ feed snapshots, s.showLane lane =
      { s with feed, ledger := { s.ledger with snapshots } } := by
  obtain ⟨answer, hread⟩ : ∃ answer, s.atDesk (Desk.bookings lane) = (answer, s) :=
    atDesk_read _ _ s
  simp only [showLane, hread]
  cases answer with
  | error _ => exact ⟨_, _, rfl⟩
  | ok bs =>
    simp only [showSnapshot]
    split
    · exact ⟨_, _, rfl⟩
    · exact ⟨_, _, rfl⟩

end Lanes

end MergeTurn.Service
