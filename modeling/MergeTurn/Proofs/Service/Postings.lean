import MergeTurn.Proofs.Service.Cascade
import MergeTurn.Proofs.Service.Parts

set_option autoImplicit false

/-!
# What is posted, and what fails of it

A status is posted by a call about a pull request, by a task that a change of a lane has left, or
when the labels of a lane are set again. Which statuses these are follows from the store and the
records at that time. The status service is called for these and no others, in their order, and for
each call to a client that fails it is published that a side effect could not be delivered, with the
lane and the pull request that the call was made for.

## Main definitions

* `MergeTurn.Posting` — a status to be posted for a pull request of a lane.
* `MergeTurn.Service.Call.postings`, `MergeTurn.Task.postings`, `MergeTurn.Service.Act.postings` —
  the statuses that a call, a task and an act are to post.
* `MergeTurn.Service.postings` — those of a schedule.
* `MergeTurn.Ledger.Accounts` — the calls in a ledger are those of some postings, and the failures
  those of its calls.

## Main results

* `MergeTurn.Service.Accounted.handle`, `MergeTurn.Service.Accounted.perform` — a task and a call
  post what they are to post.
* `MergeTurn.Service.Accounted.act`, `MergeTurn.Service.Accounted.enact` — so do acts and schedules.

## Design

A call to the status service names a page and not a lane, so the lane and the number of a posting
are those that the act or the task names. Nothing of what is to be posted depends on the clients.
-/

namespace MergeTurn

/-! ## Failures and the calls behind them -/

/-- A status to be posted for the pull request with a number of a lane, by what is known of it. -/
structure Posting where
  lane : Lane
  number : PullNumber
  pull : Pull
  report : StatusReport

namespace Posting

/-- The call that posts a status. -/
def call (x : Posting) : StatusTarget × StatusReport :=
  (x.pull.statusTarget, x.report.withTarget x.pull.pageUrl)

/-- What is published if a status cannot be posted. -/
def failure (x : Posting) (e : ClientError) : DeliveryFailure :=
  ⟨.statusReport, x.lane, x.number, e.message⟩

end Posting

/-- A status to be posted for a pull request by the number that is its own. -/
def Pull.posting (p : Pull) (lane : Lane) (report : StatusReport) : Posting :=
  ⟨lane, p.number, p, report⟩

namespace Notice

/-- The lane that a notice is about. -/
def lane : Notice → Lane
  | .head l .. => l
  | .checks l .. => l

/-- The pull request that a notice is about. -/
def number : Notice → PullNumber
  | .head _ n _ => n
  | .checks _ n .. => n

/-- What is published if somebody cannot be notified. -/
def failure (x : Notice) (e : ClientError) : DeliveryFailure :=
  ⟨.notification, x.lane, x.number, e.message⟩

end Notice

namespace Event

/-- The failure that an event tells of, if it is one of a kind. -/
def failure? (k : Effect) : Event → Option DeliveryFailure
  | .failed f => if f.effect = k then some f else none
  | _ => none

/-- An event that is no failure tells of none. -/
lemma failure?_of_not_isFailure {e : Event} (h : e.isFailure = false) (k : Effect) :
    e.failure? k = none := by
  cases e <;> first | rfl | cases h

end Event

namespace Ledger

/-- The failures of a kind that were published, in order. -/
def failures (k : Effect) (l : Ledger) : List DeliveryFailure :=
  l.events.filterMap (Event.failure? k)

/-- The calls to the status service were made for some postings, in their order, and the failures
that were published are those of the calls that failed, one for each, in their order. -/
structure Accounts (w : List Posting) (l : Ledger) : Prop where
  posts : l.reports.map (·.call) = w.map Posting.call
  statuses : l.failures .statusReport =
    (w.zip l.reports).filterMap fun x => x.2.error.map x.1.failure
  notices : l.failures .notification = l.notices.filterMap fun a => a.error.map a.call.failure

namespace Accounts

variable {w : List Posting} {l : Ledger}

/-- Nothing was called and nothing has failed. -/
lemma empty : Accounts [] Ledger.empty := ⟨rfl, rfl, rfl⟩

/-- An event that is no failure does not matter. -/
lemma event (h : Accounts w l) {e : Event} (he : e.isFailure = false) :
    Accounts w { l with events := l.events ++ [e] } := by
  have hnone := Event.failure?_of_not_isFailure he
  constructor
  · exact h.posts
  · simpa [failures, hnone] using h.statuses
  · simpa [failures, hnone] using h.notices

/-- A status was posted, or that failed and was published. -/
lemma post (h : Accounts w l) (x : Posting) (error : Option ClientError) :
    Accounts (w ++ [x]) { l with
      reports := l.reports ++ [⟨x.call, error⟩]
      events := l.events ++ (error.map fun e => Event.failed (x.failure e)).toList } := by
  have hlength : w.length = l.reports.length := by
    simpa using (congrArg List.length h.posts).symm
  constructor
  · simp [h.posts]
  · rw [List.zip_append hlength, List.filterMap_append, ← h.statuses]
    cases error <;> simp [failures, Event.failure?, Posting.failure]
  · rw [← h.notices]
    cases error <;> simp [failures, Event.failure?, Posting.failure]

/-- Somebody was notified, or that failed and was published. -/
lemma notice (h : Accounts w l) (x : Notice) (error : Option ClientError) :
    Accounts w { l with
      notices := l.notices ++ [⟨x, error⟩]
      events := l.events ++ (error.map fun e => Event.failed (x.failure e)).toList } := by
  constructor
  · exact h.posts
  · rw [← h.statuses]
    cases error <;> simp [failures, Event.failure?, Notice.failure]
  · rw [List.filterMap_append, ← h.notices]
    cases error <;> simp [failures, Event.failure?, Notice.failure]

end Accounts

end Ledger

/-! ## What is to be posted -/

/-- A status for the pull request with a number of a lane, if it is on record. -/
def Registry.posting? (lane : Lane) (n : PullNumber) (report : StatusReport) (r : Registry) :
    Option Posting :=
  (r.get? ⟨lane.repo, n⟩).map fun p => ⟨lane, n, p, report⟩

/-- The labels of bookings that follow each other from a place on, as far as their pull requests are
on record. -/
def Registry.labels (lane : Lane) (place : Nat) (bs : List Booking) (r : Registry) :
    List Posting :=
  (bs.zipIdx place).filterMap fun (b, place) => r.posting? lane b.number (placeLabel (some place))

/-- The label of the first booking comes before those of the others. -/
lemma Registry.labels_cons (lane : Lane) (place : Nat) (b : Booking) (bs : List Booking)
    (r : Registry) : r.labels lane place (b :: bs) =
      (r.posting? lane b.number (placeLabel (some place))).toList ++
        r.labels lane (place + 1) bs := by
  rw [labels, List.zipIdx_cons, List.filterMap_cons, ← labels]
  dsimp only
  cases r.posting? lane b.number (placeLabel (some place)) <;> rfl

variable {σ : Type} [Store σ]

/-- The label of the place that a pull request has by a store. -/
def Pull.placePosting (p : Pull) (store : σ) : List Posting :=
  match (Desk.position p.lane p.number store).answer with
  | .ok place => [p.posting p.lane (placeLabel place)]
  | .error _ => []

/-- The statuses that a task is to post: the label of a pull request that was booked, or the labels
of the visible places of a lane and, unless it was closed, that of a pull request which has left
it. -/
def Task.postings (t : Task) (s : Service σ) : List Posting :=
  match t with
  | ⟨.labelAdded, .lane (.added lane b _)⟩ =>
    match (Desk.position lane b.number s.store).answer with
    | .ok place => (s.registry.posting? lane b.number (placeLabel place)).toList
    | .error _ => []
  | ⟨.labelRemoved, .lane (.removed lane b removal)⟩ =>
    match (Desk.firstBookings lane (lastShownPlace + 1) s.store).answer with
    | .ok bs => s.registry.labels lane 0 bs ++ if removal.closed then [] else
        (s.registry.posting? lane b.number (placeLabel none)).toList
    | .error _ => []
  | _ => []

namespace Service

/-- The statuses that a call is to post: the label of a pull request that is booked already, the
label of one that was updated, and the last status of one that was closed. -/
def Call.postings (c : Call) (s : Service σ) : List Posting :=
  match c with
  | .opened p clock =>
    let turn := Desk.book p.lane ⟨p.number, p.author, clock⟩ s.store
    match turn.answer with
    | .ok .duplicate => p.placePosting turn.store
    | _ => []
  | .updated p => p.placePosting s.store
  | .closed p closing =>
    match (Desk.unbook p.lane p.number true s.store).answer with
    | .ok _ => [p.posting p.lane closing.label]
    | .error _ => []
  | .book .. => []
  | .unbook .. => []

/-- The statuses that one of the tasks is to post. -/
def postingsAt (i : Nat) (s : Service σ) : List Posting :=
  match s.tasks[i]? with
  | some t => t.postings s
  | none => []

/-- The statuses that a number of tasks are to post, each by what the ones before it leave. -/
def firstPostings : Nat → Service σ → List Posting
  | 0, _ => []
  | n + 1, s => s.postingsAt 0 ++ firstPostings n s.runNext

/-- The statuses that an act is to post. Alarms and the clock post none. -/
def Act.postings (a : Act σ) (s : Service σ) : List Posting :=
  match a with
  | .call c => c.postings s
  | .relabel lane =>
    match (Desk.firstBookings lane (lastShownPlace + 1) s.store).answer with
    | .ok bs => s.registry.labels lane 0 bs
    | .error _ => []
  | .task i => s.postingsAt i
  | .advance _ => s.firstPostings s.tasks.length
  | .drain => s.firstPostings s.tasks.length
  | .check _ => []
  | .alarm _ => []
  | .wait _ => []
  | .outside _ => []

/-- The statuses that a schedule is to post, each act by what the ones before it leave. -/
def postings : List (Act σ) → Service σ → List Posting
  | [], _ => []
  | a :: acts, s => a.postings s ++ postings acts (s.act a).2

/-! ## Clients -/

section Clients

omit [Store σ]

/-- Posting a status enters the call in the ledger, and the failure if it failed. -/
lemma post_eq (lane : Lane) (p : Pull) (report : StatusReport) (s : Service σ) :
    (s.post lane p report).2 = { s with ledger := { s.ledger with
      reports := s.ledger.reports ++
        [⟨(p.posting lane report).call, s.clients.status s.ledger.reports.length⟩]
      events := s.ledger.events ++ ((s.clients.status s.ledger.reports.length).map fun e =>
        Event.failed ((p.posting lane report).failure e)).toList } } := by
  unfold post
  cases s.clients.status s.ledger.reports.length with
  | none => simp [Pull.posting, Posting.call]
  | some e => exact publish_failed ..

/-- Notifying somebody enters the call in the ledger, and the failure if it failed. -/
lemma notify_eq (x : Notice) (s : Service σ) :
    s.notify x.lane x.number x = { s with ledger := { s.ledger with
      notices := s.ledger.notices ++ [⟨x, s.clients.notice s.ledger.notices.length⟩]
      events := s.ledger.events ++ ((s.clients.notice s.ledger.notices.length).map fun e =>
        Event.failed (x.failure e)).toList } } := by
  unfold notify
  cases s.clients.notice s.ledger.notices.length with
  | none => simp
  | some e => exact publish_failed ..

end Clients

/-! ## What was posted -/

/-- The ledger of a service accounts for some postings, each of which is for what is on record for
its lane and number. -/
structure Accounted (w : List Posting) (s : Service σ) : Prop where
  keyed : s.registry.Keyed
  named : ∀ x ∈ w, x.pull.key = ⟨x.lane.repo, x.number⟩
  accounts : s.ledger.Accounts w

namespace Accounted

variable {w : List Posting} {s t : Service σ}

section Parts

omit [Store σ]

/-- Only the records and the ledger matter. -/
lemma congr (h : s.Accounted w) (hregistry : t.registry = s.registry)
    (hledger : t.ledger = s.ledger) : t.Accounted w :=
  ⟨hregistry ▸ h.keyed, h.named, hledger ▸ h.accounts⟩

/-- An event is published that is no failure. -/
lemma publish (h : s.Accounted w) {e : Event} (he : e.isFailure = false) :
    (s.publish e).Accounted w :=
  ⟨h.keyed, h.named, h.accounts.event he⟩

/-- Changes of lanes are published. -/
lemma publishAll (h : s.Accounted w) (es : List LaneEvent) : (s.publishAll es).Accounted w := by
  induction es generalizing s with
  | nil => exact h
  | cons e es ih => exact ih (h.publish rfl)

/-- The desk works. The records stay as they are. -/
lemma atDesk {α : Type} (h : s.Accounted w) (op : σ → Turn σ α) :
    ∃ t, s.atDesk op = ((op s.store).answer, t) ∧ t.Accounted w ∧ t.registry = s.registry ∧
      t.store = (op s.store).store := by
  obtain ⟨tasks, events, hwrites⟩ :=
    publishAll_writes { s with store := (op s.store).store } (op s.store).published
  have hthere : Service.Accounted w { s with store := (op s.store).store } := h.congr rfl rfl
  exact ⟨_, rfl, hthere.publishAll _, by rw [hwrites], by rw [hwrites]⟩

/-- A status is posted. -/
lemma post (h : s.Accounted w) {x : Posting} (hx : x.pull.key = ⟨x.lane.repo, x.number⟩) :
    (s.post x.lane x.pull x.report).2.Accounted (w ++ [x]) := by
  have hown : x.pull.posting x.lane x.report = x := by
    have hnumber : x.pull.number = x.number := congrArg PullKey.number hx
    rw [Pull.posting, hnumber]
  rw [post_eq, hown]
  refine ⟨h.keyed, fun y hy => ?_, h.accounts.post x _⟩
  rcases List.mem_append.1 hy with hy | hy
  · exact h.named y hy
  · rw [List.mem_singleton.1 hy]
    exact hx

/-- A status is posted for a pull request in its own lane. -/
lemma postOwn (h : s.Accounted w) (p : Pull) (report : StatusReport) :
    (s.post p.lane p report).2.Accounted (w ++ [p.posting p.lane report]) :=
  h.post (x := p.posting p.lane report) rfl

/-- A status is posted for a pull request on record. -/
lemma postRecorded (h : s.Accounted w) {lane : Lane} {n : PullNumber} {p : Pull}
    (hp : s.registry.get? ⟨lane.repo, n⟩ = some p) (report : StatusReport) :
    (s.post lane p report).2.Accounted (w ++ [⟨lane, n, p, report⟩]) :=
  h.post (x := ⟨lane, n, p, report⟩) (h.keyed _ p hp)

/-- The labels of bookings are set from a place on.

**Proof sketch.** Induction on the bookings. Posting a label leaves the records as they are. -/
lemma labelFrom (h : s.Accounted w) (lane : Lane) (place : Nat) (bs : List Booking) :
    (s.labelFrom lane place bs).2.Accounted (w ++ s.registry.labels lane place bs) := by
  induction bs generalizing s w place with
  | nil => simpa [Service.labelFrom, Registry.labels] using h
  | cons b bs ih =>
    rw [Registry.labels_cons, Registry.posting?]
    unfold Service.labelFrom
    cases hp : s.registry.get? ⟨lane.repo, b.number⟩ with
    | none => exact ih h (place + 1)
    | some p =>
      obtain ⟨reports, failures, hwrites⟩ := s.post_writes lane p (placeLabel (some place))
      have hregistry : (s.post lane p (placeLabel (some place))).2.registry = s.registry := by
        rw [hwrites]
      have hrest := ih (h.postRecorded hp (placeLabel (some place))) (place + 1)
      rw [hregistry, List.append_assoc] at hrest
      exact hrest

/-- A pull request is recorded. -/
lemma record (h : s.Accounted w) (p : Pull) : (s.withRegistry (·.record p)).Accounted w :=
  ⟨h.keyed.record p, h.named, h.accounts⟩

/-- Somebody is notified. -/
lemma notify (h : s.Accounted w) (x : Notice) : (s.notify x.lane x.number x).Accounted w := by
  rw [notify_eq]
  exact ⟨h.keyed, h.named, h.accounts.notice x _⟩

/-- The result that is held back for a lane is given up. -/
lemma cancel (h : s.Accounted w) (lane : Lane) : (s.cancel lane).Accounted w := by
  obtain ⟨pending, alarms, hwrites⟩ := s.cancel_writes lane
  rw [hwrites]
  exact h.congr rfl rfl

/-- A head is told that it is one. -/
lemma notifyHead (h : s.Accounted w) (lane : Lane) (n : PullNumber) (username : String) :
    (s.notifyHead lane n username).Accounted w := by
  unfold Service.notifyHead
  split
  · exact h
  · refine Accounted.notify (cancel ?_ lane) (.head lane n username)
    exact h.congr rfl rfl

/-- The head of a lane is forgotten. -/
lemma vacate (h : s.Accounted w) (lane : Lane) : (s.vacate lane).Accounted w := by
  obtain ⟨pending, alarms, hwrites⟩ := s.vacate_writes lane
  rw [hwrites]
  exact h.congr rfl rfl

/-- A result is delivered that was held back. -/
lemma ring (h : s.Accounted w) (a : Alarm) : (s.ring a).Accounted w := by
  unfold Service.ring
  dsimp only
  split
  · refine Accounted.notify ?_
      (.checks a.checks.lane a.checks.number a.checks.username a.checks.state)
    exact h.congr rfl rfl
  · exact h

/-- One of the alarms rings, if its time has come. -/
lemma ringAt (h : s.Accounted w) (i : Nat) : (s.ringAt i).Accounted w := by
  unfold Service.ringAt
  cases s.alarms[i]? with
  | none => exact h
  | some a =>
    dsimp only
    split
    · refine ring ?_ a
      exact h.congr rfl rfl
    · exact h

/-- A result is held back. -/
lemma onChecks (h : s.Accounted w) (c : HeadChecks) : (s.onChecks c).Accounted w := by
  unfold Service.onChecks
  split
  · exact h
  · dsimp only
    split
    · refine ring ?_ _
      exact (h.cancel c.lane).congr rfl rfl
    · exact (h.cancel c.lane).congr rfl rfl

/-- A metric is entered. -/
lemma meter (h : s.Accounted w) (m : Metric) : (s.meter m).Accounted w :=
  ⟨h.keyed, h.named, h.accounts.posts, h.accounts.statuses, h.accounts.notices⟩

/-- A lane is shown. -/
lemma showSnapshot (h : s.Accounted w) (x : LaneSnapshot) : (s.showSnapshot x).Accounted w := by
  unfold Service.showSnapshot
  dsimp only
  split <;> exact ⟨h.keyed, h.named, h.accounts.posts, h.accounts.statuses, h.accounts.notices⟩

end Parts

/-! ### Tasks -/

/-- The labels of a lane are set, if they can be looked up. The records stay as they are. -/
lemma relabel (h : s.Accounted w) (lane : Lane) :
    (∃ bs, (Desk.firstBookings lane (lastShownPlace + 1) s.store).answer = .ok bs ∧
      ∃ count t, s.relabel lane = (.ok count, t) ∧
        t.Accounted (w ++ s.registry.labels lane 0 bs) ∧ t.registry = s.registry) ∨
    (∃ e, (Desk.firstBookings lane (lastShownPlace + 1) s.store).answer = .error e ∧
      ∃ t, s.relabel lane = (.error e, t) ∧ t.Accounted w) := by
  obtain ⟨t, hdesk, ht, hregistry, -⟩ := h.atDesk (Desk.firstBookings lane (lastShownPlace + 1))
  unfold Service.relabel
  rw [hdesk]
  cases (Desk.firstBookings lane (lastShownPlace + 1) s.store).answer with
  | error e => exact .inr ⟨e, rfl, t, rfl, ht⟩
  | ok bs =>
    obtain ⟨reports, failures, hwrites⟩ := t.labelFrom_writes lane 0 bs
    refine .inl ⟨bs, rfl, _, _, rfl, hregistry ▸ ht.labelFrom lane 0 bs, ?_⟩
    rw [hwrites]
    exact hregistry

/-- The label of a booking is set. -/
lemma onAdded (h : s.Accounted w) (lane : Lane) (b : Booking) (place : Nat) :
    (s.onAdded lane b.number).Accounted
      (w ++ Task.postings ⟨.labelAdded, .lane (.added lane b place)⟩ s) := by
  obtain ⟨t, hdesk, ht, hregistry, -⟩ := h.atDesk (Desk.position lane b.number)
  unfold Service.onAdded Task.postings Registry.posting?
  dsimp only
  cases hp : s.registry.get? ⟨lane.repo, b.number⟩ with
  | none =>
    have hnothing : s.Accounted (w ++ []) := by rwa [List.append_nil]
    split <;> exact hnothing
  | some p =>
    dsimp only
    rw [hdesk]
    cases (Desk.position lane b.number s.store).answer with
    | error e => rwa [List.append_nil]
    | ok place => exact ht.postRecorded (hregistry ▸ hp) (placeLabel place)

/-- The labels of a lane are set after a removal. -/
lemma onRemoved (h : s.Accounted w) (lane : Lane) (b : Booking) (removal : Removal) :
    (s.onRemoved lane b.number removal.closed).Accounted
      (w ++ Task.postings ⟨.labelRemoved, .lane (.removed lane b removal)⟩ s) := by
  unfold Service.onRemoved Task.postings Registry.posting?
  dsimp only
  obtain ⟨bs, hanswer, count, t, hrelabel, ht, hregistry⟩ | ⟨e, hanswer, t, hrelabel, ht⟩ :=
    h.relabel lane
  · rw [hanswer, hrelabel]
    dsimp only
    cases removal.closed with
    | true => simpa using ht
    | false =>
      rw [hregistry, ← List.append_assoc]
      cases hp : s.registry.get? ⟨lane.repo, b.number⟩ with
      | none => simpa using ht
      | some p => exact ht.postRecorded (hregistry ▸ hp) (placeLabel none)
  · rw [hanswer, hrelabel, List.append_nil]
    exact ht

/-- The new head of a lane is told. -/
lemma onChange (h : s.Accounted w) (e : LaneEvent) : (s.onChange e).Accounted w := by
  cases e with
  | added lane b place =>
    simp only [Service.onChange]
    split
    · exact h.notifyHead _ _ _
    · exact h
  | removed lane b removal =>
    simp only [Service.onChange]
    split
    · obtain ⟨t, hdesk, ht, -⟩ := h.atDesk (Desk.head lane)
      rw [hdesk]
      rcases (Desk.head lane s.store).answer with e | _ | b
      · exact ht
      · exact ht.vacate lane
      · exact ht.notifyHead _ _ _
    · exact h

/-- A change is counted, and its lane measured. -/
lemma measure (h : s.Accounted w) (e : LaneEvent) : (s.measure e).Accounted w := by
  unfold Service.measure
  obtain ⟨t, hdesk, ht, -⟩ :=
    (h.meter (.counter e.counter e.lane.tags)).atDesk (Desk.length e.lane)
  rw [hdesk]
  cases (Desk.length e.lane (s.meter (.counter e.counter e.lane.tags)).store).answer with
  | error e => exact ht
  | ok length => exact ht.meter _

/-- A lane is shown as it is. -/
lemma showLane (h : s.Accounted w) (lane : Lane) : (s.showLane lane).Accounted w := by
  unfold Service.showLane
  obtain ⟨t, hdesk, ht, -⟩ := h.atDesk (Desk.bookings lane)
  rw [hdesk]
  cases (Desk.bookings lane s.store).answer with
  | error e => exact ht
  | ok bs => exact ht.showSnapshot _

/-- A task posts what it is to post. -/
theorem handle (h : s.Accounted w) (task : Task) :
    (s.handle task.handler task.event).Accounted (w ++ task.postings s) := by
  have hnothing : s.Accounted (w ++ []) := by rwa [List.append_nil]
  obtain ⟨handler, e⟩ := task
  cases handler with
  | labelAdded =>
    rcases e with (_ | _) | _ | _ <;> first | exact h.onAdded _ _ _ | exact hnothing
  | labelRemoved =>
    rcases e with (_ | _) | _ | _ <;> first | exact h.onRemoved _ _ _ | exact hnothing
  | noticeHead => cases e <;> first | exact hnothing.onChange _ | exact hnothing
  | noticeChecks => cases e <;> first | exact hnothing.onChecks _ | exact hnothing
  | measure => cases e <;> first | exact hnothing.measure _ | exact hnothing
  | watch => cases e <;> first | exact hnothing.showLane _ | exact hnothing

/-- One of the tasks is run. -/
lemma runAt (h : s.Accounted w) (i : Nat) : (s.runAt i).Accounted (w ++ s.postingsAt i) := by
  unfold Service.runAt postingsAt
  cases s.tasks[i]? with
  | none => rwa [List.append_nil]
  | some task =>
    have htaken : Service.Accounted w { s with tasks := s.tasks.eraseIdx i } := h.congr rfl rfl
    exact htaken.handle task

/-- A number of tasks are run. -/
lemma runTasks (h : s.Accounted w) (n : Nat) :
    (s.runTasks n).Accounted (w ++ s.firstPostings n) := by
  induction n generalizing s w with
  | zero => rwa [firstPostings, List.append_nil]
  | succ n ih =>
    have hnext := ih (h.runAt 0)
    rwa [runAt_zero, List.append_assoc] at hnext

/-! ### Calls -/

/-- A place is looked up, and its label posted. -/
lemma labelPlace (h : s.Accounted w) (p : Pull) :
    (s.labelPlace p).2.Accounted (w ++ p.placePosting s.store) := by
  unfold Service.labelPlace Pull.placePosting
  obtain ⟨t, hdesk, ht, -⟩ := h.atDesk (Desk.position p.lane p.number)
  rw [hdesk]
  cases (Desk.position p.lane p.number s.store).answer with
  | error e => rwa [List.append_nil]
  | ok place => exact ht.postOwn p (placeLabel place)

/-- A pull request is opened. -/
lemma opened (h : s.Accounted w) (p : Pull) (clock : Time.Timestamp) :
    (s.opened p clock).2.Accounted (w ++ (Call.opened p clock).postings s) := by
  obtain ⟨t, hdesk, ht, -, hstore⟩ :=
    (h.record p).atDesk (Desk.book p.lane ⟨p.number, p.author, clock⟩)
  change _ = ((Desk.book p.lane ⟨p.number, p.author, clock⟩ s.store).answer, t) at hdesk
  change _ = (Desk.book p.lane ⟨p.number, p.author, clock⟩ s.store).store at hstore
  simp only [Service.opened, Service.book, hdesk, Call.postings]
  generalize Desk.book p.lane ⟨p.number, p.author, clock⟩ s.store = turn at hstore ⊢
  rcases turn.answer with e | place | _
  · rwa [List.append_nil]
  · rwa [List.append_nil]
  · have hlabel := ht.labelPlace p
    rw [hstore] at hlabel
    dsimp only
    rcases hplace : t.labelPlace p with ⟨e | place, u⟩ <;> rwa [hplace] at hlabel

/-- A pull request is closed. -/
lemma closed (h : s.Accounted w) (p : Pull) (closing : Closing) :
    (s.closed p closing).2.Accounted (w ++ (Call.closed p closing).postings s) := by
  obtain ⟨t, hdesk, ht, -⟩ := h.atDesk (Desk.unbook p.lane p.number true)
  simp only [Service.closed, Service.unbook, hdesk, Call.postings]
  cases (Desk.unbook p.lane p.number true s.store).answer with
  | error e => rwa [List.append_nil]
  | ok outcome =>
    have hposted := ht.postOwn p closing.label
    exact ⟨hposted.keyed.forget p.key, hposted.named, hposted.accounts⟩

/-- A call posts what it is to post. -/
theorem perform (h : s.Accounted w) (c : Call) :
    (s.perform c).2.Accounted (w ++ c.postings s) := by
  have hnothing : s.Accounted (w ++ []) := by rwa [List.append_nil]
  cases c with
  | opened p clock => exact h.opened p clock
  | updated p => exact (h.record p).labelPlace p
  | closed p closing => exact h.closed p closing
  | book lane b =>
    obtain ⟨t, hdesk, ht, -⟩ := hnothing.atDesk (Desk.book lane b)
    have hafter : (s.book lane b).2 = t := congrArg Prod.snd hdesk
    exact hafter ▸ ht
  | unbook lane n =>
    obtain ⟨t, hdesk, ht, -⟩ := hnothing.atDesk (Desk.unbook lane n false)
    have hafter : (s.unbook lane n false).2 = t := congrArg Prod.snd hdesk
    exact hafter ▸ ht

/-- A status that somebody posted is looked at. -/
lemma checkChanged (h : s.Accounted w) (change : CheckChange) :
    (s.checkChanged change).2.Accounted w := by
  unfold Service.checkChanged
  split
  · exact h
  · cases s.registry.findByHead? change.repo change.commit with
    | none => exact h
    | some p =>
      obtain ⟨t, hdesk, ht, -⟩ := h.atDesk (Desk.head p.lane)
      dsimp only
      rw [hdesk]
      rcases (Desk.head p.lane s.store).answer with e | _ | b
      · exact ht
      · exact ht
      · dsimp only
        split_ifs
        · exact ht
        · exact ht.publish rfl
        · exact ht

/-! ### Schedules -/

/-- The next alarm rings when no task is left. -/
lemma ringNext (h : s.Accounted w) (hidle : s.tasks = []) : s.ringNext.Accounted w := by
  unfold Service.ringNext
  cases s.alarms with
  | nil => exact h
  | cons a rest =>
    have hrung : Service.Accounted w (Service.ring a { s with alarms := rest, now := a.due }) := by
      refine ring ?_ a
      exact h.congr rfl rfl
    have hleft := (spawns_ring { s with alarms := rest, now := a.due } a).tasks.trans hidle
    dsimp only
    rwa [settle_of_idle hleft]

/-- Alarms ring up to a time when no task is left. -/
lemma ringUntil (h : s.Accounted w) (hidle : s.tasks = []) (time n : Nat) :
    (s.ringUntil time n).Accounted w := by
  induction n generalizing s with
  | zero => exact h
  | succ n ih =>
    unfold Service.ringUntil
    split
    · exact h
    · split
      · exact ih (h.ringNext hidle) (ringNext_idle hidle).1
      · exact h

/-- A number of alarms ring when no task is left. -/
lemma ringAll (h : s.Accounted w) (hidle : s.tasks = []) (n : Nat) :
    (s.ringAll n).Accounted w := by
  induction n generalizing s with
  | zero => exact h
  | succ n ih => exact ih (h.ringNext hidle) (ringNext_idle hidle).1

/-- An act posts what it is to post.

**Proof sketch.** When all tasks have been run none is left, and alarms leave none. So what an act
posts that lets time pass is what the tasks post. -/
theorem act (h : s.Accounted w) (a : Act σ) : (s.act a).2.Accounted (w ++ a.postings s) := by
  have hnothing : s.Accounted (w ++ []) := by rwa [List.append_nil]
  have hsettled : s.settle.Accounted (w ++ s.firstPostings s.tasks.length) := h.runTasks _
  have hidle : s.settle.tasks = [] := tasks_runTasks (Nat.le_refl _)
  cases a with
  | call c => exact h.perform c
  | check change => exact hnothing.checkChanged change
  | relabel lane =>
    have hafter : (s.act (.relabel lane)).2 = (s.relabel lane).2 := rfl
    rw [hafter, Act.postings]
    obtain ⟨bs, hanswer, count, t, hrelabel, ht, -⟩ | ⟨e, hanswer, t, hrelabel, ht⟩ :=
      h.relabel lane
    · rw [hanswer, hrelabel]
      exact ht
    · rw [hanswer, hrelabel, List.append_nil]
      exact ht
  | task i => exact h.runAt i
  | alarm i => exact hnothing.ringAt i
  | wait ms => exact hnothing.congr rfl rfl
  | advance ms => exact (hsettled.ringUntil hidle _ _).congr rfl rfl
  | drain => exact hsettled.ringAll hidle _
  | outside f => exact hnothing.congr rfl rfl

/-- A schedule posts what it is to post.

**Proof sketch.** Induction on the acts. -/
theorem enact (h : s.Accounted w) (acts : List (Act σ)) :
    (enact acts s).2.Accounted (w ++ postings acts s) := by
  induction acts generalizing s w with
  | nil => rwa [postings, List.append_nil]
  | cons a acts ih =>
    have hrest := ih (h.act a)
    rwa [List.append_assoc] at hrest

end Accounted

end Service

end MergeTurn
