import MergeTurn.Proofs.Service.Schedules

set_option autoImplicit false

/-!
# What operations are made of

Calls, tasks and alarms are made of a few parts: the store and the records change, something is
published or posted, and people are told things. Whatever these parts keep is kept by all that can be
done to the service. This is stated for relations between two services that do the same side by
side; a property of one service is such a relation of the service with itself.

## Main definitions

* `MergeTurn.Service.KeptByCalls`, `KeptByTasks`, `KeptByTime` — what the parts of calls keep, and so
  do tasks, and so do alarms and the clock.
* `MergeTurn.Service.Agree` — two operations answer alike.
* `MergeTurn.Service.UpheldByCalls`, `Upheld` — the parts of calls, and all parts, keep a property.
* `MergeTurn.Service.Silent` — two states differ at most in what people are told.

## Main results

* `MergeTurn.Service.KeptByCalls.perform`, `MergeTurn.Service.KeptByCalls.checkChanged` — calls.
* `MergeTurn.Service.KeptByTasks.handle`, `MergeTurn.Service.KeptByTasks.settle` — tasks.
* `MergeTurn.Service.KeptByTime.act`, `MergeTurn.Service.KeptByTime.enact` — acts and schedules.
* `MergeTurn.Service.UpheldByCalls.perform`, `MergeTurn.Service.Upheld.enact` — the same for
  properties.

## Design

Calls are about pull requests of a kind, and posts are made for these and for those on record. This
is all that is said about for whom something is posted.
-/

namespace MergeTurn

/-- Whether an event says that a side effect could not be delivered. -/
def Event.isFailure : Event → Bool
  | .failed _ => true
  | _ => false

namespace Service

variable {σ : Type}

/-- Two answers are the same, and the services behind them are related. -/
def Agree {α : Type} (R : Service σ → Service σ → Prop) (x y : α × Service σ) : Prop :=
  x.1 = y.1 ∧ R x.2 y.2

/-- The parts of calls, and of tasks that tell nobody anything, keep a relation. -/
structure KeptByCalls (K : Pull → Prop) (R : Service σ → Service σ → Prop) : Prop where
  context : ∀ {s t}, R s t → s.rules.context = t.rules.context
  store : ∀ {s t}, R s t → s.store = t.store
  registry : ∀ {s t}, R s t → s.registry = t.registry
  withStore : ∀ {s t}, R s t → ∀ store, R { s with store } { t with store }
  publish : ∀ {s t}, R s t → ∀ {e : Event}, e.isFailure = false → R (s.publish e) (t.publish e)
  record : ∀ {s t}, R s t → ∀ {p}, K p →
    R (s.withRegistry (·.record p)) (t.withRegistry (·.record p))
  forget : ∀ {s t}, R s t → ∀ {p : Pull}, K p →
    R (s.withRegistry (·.forget p.key)) (t.withRegistry (·.forget p.key))
  /-- Something is posted for a pull request of the kind, in its own lane. -/
  post : ∀ {s t}, R s t → ∀ {p : Pull}, K p → ∀ report,
    R (s.post p.lane p report).2 (t.post p.lane p report).2
  /-- Something is posted for a pull request on record. -/
  postRecorded : ∀ {s t}, R s t → ∀ {lane : Lane} {n p},
    s.registry.get? ⟨lane.repo, n⟩ = some p → ∀ report,
      R (s.post lane p report).2 (t.post lane p report).2
  meter : ∀ {s t}, R s t → ∀ m, R (s.meter m) (t.meter m)
  showSnapshot : ∀ {s t}, R s t → ∀ x, R (s.showSnapshot x) (t.showSnapshot x)

/-- Tasks keep a relation too: whatever tells people something keeps it. -/
structure KeptByTasks (K : Pull → Prop) (R : Service σ → Service σ → Prop) : Prop
    extends KeptByCalls K R where
  tasks : ∀ {s t}, R s t → s.tasks = t.tasks
  takeTask : ∀ {s t}, R s t → ∀ i,
    R { s with tasks := s.tasks.eraseIdx i } { t with tasks := t.tasks.eraseIdx i }
  notifyHead : ∀ {s t}, R s t → ∀ lane n username,
    R (s.notifyHead lane n username) (t.notifyHead lane n username)
  vacate : ∀ {s t}, R s t → ∀ lane, R (s.vacate lane) (t.vacate lane)
  onChecks : ∀ {s t}, R s t → ∀ c, R (s.onChecks c) (t.onChecks c)

/-- So do alarms and the clock. -/
structure KeptByTime (K : Pull → Prop) (R : Service σ → Service σ → Prop) : Prop
    extends KeptByTasks K R where
  alarms : ∀ {s t}, R s t → s.alarms = t.alarms
  now : ∀ {s t}, R s t → s.now = t.now
  takeAlarm : ∀ {s t}, R s t → ∀ i,
    R { s with alarms := s.alarms.eraseIdx i } { t with alarms := t.alarms.eraseIdx i }
  withNow : ∀ {s t}, R s t → ∀ now, R { s with now } { t with now }
  ring : ∀ {s t}, R s t → ∀ a, R (s.ring a) (t.ring a)

variable {K : Pull → Prop} {R : Service σ → Service σ → Prop} {s t : Service σ}

/-! ## Calls -/

/-- Operations agree if both fail or both succeed, with the same answer. -/
lemma Agree.cases {α : Type} {x y : Except DeskError α × Service σ} (h : Agree R x y) :
    (∃ e s t, x = (.error e, s) ∧ y = (.error e, t) ∧ R s t) ∨
      ∃ a s t, x = (.ok a, s) ∧ y = (.ok a, t) ∧ R s t := by
  obtain ⟨answer, s⟩ := x
  obtain ⟨answer', t⟩ := y
  obtain ⟨rfl : answer = answer', hst⟩ := h
  cases answer with
  | error e => exact .inl ⟨e, s, t, rfl, rfl, hst⟩
  | ok a => exact .inr ⟨a, s, t, rfl, rfl, hst⟩

namespace KeptByCalls

variable (hR : KeptByCalls K R)
include hR

/-- Changes of lanes are published. -/
lemma publishAll (h : R s t) (es : List LaneEvent) : R (s.publishAll es) (t.publishAll es) := by
  induction es generalizing s t with
  | nil => exact h
  | cons e es ih => exact ih (hR.publish h rfl)

/-- The desk works. -/
lemma atDesk {α : Type} (h : R s t) (op : σ → Turn σ α) :
    Agree R (s.atDesk op) (t.atDesk op) := by
  simp only [Service.atDesk, ← hR.store h]
  exact ⟨rfl, hR.publishAll (hR.withStore h _) _⟩

/-- The labels of bookings are set from a place on. -/
lemma labelFrom (h : R s t) (lane : Lane) (place : Nat) (bs : List Booking) :
    R (s.labelFrom lane place bs).2 (t.labelFrom lane place bs).2 := by
  induction bs generalizing s t place with
  | nil => exact h
  | cons b bs ih =>
    simp only [Service.labelFrom, ← hR.registry h]
    cases hp : s.registry.get? ⟨lane.repo, b.number⟩ with
    | none => exact ih h _
    | some p => exact ih (hR.postRecorded h hp _) _

variable [Store σ]

/-- The labels of a lane are set. -/
lemma relabel (h : R s t) (lane : Lane) :
    ((s.relabel lane).1.map fun _ => ()) = ((t.relabel lane).1.map fun _ => ()) ∧
      R (s.relabel lane).2 (t.relabel lane).2 := by
  unfold Service.relabel
  obtain ⟨e, s', t', hs, ht, h'⟩ | ⟨bs, s', t', hs, ht, h'⟩ :=
    (hR.atDesk h (Desk.firstBookings lane (lastShownPlace + 1))).cases
  · rw [hs, ht]
    exact ⟨rfl, h'⟩
  · rw [hs, ht]
    exact ⟨rfl, hR.labelFrom h' lane 0 bs⟩

/-- The label of a booking is set. -/
lemma onAdded (h : R s t) (lane : Lane) (n : PullNumber) :
    R (s.onAdded lane n) (t.onAdded lane n) := by
  simp only [Service.onAdded, ← hR.registry h]
  cases hp : s.registry.get? ⟨lane.repo, n⟩ with
  | none => exact h
  | some p =>
    obtain ⟨store, tasks, events, hwrites⟩ := s.atDesk_writes (Desk.position lane n)
    obtain ⟨e, s', t', hs, ht, h'⟩ | ⟨place, s', t', hs, ht, h'⟩ :=
      (hR.atDesk h (Desk.position lane n)).cases
    · rw [hs, ht]
      exact h'
    · rw [hs] at hwrites
      subst hwrites
      rw [hs, ht]
      exact hR.postRecorded h' hp _

/-- The labels of a lane are set after a removal. -/
lemma onRemoved (h : R s t) (lane : Lane) (n : PullNumber) (closed : Bool) :
    R (s.onRemoved lane n closed) (t.onRemoved lane n closed) := by
  obtain ⟨hanswer, hlabels⟩ := hR.relabel h lane
  unfold Service.onRemoved
  rcases hs : s.relabel lane with ⟨_ | count, s'⟩
  all_goals
    rcases ht : t.relabel lane with ⟨_ | count', t'⟩
    all_goals rw [hs, ht] at hanswer hlabels
  · exact hlabels
  · cases hanswer
  · cases hanswer
  · dsimp only at hlabels ⊢
    cases closed with
    | true => exact hlabels
    | false =>
      rw [← hR.registry hlabels]
      cases hp : s'.registry.get? ⟨lane.repo, n⟩ with
      | none => exact hlabels
      | some p => exact hR.postRecorded hlabels hp _

/-- A change is counted, and its lane measured. -/
lemma measure (h : R s t) (e : LaneEvent) : R (s.measure e) (t.measure e) := by
  unfold Service.measure
  obtain ⟨e', s', t', hs, ht, h'⟩ | ⟨length, s', t', hs, ht, h'⟩ :=
    (hR.atDesk (hR.meter h (.counter e.counter e.lane.tags)) (Desk.length e.lane)).cases
  · rw [hs, ht]
    exact h'
  · rw [hs, ht]
    exact hR.meter h' _

/-- A lane is shown. -/
lemma showLane (h : R s t) (lane : Lane) : R (s.showLane lane) (t.showLane lane) := by
  unfold Service.showLane
  obtain ⟨e, s', t', hs, ht, h'⟩ | ⟨bs, s', t', hs, ht, h'⟩ :=
    (hR.atDesk h (Desk.bookings lane)).cases
  · rw [hs, ht]
    exact h'
  · rw [hs, ht]
    exact hR.showSnapshot h' _

/-- A place is looked up, and its label posted. -/
lemma labelPlace (h : R s t) {p : Pull} (hp : K p) : Agree R (s.labelPlace p) (t.labelPlace p) := by
  unfold Service.labelPlace
  obtain ⟨e, s', t', hs, ht, h'⟩ | ⟨place, s', t', hs, ht, h'⟩ :=
    (hR.atDesk h (Desk.position p.lane p.number)).cases
  · rw [hs, ht]
    exact ⟨rfl, h'⟩
  · rw [hs, ht]
    exact ⟨rfl, hR.post h' hp _⟩

/-- A pull request is opened. -/
lemma opened (h : R s t) {p : Pull} (hp : K p) (clock : Time.Timestamp) :
    Agree R (s.opened p clock) (t.opened p clock) := by
  unfold Service.opened Service.book
  obtain ⟨e, s', t', hs, ht, h'⟩ | ⟨outcome, s', t', hs, ht, h'⟩ :=
    (hR.atDesk (hR.record h hp) (Desk.book p.lane ⟨p.number, p.author, clock⟩)).cases
  · rw [hs, ht]
    exact ⟨rfl, h'⟩
  · rw [hs, ht]
    cases outcome with
    | added place => exact ⟨rfl, h'⟩
    | duplicate =>
      dsimp only
      obtain ⟨e, s'', t'', hs, ht, h''⟩ | ⟨place, s'', t'', hs, ht, h''⟩ :=
        (hR.labelPlace h' hp).cases
      · rw [hs, ht]
        exact ⟨rfl, h''⟩
      · rw [hs, ht]
        exact ⟨rfl, h''⟩

/-- A pull request has new commits. -/
lemma updated (h : R s t) {p : Pull} (hp : K p) : Agree R (s.updated p) (t.updated p) :=
  hR.labelPlace (hR.record h hp) hp

/-- A pull request is closed. -/
lemma closed (h : R s t) {p : Pull} (hp : K p) (closing : Closing) :
    Agree R (s.closed p closing) (t.closed p closing) := by
  unfold Service.closed Service.unbook
  obtain ⟨e, s', t', hs, ht, h'⟩ | ⟨outcome, s', t', hs, ht, h'⟩ :=
    (hR.atDesk h (Desk.unbook p.lane p.number true)).cases
  · rw [hs, ht]
    exact ⟨rfl, h'⟩
  · rw [hs, ht]
    exact ⟨rfl, hR.forget (hR.post h' hp _) hp⟩

/-- Somebody posts a status. -/
lemma checkChanged (h : R s t) (change : CheckChange) :
    Agree R (s.checkChanged change) (t.checkChanged change) := by
  simp only [Service.checkChanged, ← hR.context h, ← hR.registry h]
  split
  · exact ⟨rfl, h⟩
  · cases s.registry.findByHead? change.repo change.commit with
    | none => exact ⟨rfl, h⟩
    | some p =>
      dsimp only
      obtain ⟨e, s', t', hs, ht, h'⟩ | ⟨head, s', t', hs, ht, h'⟩ :=
        (hR.atDesk h (Desk.head p.lane)).cases
      · rw [hs, ht]
        exact ⟨rfl, h'⟩
      · rw [hs, ht]
        cases head with
        | none => exact ⟨rfl, h'⟩
        | some b =>
          dsimp only
          split_ifs
          · exact ⟨rfl, h'⟩
          · exact ⟨rfl, hR.publish h' rfl⟩
          · exact ⟨rfl, h'⟩

/-- A call is made. -/
theorem perform (h : R s t) {c : Call} (hc : ∀ p, c.pull? = some p → K p) :
    Agree R (s.perform c) (t.perform c) := by
  cases c with
  | opened p clock => exact (hR.opened h (hc p rfl) clock).imp_left (congrArg Reply.booked)
  | updated p => exact (hR.updated h (hc p rfl)).imp_left (congrArg Reply.placed)
  | closed p closing => exact (hR.closed h (hc p rfl) closing).imp_left (congrArg Reply.unbooked)
  | book lane b => exact (hR.atDesk h (Desk.book lane b)).imp_left (congrArg Reply.booked)
  | unbook lane n =>
    exact (hR.atDesk h (Desk.unbook lane n false)).imp_left (congrArg Reply.unbooked)

end KeptByCalls

/-! ## Tasks -/

namespace KeptByTasks

variable [Store σ] (hR : KeptByTasks K R)
include hR

/-- The new head of a lane is told. -/
lemma onChange (h : R s t) (e : LaneEvent) : R (s.onChange e) (t.onChange e) := by
  cases e with
  | added lane b place =>
    simp only [Service.onChange]
    split
    · exact hR.notifyHead h _ _ _
    · exact h
  | removed lane b removal =>
    simp only [Service.onChange]
    split
    · obtain ⟨e, s', t', hs, ht, h'⟩ | ⟨head, s', t', hs, ht, h'⟩ :=
        (hR.atDesk h (Desk.head lane)).cases
      · rw [hs, ht]
        exact h'
      · rw [hs, ht]
        cases head with
        | none => exact hR.vacate h' lane
        | some b => exact hR.notifyHead h' _ _ _
    · exact h

/-- An event is handled. -/
theorem handle (h : R s t) (handler : Handler) (e : Event) :
    R (s.handle handler e) (t.handle handler e) := by
  cases handler with
  | labelAdded => rcases e with (_ | _) | _ | _ <;> first | exact hR.onAdded h _ _ | exact h
  | labelRemoved => rcases e with (_ | _) | _ | _ <;> first | exact hR.onRemoved h _ _ _ | exact h
  | noticeHead => cases e <;> first | exact hR.onChange h _ | exact h
  | noticeChecks => cases e <;> first | exact hR.onChecks h _ | exact h
  | measure => cases e <;> first | exact hR.measure h _ | exact h
  | watch => cases e <;> first | exact hR.showLane h _ | exact h

/-- One of the tasks is run. -/
lemma runAt (h : R s t) (i : Nat) : R (s.runAt i) (t.runAt i) := by
  simp only [Service.runAt, ← hR.tasks h]
  cases s.tasks[i]? with
  | none => exact h
  | some task =>
    refine hR.handle ?_ task.handler task.event
    have htaken := hR.takeTask h i
    rwa [← hR.tasks h] at htaken

/-- A number of tasks are run. -/
lemma runTasks (h : R s t) (n : Nat) : R (s.runTasks n) (t.runTasks n) := by
  induction n generalizing s t with
  | zero => exact h
  | succ n ih =>
    have hnext := hR.runAt h 0
    rw [runAt_zero, runAt_zero] at hnext
    exact ih hnext

/-- All tasks are run. -/
lemma settle (h : R s t) : R s.settle t.settle := by
  simp only [Service.settle, ← hR.tasks h]
  exact hR.runTasks h _

end KeptByTasks

/-! ## Alarms and schedules -/

namespace KeptByTime

section Alarms

variable (hR : KeptByTime K R)
include hR

/-- One of the alarms rings. -/
lemma ringAt (h : R s t) (i : Nat) : R (s.ringAt i) (t.ringAt i) := by
  have htaken := hR.takeAlarm h i
  simp only [Service.ringAt, ← hR.alarms h] at htaken ⊢
  cases s.alarms[i]? with
  | none => exact h
  | some a =>
    by_cases hdue : a.due ≤ s.now
    · simp only [if_pos hdue, if_pos (hR.now h ▸ hdue)]
      exact hR.ring htaken a
    · simp only [if_neg hdue, if_neg (hR.now h ▸ hdue)]
      exact h

variable [Store σ]

/-- The next alarm rings. -/
lemma ringNext (h : R s t) : R s.ringNext t.ringNext := by
  have htaken := hR.takeAlarm h 0
  simp only [Service.ringNext, ← hR.alarms h] at htaken ⊢
  cases halarms : s.alarms with
  | nil => exact h
  | cons a rest =>
    rw [halarms] at htaken
    exact hR.settle (hR.ring (hR.withNow htaken a.due) a)

/-- The alarms ring up to a time. -/
lemma ringUntil (h : R s t) (time n : Nat) : R (s.ringUntil time n) (t.ringUntil time n) := by
  induction n generalizing s t with
  | zero => exact h
  | succ n ih =>
    simp only [Service.ringUntil, ← hR.alarms h]
    cases s.alarms with
    | nil => exact h
    | cons a rest =>
      dsimp only
      split
      · exact ih (hR.ringNext h)
      · exact h

/-- A number of alarms ring. -/
lemma ringAll (h : R s t) (n : Nat) : R (s.ringAll n) (t.ringAll n) := by
  induction n generalizing s t with
  | zero => exact h
  | succ n ih => exact ih (hR.ringNext h)

/-- Time passes. -/
lemma advance (h : R s t) (ms : Nat) : R (s.advance ms) (t.advance ms) := by
  have hsettled := hR.settle h
  simp only [Service.advance, ← hR.now hsettled, ← hR.alarms hsettled]
  exact hR.withNow (hR.ringUntil hsettled _ _) _

/-- All comes to rest. -/
lemma drain (h : R s t) : R s.drain t.drain := by
  have hsettled := hR.settle h
  simp only [Service.drain, ← hR.alarms hsettled]
  exact hR.ringAll hsettled _

end Alarms

end KeptByTime

/-- What an act says about a pull request, if it is the call of a webhook about one. -/
def Act.pull? : Act σ → Option Pull
  | .call c => c.pull?
  | _ => none

namespace KeptByTime

variable [Store σ] (hR : KeptByTime K R)
include hR

/-- An act is answered alike, and keeps the relation. -/
theorem act (h : R s t) {a : Act σ} (ha : ∀ p, a.pull? = some p → K p) :
    Agree R (s.act a) (t.act a) := by
  cases a with
  | call c => exact hR.perform h ha
  | check change => exact (hR.checkChanged h change).imp_left (congrArg Reply.checked)
  | relabel lane => exact (hR.relabel h lane).imp_left (congrArg Reply.relabelled)
  | task i => exact ⟨rfl, hR.runAt h i⟩
  | alarm i => exact ⟨rfl, hR.ringAt h i⟩
  | wait ms =>
    simp only [Service.act, ← hR.now h]
    exact ⟨rfl, hR.withNow h _⟩
  | advance ms => exact ⟨rfl, hR.advance h ms⟩
  | drain => exact ⟨rfl, hR.drain h⟩
  | outside f =>
    simp only [Service.act, ← hR.store h]
    exact ⟨rfl, hR.withStore h _⟩

/-- So is a schedule. -/
theorem enact (h : R s t) {acts : List (Act σ)}
    (hacts : ∀ p ∈ acts.filterMap Act.pull?, K p) : Agree R (enact acts s) (enact acts t) := by
  induction acts generalizing s t with
  | nil => exact ⟨rfl, h⟩
  | cons a acts ih =>
    have hpulls : ∀ b ∈ a :: acts, ∀ p, b.pull? = some p → K p :=
      fun b hb p hp => hacts p (List.mem_filterMap.2 ⟨b, hb, hp⟩)
    obtain ⟨hreply, h'⟩ := hR.act h (hpulls a List.mem_cons_self)
    obtain ⟨hreplies, h''⟩ := ih h' fun p hp => by
      obtain ⟨b, hb, hbp⟩ := List.mem_filterMap.1 hp
      exact hpulls b (List.mem_cons_of_mem _ hb) p hbp
    exact ⟨congrArg₂ List.cons hreply hreplies, h''⟩

end KeptByTime

/-! ## Properties of one service -/

/-- The parts of calls, and of tasks that tell nobody anything, keep a property. -/
structure UpheldByCalls (K : Pull → Prop) (P : Service σ → Prop) : Prop where
  withStore : ∀ {s}, P s → ∀ store, P { s with store }
  publish : ∀ {s}, P s → ∀ {e : Event}, e.isFailure = false → P (s.publish e)
  record : ∀ {s}, P s → ∀ {p}, K p → P (s.withRegistry (·.record p))
  forget : ∀ {s}, P s → ∀ {p : Pull}, K p → P (s.withRegistry (·.forget p.key))
  post : ∀ {s}, P s → ∀ {p : Pull}, K p → ∀ report, P (s.post p.lane p report).2
  postRecorded : ∀ {s}, P s → ∀ {lane : Lane} {n p},
    s.registry.get? ⟨lane.repo, n⟩ = some p → ∀ report, P (s.post lane p report).2
  meter : ∀ {s}, P s → ∀ m, P (s.meter m)
  showSnapshot : ∀ {s}, P s → ∀ x, P (s.showSnapshot x)

/-- All tasks, alarms and the clock keep it too. -/
structure Upheld (K : Pull → Prop) (P : Service σ → Prop) : Prop extends UpheldByCalls K P where
  takeTask : ∀ {s}, P s → ∀ i, P { s with tasks := s.tasks.eraseIdx i }
  notifyHead : ∀ {s}, P s → ∀ lane n username, P (s.notifyHead lane n username)
  vacate : ∀ {s}, P s → ∀ lane, P (s.vacate lane)
  onChecks : ∀ {s}, P s → ∀ c, P (s.onChecks c)
  takeAlarm : ∀ {s}, P s → ∀ i, P { s with alarms := s.alarms.eraseIdx i }
  withNow : ∀ {s}, P s → ∀ now, P { s with now }
  ring : ∀ {s}, P s → ∀ a, P (s.ring a)

variable {P : Service σ → Prop}

namespace UpheldByCalls

variable (hP : UpheldByCalls K P)
include hP

/-- A property is a relation of a service with itself. -/
lemma kept : KeptByCalls K fun s t => s = t ∧ P s where
  context h := h.1 ▸ rfl
  store h := h.1 ▸ rfl
  registry h := h.1 ▸ rfl
  withStore h store := h.1 ▸ ⟨rfl, hP.withStore h.2 store⟩
  publish h _ he := h.1 ▸ ⟨rfl, hP.publish h.2 he⟩
  record h _ hp := h.1 ▸ ⟨rfl, hP.record h.2 hp⟩
  forget h _ hp := h.1 ▸ ⟨rfl, hP.forget h.2 hp⟩
  post h _ hp report := h.1 ▸ ⟨rfl, hP.post h.2 hp report⟩
  postRecorded h _ _ _ hp report := h.1 ▸ ⟨rfl, hP.postRecorded h.2 hp report⟩
  meter h m := h.1 ▸ ⟨rfl, hP.meter h.2 m⟩
  showSnapshot h x := h.1 ▸ ⟨rfl, hP.showSnapshot h.2 x⟩

variable [Store σ]

/-- A call keeps the property. -/
lemma perform (h : P s) {c : Call} (hc : ∀ p, c.pull? = some p → K p) : P (s.perform c).2 :=
  (hP.kept.perform ⟨rfl, h⟩ hc).2.2

/-- A status that somebody posts keeps the property. -/
lemma checkChanged (h : P s) (change : CheckChange) : P (s.checkChanged change).2 :=
  (hP.kept.checkChanged ⟨rfl, h⟩ change).2.2

end UpheldByCalls

namespace Upheld

variable (hP : Upheld K P)
include hP

/-- A property is a relation of a service with itself. -/
lemma keptByTime : KeptByTime K fun s t => s = t ∧ P s where
  toKeptByCalls := hP.kept
  tasks h := h.1 ▸ rfl
  alarms h := h.1 ▸ rfl
  now h := h.1 ▸ rfl
  takeTask h i := h.1 ▸ ⟨rfl, hP.takeTask h.2 i⟩
  notifyHead h lane n username := h.1 ▸ ⟨rfl, hP.notifyHead h.2 lane n username⟩
  vacate h lane := h.1 ▸ ⟨rfl, hP.vacate h.2 lane⟩
  onChecks h c := h.1 ▸ ⟨rfl, hP.onChecks h.2 c⟩
  takeAlarm h i := h.1 ▸ ⟨rfl, hP.takeAlarm h.2 i⟩
  withNow h now := h.1 ▸ ⟨rfl, hP.withNow h.2 now⟩
  ring h a := h.1 ▸ ⟨rfl, hP.ring h.2 a⟩

variable [Store σ]

/-- A schedule keeps the property. -/
theorem enact (h : P s) {acts : List (Act σ)} (hacts : ∀ p ∈ acts.filterMap Act.pull?, K p) :
    P (enact acts s).2 :=
  (hP.keptByTime.enact ⟨rfl, h⟩ hacts).2.2

end Upheld

/-! ## What has to do with labels only -/

/-- Two states of the service differ at most in what people have been told and are about to be. -/
structure Silent (s t : Service σ) : Prop where
  rules : t.rules = s.rules
  clients : t.clients = s.clients
  store : t.store = s.store
  registry : t.registry = s.registry
  reports : t.ledger.reports = s.ledger.reports

namespace Silent

/-- Telling a head is silent. -/
lemma notifyHead (lane : Lane) (n : PullNumber) (username : String) (s : Service σ) :
    Silent s (s.notifyHead lane n username) := by
  by_cases htold : s.dispatch.heads[lane]? = some n
  · rw [Service.notifyHead, if_pos htold]
    exact ⟨rfl, rfl, rfl, rfl, rfl⟩
  · obtain ⟨pending, alarms, error, events, hwrites⟩ := s.notifyHead_writes lane username htold
    rw [hwrites]
    exact ⟨rfl, rfl, rfl, rfl, rfl⟩

/-- Noting that a lane has no head is silent. -/
lemma vacate (lane : Lane) (s : Service σ) : Silent s (s.vacate lane) := by
  obtain ⟨pending, alarms, hwrites⟩ := s.vacate_writes lane
  rw [hwrites]
  exact ⟨rfl, rfl, rfl, rfl, rfl⟩

/-- Delivering a result of checks is silent. -/
lemma ring (a : Alarm) (s : Service σ) : Silent s (s.ring a) := by
  obtain ⟨pending, delivered, notices, events, hwrites, -⟩ := s.ring_writes a
  rw [hwrites]
  exact ⟨rfl, rfl, rfl, rfl, rfl⟩

/-- Holding a result of checks back is silent. -/
lemma onChecks (c : HeadChecks) (s : Service σ) : Silent s (s.onChecks c) := by
  obtain ⟨pending, delivered, nextGeneration, alarms, notices, events, hwrites, -⟩ :=
    s.onChecks_writes c
  rw [hwrites]
  exact ⟨rfl, rfl, rfl, rfl, rfl⟩

/-- Showing a lane is silent. -/
lemma showSnapshot (x : LaneSnapshot) (s : Service σ) : Silent s (s.showSnapshot x) := by
  unfold Service.showSnapshot
  dsimp only
  split <;> exact ⟨rfl, rfl, rfl, rfl, rfl⟩

end Silent

/-- A property that is not about what people are told is kept if it is kept by changes of the store
and of the records and by posting. -/
lemma Upheld.of_silent (hsilent : ∀ {s t : Service σ}, P s → Silent s t → P t)
    (hstore : ∀ {s}, P s → ∀ store, P { s with store })
    (hrecord : ∀ {s}, P s → ∀ {p}, K p → P (s.withRegistry (·.record p)))
    (hforget : ∀ {s}, P s → ∀ {p : Pull}, K p → P (s.withRegistry (·.forget p.key)))
    (hpost : ∀ {s}, P s → ∀ {lane : Lane} {p : Pull},
      (K p ∨ ∃ n, s.registry.get? ⟨lane.repo, n⟩ = some p) → ∀ report,
        P (s.post lane p report).2) : Upheld K P where
  withStore h := hstore h
  publish h _ _ := hsilent h ⟨rfl, rfl, rfl, rfl, rfl⟩
  record h _ := hrecord h
  forget h _ := hforget h
  post h _ hp := hpost h (.inl hp)
  postRecorded h _ n _ hp := hpost h (.inr ⟨n, hp⟩)
  takeTask h _ := hsilent h ⟨rfl, rfl, rfl, rfl, rfl⟩
  notifyHead h _ _ _ := hsilent h (.notifyHead ..)
  vacate h _ := hsilent h (.vacate ..)
  onChecks h _ := hsilent h (.onChecks ..)
  meter h _ := hsilent h ⟨rfl, rfl, rfl, rfl, rfl⟩
  showSnapshot h _ := hsilent h (.showSnapshot ..)
  takeAlarm h _ := hsilent h ⟨rfl, rfl, rfl, rfl, rfl⟩
  withNow h _ := hsilent h ⟨rfl, rfl, rfl, rfl, rfl⟩
  ring h _ := hsilent h (.ring ..)

/-- What is on record changes only when something is recorded or forgotten. -/
lemma Upheld.of_registry {P : Registry → Prop}
    (hrecord : ∀ {r}, P r → ∀ {p}, K p → P (r.record p))
    (hforget : ∀ {r}, P r → ∀ {p : Pull}, K p → P (r.forget p.key)) :
    Upheld K fun s : Service σ => P s.registry :=
  .of_silent (fun h hs => hs.registry ▸ h) (fun h _ => h) (fun h _ => hrecord h)
    (fun h _ => hforget h) fun {s} h lane p _ report => by
      obtain ⟨reports, failures, hwrites⟩ := s.post_writes lane p report
      rw [hwrites]
      exact h

/-- The rules and the clients do not change. -/
lemma upheld_settings (rules : Rules) (clients : Clients) :
    Upheld K fun s : Service σ => s.rules = rules ∧ s.clients = clients :=
  .of_silent (fun h hs => ⟨hs.rules.trans h.1, hs.clients.trans h.2⟩) (fun h _ => h)
    (fun h _ _ => h) (fun h _ _ => h) fun {s} h lane p _ report => by
      obtain ⟨reports, failures, hwrites⟩ := s.post_writes lane p report
      rw [hwrites]
      exact h

end Service

end MergeTurn
