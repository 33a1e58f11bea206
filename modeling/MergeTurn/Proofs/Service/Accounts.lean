import MergeTurn.Proofs.Service.Showings

set_option autoImplicit false

/-!
# The accounts of a lane

A change of a lane is counted as what it was, but the lane is measured and shown as it is when the
task for that runs. So what was measured and shown meanwhile may be off in every way. Still nothing
gets lost: each change was counted, or a task is there that will count it, and whatever a lane is
like, it was measured and shown as such or a task is there that will do so.

## Main definitions

* `MergeTurn.Account` — what was published, counted, measured and shown of a lane.
* `MergeTurn.Account.Moves` — what can happen to an account.
* `MergeTurn.Account.Fair` — an account that loses nothing.
* `MergeTurn.Service.account` — the account of a lane.

## Main results

* `MergeTurn.Account.Fair.moves` — a fair account stays fair.
* `MergeTurn.Service.account_step` — what each step does to the account of a lane.
* `MergeTurn.Service.accounts_settle` — without tasks the accounts agree with the lane.
-/

namespace MergeTurn

/-- The change that an event tells of, if it is one of a lane. -/
def Event.change? : Event → Option LaneEvent
  | .lane e => some e
  | _ => none

/-- The change of a lane that a task of a handler is for. -/
def Task.change? (h : Handler) (task : Task) : Option LaneEvent :=
  if task.handler = h then task.event.change? else none

/-- A task that is none of those that a handler has for changes of lanes is for no change. -/
lemma Task.change?_of_ne {h : Handler} {task : Task} (hne : ∀ e, task ≠ ⟨h, .lane e⟩) :
    task.change? h = none := by
  obtain ⟨h', e⟩ := task
  unfold change?
  split_ifs with heq
  · cases e with
    | lane e => exact absurd (congrArg (Task.mk · (.lane e)) heq) (hne e)
    | checks | failed => rfl
  · rfl

/-- What a metric of a lane counts. -/
def Metric.counterOf? (k : Lane) : Metric → Option String
  | .counter name tags => if tags = k.tags then some name else none
  | .gauge .. => none

/-- The length of a lane that a metric gives. -/
def Metric.lengthOf? (k : Lane) : Metric → Option Nat
  | .counter .. => none
  | .gauge name length tags => if name = lengthGauge ∧ tags = k.tags then some length else none

/-- The metrics of a lane are filed under its own names. -/
lemma Lane.tags_inj {l k : Lane} : l.tags = k.tags ↔ l = k := by
  refine ⟨fun h => ?_, congrArg Lane.tags⟩
  obtain ⟨⟨owner, name⟩, branch⟩ := l
  obtain ⟨⟨owner', name'⟩, branch'⟩ := k
  simp only [Lane.tags, List.cons.injEq, Prod.mk.injEq, true_and, and_true] at h
  obtain ⟨rfl, rfl, rfl, -⟩ := h
  rfl

/-! ## Accounts -/

/-- What was published, counted, measured and shown of a lane. -/
@[ext]
structure Account where
  bookings : List Booking
  /-- The changes that were published, in order. -/
  changes : List LaneEvent
  /-- The changes that are still to be counted and measured. -/
  unmeasured : List LaneEvent
  /-- The changes that are still to be shown. -/
  unshown : List LaneEvent
  /-- The counters that went up, in order. -/
  counters : List String
  /-- The lengths that were measured, in order. -/
  lengths : List Nat
  /-- The contents that were shown, in order. -/
  shown : List (List Booking)

namespace Account

/-- A change makes a lane longer or shorter by one, as it is counted. -/
def Resizes (e : LaneEvent) (before after : List Booking) : Prop :=
  (e.counter = addCounter ∧ after.length = before.length + 1) ∨
    (e.counter = removeCounter ∧ after.length + 1 = before.length)

/-- What can happen to an account: nothing, a change, or that one of the changes is followed up. -/
inductive Moves (a : Account) : Account → Prop
  | still : Moves a a
  | changed {e : LaneEvent} {bookings : List Booking} (h : Resizes e a.bookings bookings) :
    Moves a { a with
      bookings, changes := a.changes ++ [e], unmeasured := a.unmeasured ++ [e]
      unshown := a.unshown ++ [e] }
  | measured {e : LaneEvent} {rest : List LaneEvent} (h : a.unmeasured = e :: rest) :
    Moves a { a with
      unmeasured := rest, counters := a.counters ++ [e.counter]
      lengths := a.lengths ++ [a.bookings.length] }
  | shown {e : LaneEvent} {rest : List LaneEvent} (h : a.unshown = e :: rest) :
    Moves a { a with unshown := rest, shown := a.shown ++ [a.bookings] }

/-- An account that loses nothing. -/
structure Fair (a : Account) : Prop where
  /-- The counters are those of the changes, as far as they were followed up. -/
  counted : a.counters ++ a.unmeasured.map LaneEvent.counter = a.changes.map LaneEvent.counter
  /-- The lane is as long as the changes make it. -/
  balance : (a.changes.map LaneEvent.counter).count addCounter =
    (a.changes.map LaneEvent.counter).count removeCounter + a.bookings.length
  measured : a.lengths.length + a.unmeasured.length = a.changes.length
  shownFor : a.shown.length + a.unshown.length = a.changes.length
  /-- The lane was last measured as it is, or will be. -/
  lastLength : a.changes = [] ∨ a.unmeasured ≠ [] ∨ a.lengths.getLast? = some a.bookings.length
  /-- The lane was last shown as it is, or will be. -/
  lastShown : a.changes = [] ∨ a.unshown ≠ [] ∨ a.shown.getLast? = some a.bookings

/-- An account without any entry is fair. -/
lemma fair_empty : Fair ⟨[], [], [], [], [], [], []⟩ where
  counted := rfl
  balance := rfl
  measured := rfl
  shownFor := rfl
  lastLength := .inl rfl
  lastShown := .inl rfl

/-- A fair account stays fair.

**Proof sketch.** A change is counted with the bookings that it adds, and leaves two tasks. A task
writes down what the lane is like, so after it the last entry is right whatever was wrong before. -/
theorem Fair.moves {a b : Account} (h : a.Fair) (hab : a.Moves b) : b.Fair := by
  cases hab with
  | still => exact h
  | @changed e bookings hsize =>
    refine ⟨?_, ?_, ?_, ?_, .inr (.inl (by simp)), .inr (.inl (by simp))⟩
    · simp only [List.map_append, ← List.append_assoc, h.counted]
    · have hne : addCounter ≠ removeCounter := by decide
      have hbalance := h.balance
      simp only [List.map_append, List.map_cons, List.map_nil, List.count_append]
      obtain ⟨hcounter, hlength⟩ | ⟨hcounter, hlength⟩ := hsize
      · rw [hcounter, List.count_singleton_self, List.count_singleton, beq_eq_false_iff_ne.2 hne]
        simp only [Bool.false_eq_true, if_false]
        omega
      · rw [hcounter, List.count_singleton_self, List.count_singleton,
          beq_eq_false_iff_ne.2 hne.symm]
        simp only [Bool.false_eq_true, if_false]
        omega
    · have hmeasured := h.measured
      simp only [List.length_append, List.length_singleton]
      omega
    · have hshown := h.shownFor
      simp only [List.length_append, List.length_singleton]
      omega
  | @measured e rest hnext =>
    have hcounted := h.counted
    have hmeasured := h.measured
    rw [hnext] at hcounted hmeasured
    refine ⟨?_, h.balance, ?_, h.shownFor, .inr (.inr (by simp)), h.lastShown⟩
    · rw [List.append_assoc]
      exact hcounted
    · simp only [List.length_append, List.length_cons, List.length_nil] at hmeasured ⊢
      omega
  | @shown e rest hnext =>
    have hshown := h.shownFor
    rw [hnext] at hshown
    refine ⟨h.counted, h.balance, h.measured, ?_, h.lastLength, .inr (.inr (by simp))⟩
    simp only [List.length_append, List.length_cons, List.length_nil] at hshown ⊢
    omega

end Account

namespace Service

/-! ## The account of a lane -/

section Changes

variable {σ : Type}

/-- The changes of a lane that were published, in order. -/
def changes (k : Lane) (s : Service σ) : List LaneEvent :=
  (s.ledger.events.filterMap Event.change?).filter (·.lane == k)

/-- The changes of a lane that a handler is still to follow up, in order. -/
def due (h : Handler) (k : Lane) (tasks : List Task) : List LaneEvent :=
  (tasks.filterMap (Task.change? h)).filter (·.lane == k)

/-- The lengths of a lane that were measured, in order. -/
def lengths (k : Lane) (s : Service σ) : List Nat :=
  s.ledger.metrics.filterMap (Metric.lengthOf? k)

/-- How often a counter of a lane went up. -/
def counts (name : String) (k : Lane) (s : Service σ) : Nat :=
  s.ledger.metrics.count (.counter name k.tags)

/-- The snapshots of a lane that were shown, in order. -/
def shownOf (k : Lane) (s : Service σ) : List LaneSnapshot :=
  s.shown.filter (·.lane == k)

end Changes

/-- What was published, counted, measured and shown of a lane. -/
def account (k : Lane) (s : Service Memory) : Account where
  bookings := s.store.lanes k
  changes := s.changes k
  unmeasured := due .measure k s.tasks
  unshown := due .watch k s.tasks
  counters := s.ledger.metrics.filterMap (Metric.counterOf? k)
  lengths := s.lengths k
  shown := (s.shownOf k).map (·.bookings)

variable {k : Lane} {s t : Service Memory}

/-! ## Tasks that enter nothing in an account -/

/-- Two states of the service differ in no metric and in no change of a lane. -/
structure Uncounted (s t : Service Memory) : Prop where
  metrics : t.ledger.metrics = s.ledger.metrics
  changes : t.ledger.events.filterMap Event.change? = s.ledger.events.filterMap Event.change?

/-- Side effects that could not be delivered are no changes of lanes. -/
lemma filterMap_change?_failed (events : List Event) (failures : List DeliveryFailure) :
    (events ++ List.map Event.failed failures).filterMap Event.change? =
      events.filterMap Event.change? := by
  have hnone : (failures.map Event.failed).filterMap Event.change? = [] :=
    List.filterMap_eq_nil_iff.2 fun e he => by
      obtain ⟨f, -, rfl⟩ := List.mem_map.1 he
      rfl
  rw [List.filterMap_append, hnone, List.append_nil]

/-- Every state is like itself. -/
lemma Uncounted.refl (s : Service Memory) : Uncounted s s := ⟨rfl, rfl⟩

/-- Telling a head is not counted. -/
lemma notifyHead_uncounted (l : Lane) (n : PullNumber) (username : String) (s : Service Memory) :
    Uncounted s (s.notifyHead l n username) := by
  by_cases htold : s.dispatch.heads[l]? = some n
  · rw [notifyHead, if_pos htold]
    exact .refl s
  · obtain ⟨pending, alarms, error, failures, hwrites⟩ := s.notifyHead_writes l username htold
    rw [hwrites]
    exact ⟨rfl, filterMap_change?_failed ..⟩

/-- Following a change up with a notice is not counted. -/
lemma onChange_uncounted (e : LaneEvent) (s : Service Memory) : Uncounted s (s.onChange e) := by
  cases e with
  | added l b place =>
    unfold onChange
    dsimp only
    split
    · exact notifyHead_uncounted l b.number b.username s
    · exact .refl s
  | removed l b removal =>
    obtain ⟨answer, hread⟩ : ∃ answer, s.atDesk (Desk.head l) = (answer, s) := atDesk_read _ _ s
    simp only [onChange, hread]
    split
    · rcases answer with e | (_ | b)
      · exact .refl s
      · obtain ⟨pending, alarms, hwrites⟩ := s.vacate_writes l
        dsimp only
        rw [hwrites]
        exact ⟨rfl, rfl⟩
      · exact notifyHead_uncounted l b.number b.username s
    · exact .refl s

/-- Only the task that is for it counts a change, and none publishes one. -/
lemma handle_uncounted {task : Task} (h : ∀ e : LaneEvent, task ≠ ⟨.measure, .lane e⟩)
    (s : Service Memory) : Uncounted s (s.handle task.handler task.event) := by
  obtain ⟨handler, e⟩ := task
  cases handler with
  | labelAdded =>
    rcases e with (⟨l, b, place⟩ | _) | _ | _ <;> try exact .refl s
    obtain ⟨reports, failures, hwrites⟩ := s.onAdded_writes l b.number
    rw [handle, hwrites]
    exact ⟨rfl, filterMap_change?_failed ..⟩
  | labelRemoved =>
    rcases e with (_ | ⟨l, b, removal⟩) | _ | _ <;> try exact .refl s
    obtain ⟨reports, failures, hwrites⟩ := s.onRemoved_writes l b.number removal.closed
    rw [handle, hwrites]
    exact ⟨rfl, filterMap_change?_failed ..⟩
  | noticeHead => cases e <;> first | exact .refl s | exact onChange_uncounted _ s
  | noticeChecks =>
    rcases e with _ | c | _ <;> try exact .refl s
    obtain ⟨pending, delivered, nextGeneration, alarms, notices, failures, hwrites, -⟩ :=
      s.onChecks_writes c
    rw [handle, hwrites]
    exact ⟨rfl, filterMap_change?_failed ..⟩
  | measure =>
    cases e with
    | lane change => exact absurd rfl (h change)
    | checks | failed => exact .refl s
  | watch =>
    rcases e with change | _ | _ <;> try exact .refl s
    obtain ⟨feed, snapshots, hwrites⟩ := s.showLane_writes change.lane
    rw [handle, hwrites]
    exact ⟨rfl, rfl⟩

/-! ## Tasks that enter something -/

/-- The length of a lane is found as it is. -/
lemma atDesk_length (h : s.store.online = true) (l : Lane) :
    s.atDesk (Desk.length l) = (.ok (s.store.lanes l).length, s) := by
  simp only [atDesk, Desk.length, Store.length, Memory.read, h]
  rfl

/-- A change is counted, and its lane measured as it is. -/
lemma measure_eq (h : s.store.online = true) (e : LaneEvent) :
    s.measure e = { s with ledger := { s.ledger with
      metrics := s.ledger.metrics ++ [.counter e.counter e.lane.tags,
        .gauge lengthGauge (s.store.lanes e.lane).length e.lane.tags] } } := by
  have hread := atDesk_length (s := s.meter (.counter e.counter e.lane.tags)) h e.lane
  simp only [measure, hread]
  simp [meter]

/-- A lane is shown as it is, whether or not those who watch take it. -/
lemma shown_showLane (h : s.store.Serving) (l : Lane) :
    (s.showLane l).shown = s.shown ++ [⟨l, s.store.lanes l⟩] := by
  simp only [showLane, atDesk_bookings h, showSnapshot]
  split <;> simp [shown]

/-- The changes that tasks are for are those that the first is for and those that the others are
for. -/
lemma due_cons (h : Handler) (k : Lane) (task : Task) (rest : List Task) :
    due h k (task :: rest) = (task.change? h).toList.filter (·.lane == k) ++ due h k rest := by
  rw [due, List.filterMap_cons]
  cases task.change? h with
  | none => rfl
  | some e => exact List.filter_append [e] _

/-- The task of a change counts it and measures its lane. -/
lemma account_measure (h : s.store.Serving) {e : LaneEvent} {rest : List Task}
    (htasks : s.tasks = ⟨.measure, .lane e⟩ :: rest) :
    (s.account k).Moves (account k (measure e { s with tasks := rest })) := by
  have hafter := measure_eq (s := { s with tasks := rest }) h.online e
  have hunshown : due .watch k s.tasks = due .watch k rest := by
    simp [htasks, due_cons, Task.change?]
  rw [hafter]
  by_cases hk : e.lane = k
  · have hnext : (s.account k).unmeasured = e :: due .measure k rest := by
      simp [account, htasks, due_cons, Task.change?, Event.change?, hk]
    have hmoved := Account.Moves.measured hnext
    convert hmoved using 1
    refine Account.ext rfl rfl rfl hunshown.symm ?_ ?_ rfl
    · simp [account, Metric.counterOf?, hk]
    · simp [account, lengths, List.filterMap_cons, Metric.lengthOf?, hk]
  · have htags : ¬ e.lane.tags = k.tags := fun h => hk (Lane.tags_inj.1 h)
    convert Account.Moves.still using 1
    refine Account.ext rfl rfl ?_ hunshown.symm ?_ ?_ rfl
    · simp [account, htasks, due_cons, Task.change?, Event.change?, hk]
    · simp [account, Metric.counterOf?, htags]
    · simp [account, lengths, Metric.lengthOf?, htags]

/-- The task of a change shows its lane. -/
lemma account_showLane (h : s.store.Serving) {e : LaneEvent} {rest : List Task}
    (htasks : s.tasks = ⟨.watch, .lane e⟩ :: rest) :
    (s.account k).Moves (account k (showLane e.lane { s with tasks := rest })) := by
  have hshown := shown_showLane (s := { s with tasks := rest }) h e.lane
  have hunmeasured : due .measure k s.tasks = due .measure k rest := by
    simp [htasks, due_cons, Task.change?]
  obtain ⟨feed, snapshots, hwrites⟩ := showLane_writes { s with tasks := rest } e.lane
  rw [hwrites] at hshown ⊢
  simp only [shown] at hshown
  by_cases hk : e.lane = k
  · have hnext : (s.account k).unshown = e :: due .watch k rest := by
      simp [account, htasks, due_cons, Task.change?, Event.change?, hk]
    have hmoved := Account.Moves.shown hnext
    convert hmoved using 1
    refine Account.ext rfl rfl hunmeasured.symm rfl rfl rfl ?_
    simp [account, shownOf, shown, hshown, hk]
  · convert Account.Moves.still using 1
    refine Account.ext rfl rfl hunmeasured.symm ?_ rfl rfl ?_
    · simp [account, htasks, due_cons, Task.change?, Event.change?, hk]
    · simp [account, shownOf, shown, hshown, hk]

/-- A task counts and measures, or shows, or enters nothing in an account. -/
lemma account_runNext (h : s.store.Serving) : (s.account k).Moves (s.runNext.account k) := by
  unfold runNext
  cases htasks : s.tasks with
  | nil => exact .still
  | cons task rest =>
    by_cases hmeasure : ∃ e : LaneEvent, task = ⟨.measure, .lane e⟩
    · obtain ⟨e, rfl⟩ := hmeasure
      exact account_measure h htasks
    by_cases hwatch : ∃ e : LaneEvent, task = ⟨.watch, .lane e⟩
    · obtain ⟨e, rfl⟩ := hwatch
      exact account_showLane h htasks
    -- Every other task is for no change that has to be entered.
    have hne := not_exists.1 hmeasure
    have hne' := not_exists.1 hwatch
    have hunmeasured : due .measure k s.tasks = due .measure k rest := by
      rw [htasks, due_cons, Task.change?_of_ne hne]
      rfl
    have hunshown : due .watch k s.tasks = due .watch k rest := by
      rw [htasks, due_cons, Task.change?_of_ne hne']
      rfl
    obtain ⟨hstore, htasks'⟩ := handle_eq task { s with tasks := rest }
    have huncounted := handle_uncounted hne { s with tasks := rest }
    have hunseen := unseen_handle hne' { s with tasks := rest }
    convert Account.Moves.still using 1
    refine Account.ext ?_ ?_ ?_ ?_ ?_ ?_ ?_
    · simp [account, hstore]
    · simp [account, changes, huncounted.changes]
    · simp [account, htasks', hunmeasured]
    · simp [account, htasks', hunshown]
    · simp [account, huncounted.metrics]
    · simp [account, lengths, huncounted.metrics]
    · simp [account, shownOf, shown, hunseen.snapshots]

/-! ## Requests -/

/-- A true change makes its lane longer or shorter as it is counted. -/
lemma resizes_of_trueOf {w : Lane → List Booking} {e : LaneEvent} (h : e.TrueOf w) :
    Account.Resizes e (w e.lane) (e.apply w e.lane) := by
  cases e with
  | added l b place =>
    refine .inl ⟨rfl, ?_⟩
    simp [LaneEvent.lane, LaneEvent.apply_added]
  | removed l b removal =>
    refine .inr ⟨rfl, ?_⟩
    have hmem : b ∈ w l := List.mem_of_find?_eq_some h.1
    have hpos : 0 < (w l).length := List.length_pos_of_mem hmem
    have hlength := List.length_eraseP_of_mem hmem (p := (·.number == b.number)) (by simp)
    simp only [LaneEvent.lane, LaneEvent.apply_removed, if_true, hlength]
    omega

/-- The tasks of a change of the lane follow it up. -/
lemma due_publish {h : Handler} (hh : h = .measure ∨ h = .watch) (k : Lane) (tasks : List Task)
    (e : LaneEvent) :
    due h k (tasks ++ (handlers (.lane e)).map fun h => ⟨h, .lane e⟩) =
      due h k tasks ++ [e].filter (·.lane == k) := by
  have htasks : ((handlers (.lane e)).map fun h => (⟨h, .lane e⟩ : Task)).filterMap
      (Task.change? h) = [e] := by
    cases e with
    | added => rcases hh with rfl | rfl <;> rw [handlers_added] <;> rfl
    | removed => rcases hh with rfl | rfl <;> rw [handlers_removed] <;> rfl
  rw [due, List.filterMap_append, htasks, List.filter_append]
  rfl

/-- A request changes the lane as it is published, or enters nothing in its account. -/
lemma account_request {r : Desk.Request} (hr : r.lane.repo.Colonless) (hk : k.repo.Colonless)
    (s : Service Memory) : (s.account k).Moves ((s.request r).account k) := by
  have htells := Desk.serve_tells hr s.store
  rw [request_eq]
  generalize Desk.serve r s.store = turn at htells ⊢
  cases htells with
  | @nothing a t ha ht =>
    convert Account.Moves.still using 1
    exact Account.ext (ht k) rfl rfl rfl rfl rfl rfl
  | @event a t e ha he htrue ht =>
    have hmeasure := due_publish (.inl rfl) k s.tasks e
    have hwatch := due_publish (.inr rfl) k s.tasks e
    have hevents : (({ s with store := t } : Service Memory).publish (.lane e)).changes k =
        s.changes k ++ [e].filter (·.lane == k) := by
      simp [publish, changes, Event.change?]
    by_cases hlane : e.lane = k
    · have hsize : Account.Resizes e (s.account k).bookings (t.lanes k) := by
        rw [ht k hk, ← hlane]
        exact resizes_of_trueOf htrue
      convert Account.Moves.changed hsize using 1
      rw [List.filter_cons_of_pos (by simp [hlane]), List.filter_nil] at hmeasure hwatch hevents
      exact Account.ext rfl hevents hmeasure hwatch rfl rfl rfl
    · convert Account.Moves.still using 1
      rw [List.filter_cons_of_neg (by simp [hlane]), List.filter_nil, List.append_nil]
        at hmeasure hwatch hevents
      have hlanes : t.lanes k = s.store.lanes k := by
        rw [ht k hk, e.apply_of_ne _ (Ne.symm hlane)]
      exact Account.ext hlanes hevents hmeasure hwatch rfl rfl rfl

/-! ## Runs -/

/-- A step moves the account of a lane. -/
theorem account_step (h : s.store.Serving) {x : Step} (hx : x.Colonless) (hk : k.repo.Colonless) :
    (s.account k).Moves ((s.step x).account k) := by
  cases x with
  | request r => exact account_request hx hk s
  | task => exact account_runNext h

/-- A run keeps the account of a lane fair. -/
theorem fair_play {steps : List Step} (h : s.store.Serving) (hc : ∀ x ∈ steps, x.Colonless)
    (hk : k.repo.Colonless) (hfair : (s.account k).Fair) : ((play steps s).account k).Fair := by
  induction steps generalizing s with
  | nil => exact hfair
  | cons x steps ih =>
    obtain ⟨hx, hrest⟩ := List.forall_mem_cons.1 hc
    exact ih (serving_step h x) hrest (hfair.moves (account_step h hx hk))

/-- Tasks publish no changes of lanes. -/
lemma changes_runNext (h : s.store.online = true) (k : Lane) :
    s.runNext.changes k = s.changes k := by
  unfold runNext
  cases s.tasks with
  | nil => rfl
  | cons task rest =>
    by_cases hmeasure : ∃ e : LaneEvent, task = ⟨.measure, .lane e⟩
    · obtain ⟨e, rfl⟩ := hmeasure
      exact (congrArg (changes k) (measure_eq (s := { s with tasks := rest }) h e)).trans rfl
    · have huncounted := handle_uncounted (not_exists.1 hmeasure) { s with tasks := rest }
      simp only [changes, huncounted.changes]

/-- Only lanes of repositories without colons are changed by requests about such lanes. -/
lemma colonless_of_changes_play {steps : List Step} (h : s.store.Serving)
    (hc : ∀ x ∈ steps, x.Colonless) (hnone : s.changes k = [])
    (hchanged : (play steps s).changes k ≠ []) : k.repo.Colonless := by
  by_contra hk
  refine hchanged ?_
  induction steps generalizing s with
  | nil => exact hnone
  | cons x steps ih =>
    obtain ⟨hx, hrest⟩ := List.forall_mem_cons.1 hc
    refine ih (serving_step h x) hrest ?_ hchanged
    cases x with
    | task => exact (changes_runNext h.online k).trans hnone
    | request r =>
      have htells := Desk.serve_tells hx s.store
      refine (congrArg (changes k) (request_eq r s)).trans ?_
      generalize Desk.serve r s.store = turn at htells ⊢
      cases htells with
      | nothing => exact hnone
      | @event a t e ha he htrue ht =>
        have hlane : e.lane ≠ k := fun hlane => hk (hlane ▸ he ▸ hx)
        have hsame : (({ s with store := t } : Service Memory).publish (.lane e)).changes k =
            s.changes k := by
          simp [publish, changes, Event.change?, hlane]
        exact hsame.trans hnone

/-- Nothing is entered in the accounts of a service over an empty store that has just been
started. -/
lemma account_start (rules : Rules) {m : Memory} (registry : Registry) (room : Nat)
    (clients : Clients) (hm : m.shelves = Shelves.empty) (k : Lane) :
    account k { start rules m registry room with clients } = ⟨[], [], [], [], [], [], []⟩ := by
  have hlanes : m.lanes k = [] :=
    congrArg (fun k' : Books => k'.list k.storeKey)
      ((congrArg Shelves.books hm).trans Shelves.books_empty)
  exact Account.ext hlanes rfl rfl rfl rfl rfl rfl

/-- How often a counter of a lane went up can be read off the account. -/
lemma counts_eq (name : String) (k : Lane) (s : Service Memory) :
    s.counts name k = (s.account k).counters.count name := by
  rw [counts, account, List.count_filterMap, List.count]
  refine List.countP_congr fun metric _ => ?_
  cases metric with
  | counter name' tags => simp [Metric.counterOf?, and_comm]
  | gauge name' length tags => simp [Metric.counterOf?]

/-- What is counted, measured and shown of a lane agrees with what it holds. -/
structure Agrees (k : Lane) (s : Service Memory) : Prop where
  bookings : (s.atDesk (Desk.bookings k)).1 = .ok (s.store.lanes k)
  length : (s.atDesk (Desk.length k)).1 = .ok (s.store.lanes k).length
  counts : (s.counts addCounter k : Int) - s.counts removeCounter k = (s.store.lanes k).length
  lastLength : (s.lengths k).getLast? = some (s.store.lanes k).length
  lastShown : (s.shownOf k).getLast? = some ⟨k, s.store.lanes k⟩
  lengths : (s.lengths k).length = (s.changes k).length
  shown : (s.shownOf k).length = (s.changes k).length

/-- Whatever was counted, measured and shown meanwhile: when no task is left, all of it agrees with
the lane, for every lane that has ever changed.

**Proof sketch.** The account of a lane is fair at first and stays so. Without tasks there is
nothing left that a fair account could still wait for. -/
theorem accounts_settle {rules : Rules} {m : Memory} {registry : Registry} {room : Nat}
    {clients : Clients} {steps : List Step} (hm : m.shelves = Shelves.empty)
    (hserving : m.Serving) (hc : ∀ x ∈ steps, x.Colonless)
    (hrun : play steps { start rules m registry room with clients } = s) (hidle : s.tasks = [])
    {k : Lane} (hchanged : s.changes k ≠ []) : Agrees k s := by
  subst hrun
  have hstart := account_start rules registry room clients hm k
  have hk : k.repo.Colonless :=
    colonless_of_changes_play (s := { start rules m registry room with clients }) hserving hc rfl
      hchanged
  have hfair := fair_play (s := { start rules m registry room with clients }) hserving hc hk
    (hstart ▸ Account.fair_empty)
  have hserving' := serving_play (s := { start rules m registry room with clients }) hserving steps
  generalize play steps { start rules m registry room with clients } = s
    at hidle hchanged hfair hserving'
  have hunmeasured : (s.account k).unmeasured = [] := by simp [account, due, hidle]
  have hunshown : (s.account k).unshown = [] := by simp [account, due, hidle]
  have hcounted := hfair.counted
  have hmeasured := hfair.measured
  have hshown := hfair.shownFor
  have hlastLength := (hfair.lastLength.resolve_left hchanged).resolve_left (not_not.2 hunmeasured)
  have hlastShown := (hfair.lastShown.resolve_left hchanged).resolve_left (not_not.2 hunshown)
  have hbalance := hfair.balance
  rw [hunmeasured, List.map_nil, List.append_nil] at hcounted
  rw [hunmeasured] at hmeasured
  rw [hunshown] at hshown
  rw [← hcounted, ← counts_eq, ← counts_eq] at hbalance
  have hlast : (s.shownOf k).getLast? = some ⟨k, s.store.lanes k⟩ := by
    obtain ⟨⟨l, bookings⟩, hx, hbookings⟩ :=
      Option.map_eq_some_iff.1 (List.getLast?_map.symm.trans hlastShown)
    obtain rfl : l = k := eq_of_beq (List.mem_filter.1 (List.mem_of_getLast? hx)).2
    rw [hx, show bookings = s.store.lanes l from hbookings]
  refine ⟨congrArg Prod.fst (atDesk_bookings hserving' k),
    congrArg Prod.fst (atDesk_length hserving'.online k), ?_, hlastLength, hlast, hmeasured, ?_⟩
  · have hlength : (s.account k).bookings.length = (s.store.lanes k).length := rfl
    omega
  · simpa [account] using hshown

/-- Three changes of a lane are followed up only after the last of them. Then the lane is measured
and shown three times as it is by then, with two bookings counted and one removal. -/
theorem accounts_settle_late :
    let s := play overtakenRun fresh
    s.tasks = [] ∧ (s.changes Desk.mainLane).length = 3 ∧
      s.store.lanes Desk.mainLane = [Desk.sampleBooking 8 "hubot"] ∧
      s.lengths Desk.mainLane = [1, 1, 1] ∧ Agrees Desk.mainLane s := by
  have hidle : (play overtakenRun fresh).tasks = [] := by decide +kernel
  have hchanges : ((play overtakenRun fresh).changes Desk.mainLane).length = 3 := by
    decide +kernel
  have hlane : (play overtakenRun fresh).store.lanes Desk.mainLane =
      [Desk.sampleBooking 8 "hubot"] := by decide +kernel
  have hlengths : (play overtakenRun fresh).lengths Desk.mainLane = [1, 1, 1] := by
    decide +kernel
  have hrun : play overtakenRun { start ⟨"merge-turn", 0⟩ Memory.volatile Registry.volatile 0 with
      clients := .willing } = play overtakenRun fresh := rfl
  have hchanged : (play overtakenRun fresh).changes Desk.mainLane ≠ [] := by
    intro hnone
    rw [hnone] at hchanges
    cases hchanges
  exact ⟨hidle, hchanges, hlane, hlengths, accounts_settle rfl
    ⟨rfl, Memory.writable_of_backing_none rfl⟩ (by decide) hrun hidle hchanged⟩

end Service

end MergeTurn
