import MergeTurn.Proofs.Service.Beats
import MergeTurn.Proofs.Service.Closing

set_option autoImplicit false

/-!
# What is shown to those who watch

Every change of a lane gives the service the task to show it. Such a task shows the lane as it is
when the task runs, however late and in whatever order the tasks run. So the last snapshot of a lane
shows it as it is, or a task is still there that will.

## Main definitions

* `MergeTurn.Service.shown` — the snapshots that were shown.
* `MergeTurn.Service.Unseen` — nothing was shown meanwhile.
* `MergeTurn.Service.AboutToShow` — a task is there that will show a lane.
* `MergeTurn.Service.UpToDate` — the last snapshot of a lane shows it as it is, or will be followed
  by one that does.
* `MergeTurn.Service.Open` — nothing keeps the service from showing lanes.
* `MergeTurn.Service.Shows` — the service goes on, and shows some snapshots.

## Main results

* `MergeTurn.Service.shows_beat` — what each beat shows.
-/

namespace MergeTurn

namespace Service

/-! ## What shows nothing -/

section Unseen

variable {σ : Type}

/-- The snapshots that were shown, in order. -/
def shown (s : Service σ) : List LaneSnapshot :=
  s.ledger.snapshots.map (·.call)

/-- Two states of the service differ in nothing that those who watch can see. -/
structure Unseen (s t : Service σ) : Prop where
  clients : t.clients = s.clients
  feed : t.feed = s.feed
  snapshots : t.ledger.snapshots = s.ledger.snapshots

namespace Unseen

variable {s t u : Service σ}

/-- Every state is like itself. -/
lemma refl (s : Service σ) : Unseen s s := ⟨rfl, rfl, rfl⟩

/-- What goes unseen may be followed by more of it. -/
lemma trans (h : Unseen s t) (h' : Unseen t u) : Unseen s u :=
  ⟨h'.clients.trans h.clients, h'.feed.trans h.feed, h'.snapshots.trans h.snapshots⟩

/-- The work of the desk goes unseen. -/
lemma atDesk {α : Type} (op : σ → Turn σ α) (s : Service σ) : Unseen s (s.atDesk op).2 := by
  obtain ⟨store, tasks, events, hwrites⟩ := s.atDesk_writes op
  rw [hwrites]
  exact ⟨rfl, rfl, rfl⟩

/-- A status that is posted goes unseen. -/
lemma post (lane : Lane) (p : Pull) (report : StatusReport) (s : Service σ) :
    Unseen s (s.post lane p report).2 := by
  obtain ⟨reports, events, hwrites⟩ := s.post_writes lane p report
  rw [hwrites]
  exact ⟨rfl, rfl, rfl⟩

/-- A head that is told goes unseen. -/
lemma notifyHead (lane : Lane) (n : PullNumber) (username : String) (s : Service σ) :
    Unseen s (s.notifyHead lane n username) := by
  by_cases htold : s.dispatch.heads[lane]? = some n
  · rw [Service.notifyHead, if_pos htold]
    exact .refl s
  · obtain ⟨pending, alarms, error, events, hwrites⟩ := s.notifyHead_writes lane username htold
    rw [hwrites]
    exact ⟨rfl, rfl, rfl⟩

/-- A lane that has no head any more goes unseen. -/
lemma vacate (lane : Lane) (s : Service σ) : Unseen s (s.vacate lane) := by
  obtain ⟨pending, alarms, hwrites⟩ := s.vacate_writes lane
  rw [hwrites]
  exact ⟨rfl, rfl, rfl⟩

/-- An alarm that rings goes unseen. -/
lemma ring (a : Alarm) (s : Service σ) : Unseen s (s.ring a) := by
  obtain ⟨pending, delivered, notices, events, hwrites, -⟩ := s.ring_writes a
  rw [hwrites]
  exact ⟨rfl, rfl, rfl⟩

/-- An alarm that is picked goes unseen. -/
lemma ringAt (i : Nat) (s : Service σ) : Unseen s (s.ringAt i) := by
  unfold Service.ringAt
  cases s.alarms[i]? with
  | none => exact .refl s
  | some a =>
    dsimp only
    split
    · have htaken : Unseen s { s with alarms := s.alarms.eraseIdx i } := ⟨rfl, rfl, rfl⟩
      exact htaken.trans (.ring a _)
    · exact .refl s

/-- A result of checks that is held back goes unseen. -/
lemma onChecks (c : HeadChecks) (s : Service σ) : Unseen s (s.onChecks c) := by
  obtain ⟨pending, delivered, nextGeneration, alarms, notices, events, hwrites, -⟩ :=
    s.onChecks_writes c
  rw [hwrites]
  exact ⟨rfl, rfl, rfl⟩

variable [Store σ]

/-- A change that is followed up with a notice goes unseen. -/
lemma onChange (e : LaneEvent) (s : Service σ) : Unseen s (s.onChange e) := by
  cases e with
  | added lane b place =>
    unfold Service.onChange
    dsimp only
    split
    · exact .notifyHead lane b.number b.username s
    · exact .refl s
  | removed lane b removal =>
    unfold Service.onChange
    dsimp only
    split
    · have hdesk := Unseen.atDesk (Desk.head lane) s
      rcases hhead : s.atDesk (Desk.head lane) with ⟨_ | _ | b, u⟩
      all_goals rw [hhead] at hdesk
      · exact hdesk
      · exact hdesk.trans (.vacate lane u)
      · exact hdesk.trans (.notifyHead lane b.number b.username u)
    · exact .refl s

/-- The label of a place goes unseen. -/
lemma labelPlace (p : Pull) (s : Service σ) : Unseen s (s.labelPlace p).2 := by
  unfold Service.labelPlace
  have hdesk := Unseen.atDesk (Desk.position p.lane p.number) s
  rcases hplace : s.atDesk (Desk.position p.lane p.number) with ⟨_ | place, u⟩
  all_goals rw [hplace] at hdesk
  · exact hdesk
  · exact hdesk.trans (.post p.lane p (placeLabel place) u)

/-- A call goes unseen; what it changes is shown later. -/
lemma perform (c : Call) (s : Service σ) : Unseen s (s.perform c).2 := by
  cases c with
  | opened p clock =>
    have hdesk := Unseen.atDesk (Desk.book p.lane ⟨p.number, p.author, clock⟩)
      (s.withRegistry (·.record p))
    simp only [Service.perform, opened, Service.book]
    rcases hbook : (s.withRegistry (·.record p)).atDesk
      (Desk.book p.lane ⟨p.number, p.author, clock⟩) with ⟨_ | (place | _), u⟩
    all_goals
      rw [hbook] at hdesk
      replace hdesk : Unseen s u := ⟨hdesk.clients, hdesk.feed, hdesk.snapshots⟩
    · exact hdesk
    · exact hdesk
    · have hlabel := hdesk.trans (.labelPlace p u)
      rcases hplace : u.labelPlace p with ⟨_ | place, u'⟩
      all_goals
        rw [hplace] at hlabel
        simp only [hplace]
        exact hlabel
  | updated p =>
    have hlabel := Unseen.labelPlace p (s.withRegistry (·.record p))
    exact ⟨hlabel.clients, hlabel.feed, hlabel.snapshots⟩
  | closed p closing =>
    have hdesk := Unseen.atDesk (Desk.unbook p.lane p.number true) s
    simp only [Service.perform, closed, Service.unbook]
    rcases hunbook : s.atDesk (Desk.unbook p.lane p.number true) with ⟨_ | outcome, u⟩
    all_goals rw [hunbook] at hdesk
    · exact hdesk
    · have hpost := hdesk.trans (.post p.lane p closing.label u)
      exact ⟨hpost.clients, hpost.feed, hpost.snapshots⟩
  | book lane b => exact .atDesk ..
  | unbook lane n => exact .atDesk ..

/-- A status that somebody posts goes unseen. -/
lemma checkChanged (change : CheckChange) (s : Service σ) :
    Unseen s (s.checkChanged change).2 := by
  unfold Service.checkChanged
  split
  · exact .refl s
  · cases s.registry.findByHead? change.repo change.commit with
    | none => exact .refl s
    | some p =>
      have hdesk := Unseen.atDesk (Desk.head p.lane) s
      dsimp only
      rcases hhead : s.atDesk (Desk.head p.lane) with ⟨_ | _ | b, u⟩
      all_goals rw [hhead] at hdesk
      · exact hdesk
      · exact hdesk
      · dsimp only
        split_ifs
        · exact hdesk
        · exact ⟨hdesk.clients, hdesk.feed, hdesk.snapshots⟩
        · exact hdesk

end Unseen

end Unseen

/-! ## Lanes and their snapshots -/

variable {k : Lane} {s t : Service Memory} {xs : List LaneSnapshot}

/-- One of the tasks will show the lane. -/
def AboutToShow (k : Lane) (s : Service Memory) : Prop :=
  ∃ e : LaneEvent, e.lane = k ∧ (⟨.watch, .lane e⟩ : Task) ∈ s.tasks

/-- The last snapshot of the lane shows it as it is, or will be followed by one that does. -/
def UpToDate (k : Lane) (xs : List LaneSnapshot) (s : Service Memory) : Prop :=
  (xs.filter (·.lane == k)).getLast? = some ⟨k, s.store.lanes k⟩ ∨ AboutToShow k s

/-- Nothing keeps the service from showing lanes. -/
structure Open (s : Service Memory) : Prop where
  serving : s.store.Serving
  willing : ∀ n, s.clients.watch n = none

/-- The service goes on and shows some snapshots. Whatever was shown before, the snapshots of a lane
stay up to date, and if one of it is shown now they are. -/
structure Shows (k : Lane) (s : Service Memory) (xs : List LaneSnapshot) (t : Service Memory) :
    Prop where
  isOpen : t.Open
  feed : t.feed = xs.foldl (fun f x => f.send x) s.feed
  shown : t.shown = s.shown ++ xs
  upToDate : ∀ before, UpToDate k before s ∨ xs.filter (·.lane == k) ≠ [] →
    UpToDate k (before ++ xs) t

/-- What goes unseen shows nothing. If the lane changes meanwhile, it must be about to be shown. -/
lemma Unseen.shows (h : Unseen s t) (hopen : s.Open) (hserving : t.store.Serving)
    (hdue : AboutToShow k s → AboutToShow k t)
    (hlane : t.store.lanes k = s.store.lanes k ∨ AboutToShow k t) : Shows k s [] t where
  isOpen := ⟨hserving, fun n => h.clients ▸ hopen.willing n⟩
  feed := h.feed
  shown := by simp [Service.shown, h.snapshots]
  upToDate before hbefore := by
    rw [List.append_nil]
    obtain (hlast | hs) | hnone := hbefore
    · exact hlane.imp_left fun hsame => hlast.trans (by rw [hsame])
    · exact .inr (hdue hs)
    · exact absurd rfl hnone

/-- What leaves the store alone, and the tasks that it finds, shows nothing if it goes unseen. -/
lemma Unseen.shows_of_store (h : Unseen s t) (hopen : s.Open) (hstore : t.store = s.store)
    (htasks : s.tasks ⊆ t.tasks) : Shows k s [] t :=
  h.shows hopen (hstore ▸ hopen.serving) (fun ⟨e, hk, he⟩ => ⟨e, hk, htasks he⟩)
    (.inl (congrArg (·.lanes k) hstore))

/-- A lane is found as it is. -/
lemma atDesk_bookings (h : s.store.Serving) (l : Lane) :
    s.atDesk (Desk.bookings l) = (.ok (s.store.lanes l), s) := by
  simp only [atDesk, Desk.bookings, Store.readRange, Memory.read, h.online]
  rfl

/-- A lane is shown as it is. -/
lemma showLane_eq (h : s.Open) (l : Lane) :
    s.showLane l = { s with
      feed := s.feed.send ⟨l, s.store.lanes l⟩
      ledger := { s.ledger with
        snapshots := s.ledger.snapshots ++ [⟨⟨l, s.store.lanes l⟩, none⟩] } } := by
  simp only [showLane, atDesk_bookings h.serving, showSnapshot, h.willing]

/-- A lane that is shown is up to date, and the others are what they were. -/
lemma shows_showLane (h : s.Open) (l : Lane)
    (hdue : l ≠ k → AboutToShow k t → AboutToShow k s)
    (ht : Unseen t s) (hstore : s.store = t.store) :
    Shows k t [⟨l, s.store.lanes l⟩] (s.showLane l) := by
  rw [showLane_eq h]
  refine ⟨⟨h.serving, h.willing⟩, congrArg (Feed.send _) ht.feed, ?_, fun before hbefore => ?_⟩
  · simp [Service.shown, ht.snapshots]
  · by_cases hl : l = k
    · subst hl
      exact .inl (by simp)
    · obtain (hlast | hpending) | hnone := hbefore
      · have hother : [(⟨l, s.store.lanes l⟩ : LaneSnapshot)].filter (·.lane == k) = [] := by
          simp [hl]
        refine .inl (show _ = some (LaneSnapshot.mk k (s.store.lanes k)) from ?_)
        rw [List.filter_append, hother, List.append_nil, hlast, hstore]
      · exact .inr (hdue hl hpending)
      · simp [hl] at hnone

/-! ## Calls -/

/-- The tasks that come of changes of lanes. -/
lemma tasks_publishAll (es : List LaneEvent) (s : Service Memory) :
    (s.publishAll es).tasks =
      s.tasks ++ es.flatMap fun e => (handlers (.lane e)).map fun h => ⟨h, .lane e⟩ := by
  induction es generalizing s with
  | nil => simp [publishAll]
  | cons e es ih => exact (ih (s.publish (.lane e))).trans (by simp [publish])

/-- A change of a lane gives the service the task to show it. -/
lemma aboutToShow_request {r : Desk.Request} {e : LaneEvent}
    (hpublished : (Desk.serve r s.store).published = [e]) (he : e.lane = k) :
    AboutToShow k (s.request r) := by
  refine ⟨e, he, ?_⟩
  rw [request_eq, tasks_publishAll, hpublished]
  cases e <;> simp

/-- A request that changes a lane is followed by a task that shows the lane, unless the store
confuses the lane with another one. -/
lemma lanes_request {r : Desk.Request} (hr : r.lane.storeKey = k.storeKey → r.lane = k)
    (s : Service Memory) :
    (s.request r).store.lanes k = s.store.lanes k ∨ AboutToShow k (s.request r) := by
  by_cases hkey : r.lane.storeKey = k.storeKey
  · have hlane := hr hkey
    have hkept : (Desk.serve r s.store).store.books = s.store.books →
        (s.request r).store.lanes k = s.store.lanes k := by
      rw [store_request]
      exact fun h => congrArg (fun k' : Books => k'.list k.storeKey) h
    cases r with
    | book l b =>
      have hends := Desk.book_memory l b s.store
      have hdue := fun e => aboutToShow_request (e := e) (k := k) (s := s) (r := .book l b)
      simp only [Desk.serve, Turn.map] at hkept hdue
      generalize Desk.book l b s.store = turn at hends hkept hdue
      cases hends with
      | kept _ h => exact .inl (hkept h)
      | added => exact .inr (hdue _ rfl hlane)
    | unbook l n closed =>
      have hends := Desk.unbook_memory l n closed s.store
      have hdue := fun e =>
        aboutToShow_request (e := e) (k := k) (s := s) (r := .unbook l n closed)
      simp only [Desk.serve, Turn.map] at hkept hdue
      generalize Desk.unbook l n closed s.store = turn at hends hkept hdue
      cases hends with
      | kept _ h => exact .inl (hkept h)
      | removed => exact .inr (hdue _ rfl hlane)
  · rw [store_request]
    exact .inl ((Desk.serve_frame s.store r).2.list k.storeKey (Ne.symm hkey))

/-- A call shows nothing. If it changes the lane, the lane is about to be shown. -/
lemma shows_perform (h : s.Open) {c : Call} (hc : c.lane.storeKey = k.storeKey → c.lane = k) :
    Shows k s [] (s.perform c).2 := by
  have hunseen := Unseen.perform c s
  have hhushed := perform_hushed c s
  cases hr : c.request? with
  | none =>
    rw [hr] at hhushed
    exact hunseen.shows_of_store h hhushed.store fun task htask => hhushed.tasks ▸ htask
  | some r =>
    rw [hr] at hhushed
    rw [← Call.lane_of_request? hr] at hc
    have hserving : (s.request r).store.Serving :=
      store_request r s ▸ serving_serve h.serving r
    have hsame : AboutToShow k (s.perform c).2 ↔ AboutToShow k (s.request r) := by
      simp only [AboutToShow, hhushed.tasks]
      rfl
    refine hunseen.shows h (hhushed.store ▸ hserving) (fun ⟨e, hk, he⟩ => ?_) ?_
    · refine hsame.2 ⟨e, hk, ?_⟩
      rw [request_eq, tasks_publishAll]
      exact List.mem_append_left _ he
    · rw [hsame, hhushed.store]
      exact lanes_request hc s

/-! ## Tasks and beats -/

/-- A task that is not to show a lane shows nothing. -/
lemma unseen_handle {task : Task} (h : ∀ e : LaneEvent, task ≠ ⟨.watch, .lane e⟩)
    (s : Service Memory) : Unseen s (s.handle task.handler task.event) := by
  obtain ⟨handler, e⟩ := task
  cases handler with
  | labelAdded =>
    rcases e with (⟨l, b, place⟩ | _) | _ | _ <;> try exact .refl s
    obtain ⟨reports, events, hwrites⟩ := s.onAdded_writes l b.number
    rw [handle, hwrites]
    exact ⟨rfl, rfl, rfl⟩
  | labelRemoved =>
    rcases e with (_ | ⟨l, b, removal⟩) | _ | _ <;> try exact .refl s
    obtain ⟨reports, events, hwrites⟩ := s.onRemoved_writes l b.number removal.closed
    rw [handle, hwrites]
    exact ⟨rfl, rfl, rfl⟩
  | noticeHead => cases e <;> first | exact .refl s | exact .onChange _ s
  | noticeChecks => cases e <;> first | exact .refl s | exact .onChecks _ s
  | measure =>
    rcases e with change | _ | _ <;> try exact .refl s
    obtain ⟨metrics, hwrites⟩ := s.measure_writes change
    rw [handle, hwrites]
    exact ⟨rfl, rfl, rfl⟩
  | watch =>
    cases e with
    | lane change => exact absurd rfl (h change)
    | checks | failed => exact .refl s

/-- A task that is run is gone, and all the others are still there. -/
lemma mem_eraseIdx_of_ne {tasks : List Task} {i : Nat} {task other : Task}
    (hi : tasks[i]? = some task) (hother : other ∈ tasks) (hne : other ≠ task) :
    other ∈ tasks.eraseIdx i := by
  obtain ⟨j, hj⟩ := List.mem_iff_getElem?.1 hother
  refine List.mem_eraseIdx_iff_getElem?.2 ⟨j, fun hij => hne ?_, hj⟩
  subst hij
  exact Option.some.inj (hj.symm.trans hi)

/-- A task shows its lane as it is, if that is what it is for, and else nothing. -/
lemma shows_runAt (h : s.Open) (i : Nat) : ∃ xs, Shows k s xs (s.runAt i) := by
  unfold runAt
  cases hi : s.tasks[i]? with
  | none => exact ⟨[], (Unseen.refl s).shows_of_store h rfl fun _ => id⟩
  | some task =>
    have htaken : Unseen s { s with tasks := s.tasks.eraseIdx i } := ⟨rfl, rfl, rfl⟩
    by_cases hwatch : ∃ e : LaneEvent, task = ⟨.watch, .lane e⟩
    · obtain ⟨e, rfl⟩ := hwatch
      refine ⟨_, shows_showLane (s := { s with tasks := s.tasks.eraseIdx i }) ⟨h.serving, h.willing⟩
        e.lane ?_ htaken rfl⟩
      -- Only a task for the same lane can be the one that is gone.
      rintro hne ⟨e', he', hmem⟩
      refine ⟨e', he', mem_eraseIdx_of_ne hi hmem fun heq => hne ?_⟩
      cases heq
      exact he'
    · have hne : ∀ e : LaneEvent, task ≠ ⟨.watch, .lane e⟩ := fun e he => hwatch ⟨e, he⟩
      obtain ⟨hstore, htasks⟩ := handle_eq task { s with tasks := s.tasks.eraseIdx i }
      have hserving : { s with tasks := s.tasks.eraseIdx i }.store.Serving := h.serving
      refine ⟨[], (htaken.trans (unseen_handle hne _)).shows h (hstore.symm ▸ hserving) ?_
        (.inl (congrArg (·.lanes k) hstore))⟩
      rintro ⟨e, he, hmem⟩
      refine ⟨e, he, ?_⟩
      rw [htasks]
      exact mem_eraseIdx_of_ne hi hmem (hne e).symm

/-- A status that somebody posts leaves the tasks that it finds. -/
lemma tasks_checkChanged (change : CheckChange) (s : Service Memory) :
    s.tasks ⊆ (s.checkChanged change).2.tasks := by
  unfold checkChanged
  split
  · exact fun _ => id
  · cases s.registry.findByHead? change.repo change.commit with
    | none => exact fun _ => id
    | some p =>
      obtain ⟨answer, hread⟩ : ∃ answer, s.atDesk (Desk.head p.lane) = (answer, s) :=
        atDesk_read _ _ s
      simp only [hread]
      rcases answer with e | (_ | b)
      · exact fun _ => id
      · exact fun _ => id
      · dsimp only
        split_ifs
        · exact fun _ => id
        · exact List.subset_append_left ..
        · exact fun _ => id

/-- The beat does not make the store confuse the lane with another one. From outside a store may be
changed, but what it holds stays, and it goes on serving. -/
def Beat.Sound (k : Lane) : Beat Memory → Prop
  | .call c => c.lane.storeKey = k.storeKey → c.lane = k
  | .outside f => ∀ m : Memory, m.Serving → (f m).shelves = m.shelves ∧ (f m).Serving
  | _ => True

/-- What a beat shows: one of the tasks may show a lane, and nothing else shows anything. -/
theorem shows_beat (h : s.Open) {x : Beat Memory} (hx : x.Sound k) :
    ∃ xs, Shows k s xs (s.beat x) := by
  cases x with
  | call c => exact ⟨[], shows_perform h hx⟩
  | check change =>
    exact ⟨[], (Unseen.checkChanged change s).shows_of_store h (store_checkChanged change s)
      (tasks_checkChanged change s)⟩
  | event e =>
    exact ⟨[], Unseen.shows_of_store ⟨rfl, rfl, rfl⟩ h rfl (List.subset_append_left ..)⟩
  | task i => exact shows_runAt h i
  | alarm i =>
    exact ⟨[], (Unseen.ringAt i s).shows_of_store h (store_ringAt i s)
      fun task htask => (tasks_ringAt i s).symm ▸ htask⟩
  | tick =>
    unfold beat
    dsimp only
    split
    · exact ⟨[], Unseen.shows_of_store ⟨rfl, rfl, rfl⟩ h rfl fun _ => id⟩
    · exact ⟨[], (Unseen.refl s).shows_of_store h rfl fun _ => id⟩
  | outside f =>
    obtain ⟨hshelves, hserving⟩ := hx s.store h.serving
    exact ⟨[], Unseen.shows ⟨rfl, rfl, rfl⟩ h hserving id
      (.inl (congrArg (·.bookings k.storeKey) hshelves))⟩

end Service

end MergeTurn
