import Mathlib.Logic.Relation
import MergeTurn.Proofs.Service.Schedules
import MergeTurn.Proofs.Service.Writes

set_option autoImplicit false

/-!
# What handlers set off comes to an end

An event gives tasks to its handlers, a task may leave an alarm, and an alarm that rings may publish
again. But handlers publish nothing other than that a side effect could not be delivered, which has
no handler itself. So a task leaves one alarm at most and no task, and an alarm that rings leaves
neither: whatever fails, everything that was set off has happened after as many steps as there are
tasks, counted twice, and alarms.

## Main definitions

* `MergeTurn.Service.Spawns` — what a handler may leave to be done.
* `MergeTurn.Service.Cascades` — the next task runs, or without tasks the next alarm rings.
* `MergeTurn.Service.workload` — the number of steps that may be left.

## Main results

* `MergeTurn.Service.spawns_handle`, `MergeTurn.Service.spawns_ring` — what handlers and alarms leave.
* `MergeTurn.Service.Cascades.workload_lt` — every step leaves less to be done.
* `MergeTurn.Service.cascade_ends` — from every state every cascade ends, with nothing left to do.
* `MergeTurn.Service.drain_idle` — the service runs as many tasks and alarms as it takes.

## Design

Nothing is assumed of the store, of the clients or of the state. In particular alarms may be
overdue, and those that are due at the same time may ring in any order.
-/

namespace MergeTurn.Service

variable {σ : Type}

/-! ## What handlers leave to be done -/

/-- From one state to another no task comes about and a number of alarms at most, and nothing is
published but that side effects could not be delivered. -/
structure Spawns (alarms : Nat) (s t : Service σ) : Prop where
  tasks : t.tasks = s.tasks
  alarms : t.alarms.length ≤ s.alarms.length + alarms
  published : ∃ failures : List DeliveryFailure,
    t.ledger.events = s.ledger.events ++ failures.map .failed

namespace Spawns

variable {s t u : Service σ} {m n : Nat}

/-- What touches none of tasks, alarms and events leaves nothing to be done. -/
lemma of_eq (htasks : t.tasks = s.tasks) (halarms : t.alarms = s.alarms)
    (hevents : t.ledger.events = s.ledger.events) : Spawns 0 s t :=
  ⟨htasks, by rw [halarms]; omega, [], by rw [hevents, List.map_nil, List.append_nil]⟩

/-- Nothing leaves nothing to be done. -/
lemma refl (s : Service σ) : Spawns 0 s s := of_eq rfl rfl rfl

/-- What two steps leave adds up. -/
lemma trans (h : Spawns m s t) (h' : Spawns n t u) : Spawns (m + n) s u := by
  obtain ⟨failures, hevents⟩ := h.published
  obtain ⟨failures', hevents'⟩ := h'.published
  refine ⟨h'.tasks.trans h.tasks, ?_, failures ++ failures', ?_⟩
  · have hfirst := h.alarms
    have hsecond := h'.alarms
    omega
  · rw [hevents', hevents, List.append_assoc, List.map_append]

/-- What leaves nothing to be done leaves no more than something. -/
lemma mono (h : Spawns m s t) (hmn : m ≤ n) : Spawns n s t :=
  ⟨h.tasks, Nat.le_trans h.alarms (Nat.add_le_add_left hmn _), h.published⟩

end Spawns

variable (s : Service σ)

/-- Posting a status leaves nothing to be done, delivered or not. -/
lemma spawns_post (lane : Lane) (p : Pull) (report : StatusReport) :
    Spawns 0 s (s.post lane p report).2 := by
  obtain ⟨reports, failures, h⟩ := s.post_writes lane p report
  rw [h]
  exact ⟨rfl, Nat.le_refl _, failures, rfl⟩

/-- So does setting labels. -/
lemma spawns_labelFrom (lane : Lane) (place : Nat) (bs : List Booking) :
    Spawns 0 s (s.labelFrom lane place bs).2 := by
  obtain ⟨reports, failures, h⟩ := s.labelFrom_writes lane place bs
  rw [h]
  exact ⟨rfl, Nat.le_refl _, failures, rfl⟩

/-- So does notifying somebody. -/
lemma spawns_notify (lane : Lane) (n : PullNumber) (notice : Notice) :
    Spawns 0 s (s.notify lane n notice) := by
  obtain ⟨error, failures, h⟩ := s.notify_writes lane n notice
  rw [h]
  exact ⟨rfl, Nat.le_refl _, failures, rfl⟩

/-- Giving a result up takes its alarm away. -/
lemma spawns_cancel (lane : Lane) : Spawns 0 s (s.cancel lane) := by
  unfold cancel
  split
  · exact .refl s
  · exact ⟨rfl, List.length_filter_le .., [], by rw [List.map_nil, List.append_nil]⟩

/-- Telling a head that it is one gives up what was held back for its lane. -/
lemma spawns_notifyHead (lane : Lane) (n : PullNumber) (username : String) :
    Spawns 0 s (s.notifyHead lane n username) := by
  unfold notifyHead
  split
  · exact .refl s
  · have hheads : Spawns 0 s { s with
        dispatch := { s.dispatch with heads := s.dispatch.heads.insert lane n } } :=
      .of_eq rfl rfl rfl
    exact (hheads.trans (spawns_cancel _ lane)).trans (spawns_notify _ lane n _)

/-- So does noting that a lane has no head. -/
lemma spawns_vacate (lane : Lane) : Spawns 0 s (s.vacate lane) := by
  have hheads : Spawns 0 s { s with
      dispatch := { s.dispatch with heads := s.dispatch.heads.erase lane } } :=
    .of_eq rfl rfl rfl
  exact hheads.trans (spawns_cancel _ lane)

/-- An alarm that rings leaves nothing to be done, whether it still counts or not. -/
theorem spawns_ring (a : Alarm) : Spawns 0 s (s.ring a) := by
  obtain ⟨pending, delivered, notices, failures, h, -⟩ := s.ring_writes a
  rw [h]
  exact ⟨rfl, Nat.le_refl _, failures, rfl⟩

/-- A result of checks that is held back leaves an alarm. -/
lemma spawns_onChecks (c : HeadChecks) : Spawns 1 s (s.onChecks c) := by
  have hcancel := s.spawns_cancel c.lane
  unfold onChecks
  split
  · exact (Spawns.refl s).mono (by omega)
  · dsimp only
    split
    · have hpending : Spawns 0 (s.cancel c.lane) { s.cancel c.lane with
          dispatch := { (s.cancel c.lane).dispatch with
            pending := (s.cancel c.lane).dispatch.pending.insert c.lane
              (s.cancel c.lane).dispatch.nextGeneration
            nextGeneration := (s.cancel c.lane).dispatch.nextGeneration + 1 } } :=
        .of_eq rfl rfl rfl
      exact ((hcancel.trans hpending).trans (spawns_ring _ _)).mono (by omega)
    · obtain ⟨failures, hevents⟩ := hcancel.published
      refine ⟨hcancel.tasks, ?_, failures, hevents⟩
      have hlength := hcancel.alarms
      rw [List.length_append, List.length_singleton]
      omega

/-! ## Handlers -/

section Store

variable [Store σ]

omit [Store σ] in
/-- A question to the desk publishes nothing, answered or not. -/
lemma spawns_ask {α β : Type} (f : α → β) (call : σ → Except StoreError α × σ) :
    Spawns 0 s (s.atDesk fun m => .ask f (call m)).2 := by
  unfold atDesk Turn.ask
  dsimp only
  split
  · exact .of_eq rfl rfl rfl
  · exact .of_eq rfl rfl rfl

/-- Setting the label of a booking leaves nothing to be done. -/
lemma spawns_onAdded (lane : Lane) (n : PullNumber) : Spawns 0 s (s.onAdded lane n) := by
  have hask : Spawns 0 s (s.atDesk (Desk.position lane n)).2 := s.spawns_ask _ _
  unfold onAdded
  split
  · exact .refl s
  · generalize s.atDesk (Desk.position lane n) = r at hask ⊢
    obtain ⟨answer, t⟩ := r
    cases answer with
    | error e => exact hask
    | ok place => exact hask.trans (spawns_post t ..)

/-- So does setting the labels of a lane. -/
lemma spawns_relabel (lane : Lane) : Spawns 0 s (s.relabel lane).2 := by
  have hask : Spawns 0 s (s.atDesk (Desk.firstBookings lane (lastShownPlace + 1))).2 :=
    s.spawns_ask _ _
  unfold relabel
  generalize s.atDesk (Desk.firstBookings lane (lastShownPlace + 1)) = r at hask ⊢
  obtain ⟨answer, t⟩ := r
  cases answer with
  | error e => exact hask
  | ok bs => exact hask.trans (t.spawns_labelFrom lane 0 bs)

/-- So does setting them after a removal. -/
lemma spawns_onRemoved (lane : Lane) (n : PullNumber) (closed : Bool) :
    Spawns 0 s (s.onRemoved lane n closed) := by
  have hrelabel := s.spawns_relabel lane
  unfold onRemoved
  generalize s.relabel lane = r at hrelabel ⊢
  obtain ⟨answer, t⟩ := r
  cases answer with
  | error e => exact hrelabel
  | ok count =>
    dsimp only
    split
    · exact hrelabel
    · split
      · exact hrelabel
      · exact hrelabel.trans (spawns_post t ..)

/-- So does telling the new head of a lane. -/
lemma spawns_onChange (e : LaneEvent) : Spawns 0 s (s.onChange e) := by
  cases e with
  | added lane b place =>
    unfold onChange
    dsimp only
    split
    · exact s.spawns_notifyHead ..
    · exact .refl s
  | removed lane b removal =>
    have hask : Spawns 0 s (s.atDesk (Desk.head lane)).2 := s.spawns_ask _ _
    unfold onChange
    dsimp only
    split
    · generalize s.atDesk (Desk.head lane) = r at hask ⊢
      obtain ⟨answer, t⟩ := r
      match answer with
      | .error e => exact hask
      | .ok none => exact hask.trans (t.spawns_vacate lane)
      | .ok (some first) => exact hask.trans (t.spawns_notifyHead ..)
    · exact .refl s

/-- So does measuring a lane. -/
lemma spawns_measure (e : LaneEvent) : Spawns 0 s (s.measure e) := by
  have hcount : Spawns 0 s (s.meter (.counter e.counter e.lane.tags)) := .of_eq rfl rfl rfl
  have hask := hcount.trans (spawns_ask _ id (Store.length e.lane.storeKey))
  have hlength : (fun m => Turn.ask id (Store.length e.lane.storeKey m) : σ → Turn σ Nat) =
      Desk.length e.lane := rfl
  rw [hlength] at hask
  unfold measure
  generalize (s.meter (.counter e.counter e.lane.tags)).atDesk (Desk.length e.lane) = r at hask ⊢
  obtain ⟨answer, t⟩ := r
  cases answer with
  | error e => exact hask
  | ok length =>
    have hgauge : Spawns 0 t (t.meter (.gauge lengthGauge length e.lane.tags)) := .of_eq rfl rfl rfl
    exact hask.trans hgauge

omit [Store σ] in
/-- So does showing a snapshot. -/
lemma spawns_showSnapshot (snapshot : LaneSnapshot) : Spawns 0 s (s.showSnapshot snapshot) := by
  simp only [showSnapshot]
  split
  · exact .of_eq rfl rfl rfl
  · exact .of_eq rfl rfl rfl

/-- So does showing a lane. -/
lemma spawns_showLane (lane : Lane) : Spawns 0 s (s.showLane lane) := by
  have hask : Spawns 0 s (s.atDesk (Desk.bookings lane)).2 := s.spawns_ask _ _
  unfold showLane
  generalize s.atDesk (Desk.bookings lane) = r at hask ⊢
  obtain ⟨answer, t⟩ := r
  cases answer with
  | error e => exact hask
  | ok bs => exact hask.trans (t.spawns_showSnapshot _)

/-- A handler leaves one alarm at most and no task, and publishes nothing but that side effects could
not be delivered. -/
theorem spawns_handle (h : Handler) (e : Event) : Spawns 1 s (s.handle h e) := by
  unfold handle
  split
  · exact (s.spawns_onAdded ..).mono (by omega)
  · exact (s.spawns_onRemoved ..).mono (by omega)
  · exact (s.spawns_onChange _).mono (by omega)
  · exact s.spawns_onChecks _
  · exact (s.spawns_measure _).mono (by omega)
  · exact (s.spawns_showLane _).mono (by omega)
  · exact (Spawns.refl s).mono (by omega)

variable {s} in
/-- So does the task that runs next, which is not there any more. -/
lemma spawns_runNext {task : Task} {rest : List Task} (h : s.tasks = task :: rest) :
    Spawns 1 { s with tasks := rest } s.runNext := by
  have hnext : s.runNext = { s with tasks := rest }.handle task.handler task.event := by
    simp only [runNext, h]
  rw [hnext]
  exact spawns_handle _ _ _

/-! ## Cascades -/

/-- The next task runs. When no task is left, the clock goes on to the time of the next alarm, unless
that is past, and the alarm rings. -/
inductive Cascades (s : Service σ) : Service σ → Prop
  | task (h : s.tasks ≠ []) : Cascades s s.runNext
  | alarm {i : Nat} {a : Alarm} (hidle : s.tasks = []) (ha : s.alarms[i]? = some a)
    (hnext : ∀ b ∈ s.alarms, a.due ≤ b.due) :
    Cascades s ({ s with alarms := s.alarms.eraseIdx i, now := max s.now a.due }.ring a)

omit [Store σ] in
/-- The number of steps that may be left: a task may leave an alarm. -/
def workload (s : Service σ) : Nat := 2 * s.tasks.length + s.alarms.length

variable {s t u : Service σ}

/-- A step takes tasks away at most, and publishes nothing but that side effects could not be
delivered. -/
lemma Cascades.quiet (h : Cascades s t) :
    t.tasks <:+ s.tasks ∧ ∃ failures : List DeliveryFailure,
      t.ledger.events = s.ledger.events ++ failures.map .failed := by
  cases h with
  | task h =>
    obtain ⟨task, rest, htasks⟩ := List.exists_cons_of_ne_nil h
    have hspawns := spawns_runNext htasks
    refine ⟨?_, hspawns.published⟩
    rw [hspawns.tasks, htasks]
    exact List.suffix_cons task rest
  | @alarm i a _ _ _ =>
    have hspawns := spawns_ring
      { s with alarms := s.alarms.eraseIdx i, now := max s.now a.due } a
    exact ⟨⟨[], hspawns.tasks⟩, hspawns.published⟩

/-- Every step leaves less to be done. -/
theorem Cascades.workload_lt (h : Cascades s t) : t.workload < s.workload := by
  cases h with
  | task h =>
    obtain ⟨task, rest, htasks⟩ := List.exists_cons_of_ne_nil h
    have hspawns := spawns_runNext htasks
    have halarms := hspawns.alarms
    rw [workload, workload, hspawns.tasks, htasks, List.length_cons]
    dsimp only at halarms ⊢
    omega
  | @alarm i a hidle ha _ =>
    have hspawns := spawns_ring
      { s with alarms := s.alarms.eraseIdx i, now := max s.now a.due } a
    have halarms := hspawns.alarms
    have hi : i < s.alarms.length := (List.getElem?_eq_some_iff.1 ha).1
    rw [List.length_eraseIdx_of_lt hi] at halarms
    rw [workload, workload, hspawns.tasks]
    dsimp only
    omega

/-- As long as anything is left to be done, there is a step. -/
lemma exists_cascades (h : s.tasks ≠ [] ∨ s.alarms ≠ []) : ∃ t, Cascades s t := by
  by_cases htasks : s.tasks = []
  · obtain halarms := h.resolve_left (not_not_intro htasks)
    -- Some alarm is due before all others.
    obtain ⟨a, ha, hnext⟩ : ∃ a ∈ s.alarms, ∀ b ∈ s.alarms, a.due ≤ b.due := by
      have hmin : s.alarms.map (·.due) ≠ [] := by simpa using halarms
      obtain ⟨a, ha, hdue⟩ := List.mem_map.1 (List.min_mem hmin)
      refine ⟨a, ha, fun b hb => ?_⟩
      rw [hdue]
      exact List.min_le_of_mem (List.mem_map_of_mem hb)
    obtain ⟨i, hi⟩ := List.mem_iff_getElem?.1 ha
    exact ⟨_, .alarm htasks hi hnext⟩
  · exact ⟨_, .task htasks⟩

/-- A cascade of steps, one after the other, takes no more of them than the workload says. -/
lemma length_le_workload {states : List (Service σ)} (h : List.IsChain Cascades (s :: states)) :
    states.length ≤ s.workload := by
  induction states generalizing s with
  | nil => exact Nat.zero_le _
  | cons t states ih =>
    obtain ⟨hstep, hrest⟩ := List.isChain_cons_cons.1 h
    have hlt := hstep.workload_lt
    have hle := ih hrest
    rw [List.length_cons]
    omega

/-- From every state, whatever its tasks and alarms, over any store and with clients that fail in any
way:
* every cascade has an end, after no more steps than two for each task and one for each alarm;
* it does not end before all tasks have run and all alarms have rung, and this end is reached;
* on the way no task comes about, and nothing is published but that side effects could not be
  delivered, which nobody acts on.

**Proof sketch.** Induction on the workload, which every step makes less. -/
theorem cascade_ends (s : Service σ) :
    (∀ states, List.IsChain Cascades (s :: states) →
      states.length ≤ 2 * s.tasks.length + s.alarms.length) ∧
    (∀ t, Relation.ReflTransGen Cascades s t →
      ((∃ u, Cascades t u) ↔ t.tasks ≠ [] ∨ t.alarms ≠ []) ∧ t.tasks <:+ s.tasks ∧
      ∃ failures : List DeliveryFailure,
        t.ledger.events = s.ledger.events ++ failures.map .failed ∧
        ∀ f ∈ failures, handlers (.failed f) = []) ∧
    ∃ t, Relation.ReflTransGen Cascades s t ∧ t.tasks = [] ∧ t.alarms = [] := by
  refine ⟨fun states h => length_le_workload h, fun t ht => ⟨⟨?_, exists_cascades⟩, ?_⟩, ?_⟩
  · rintro ⟨u, hu⟩
    cases hu with
    | task h => exact .inl h
    | alarm _ ha _ => exact .inr fun hnil => by simp [hnil] at ha
  · induction ht with
    | refl => exact ⟨List.suffix_rfl, [], by rw [List.map_nil, List.append_nil], by simp⟩
    | tail _ hlast ih =>
      obtain ⟨hfewer, failures, hevents, -⟩ := ih
      obtain ⟨hfewer', failures', hevents'⟩ := hlast.quiet
      refine ⟨hfewer'.trans hfewer, failures ++ failures', ?_, fun f _ => handlers_failed f⟩
      rw [hevents', hevents, List.append_assoc, List.map_append]
  · induction hn : s.workload using Nat.strongRecOn generalizing s with
    | ind n ih =>
      by_cases hleft : s.tasks ≠ [] ∨ s.alarms ≠ []
      · obtain ⟨t, hstep⟩ := exists_cascades hleft
        obtain ⟨u, hrest, hdone⟩ := ih t.workload (hn ▸ hstep.workload_lt) t rfl
        exact ⟨u, .head hstep hrest, hdone⟩
      · rw [not_or, not_not, not_not] at hleft
        exact ⟨s, .refl, hleft⟩

/-! ## Running the tasks and alarms -/

/-- Running as many tasks as there are leaves none. -/
lemma tasks_runTasks {n : Nat} (h : s.tasks.length ≤ n) : (s.runTasks n).tasks = [] := by
  induction n generalizing s with
  | zero => exact List.eq_nil_of_length_eq_zero (Nat.le_zero.1 h)
  | succ n ih =>
    refine ih ?_
    cases htasks : s.tasks with
    | nil => simp [runNext, htasks]
    | cons task rest =>
      rw [(spawns_runNext htasks).tasks]
      rw [htasks, List.length_cons] at h
      exact Nat.le_of_succ_le_succ h

/-- When no task is left, letting the next alarm ring leaves one alarm less, and no task. -/
lemma ringNext_idle (h : s.tasks = []) :
    s.ringNext.tasks = [] ∧ s.ringNext.alarms.length ≤ s.alarms.length - 1 := by
  unfold ringNext
  split
  · next hnil => exact ⟨h, by simp [hnil]⟩
  · next a rest halarms =>
    have hspawns := spawns_ring { s with alarms := rest, now := a.due } a
    have hidle := hspawns.tasks.trans h
    rw [settle_of_idle hidle, halarms]
    exact ⟨hidle, hspawns.alarms⟩

/-- Draining the service leaves neither tasks nor alarms, whatever state it is in: as many runs as
there are tasks and then as many rings as there are alarms are enough.

**Proof sketch.** Tasks leave no tasks, and alarms leave neither tasks nor alarms. -/
theorem drain_idle (s : Service σ) : s.drain.tasks = [] ∧ s.drain.alarms = [] := by
  have hrings : ∀ (n : Nat) (t : Service σ), t.tasks = [] → t.alarms.length ≤ n →
      (t.ringAll n).tasks = [] ∧ (t.ringAll n).alarms = [] := by
    intro n
    induction n with
    | zero => exact fun t ht hn => ⟨ht, List.eq_nil_of_length_eq_zero (Nat.le_zero.1 hn)⟩
    | succ n ih =>
      intro t ht hn
      obtain ⟨hidle, hfewer⟩ := ringNext_idle ht
      exact ih t.ringNext hidle (by omega)
  exact hrings _ s.settle (tasks_runTasks (Nat.le_refl _)) (Nat.le_refl _)

end Store

end MergeTurn.Service
