import MergeTurn.Proofs.Service.Requests
import MergeTurn.Proofs.Service.Scene

set_option autoImplicit false

/-!
# What head notices depend on

Who is told to be the head of a lane depends on what the lanes hold, on who was told last, and on
the changes that have still to be followed up with a notice. The other handlers leave all of this
alone, and a change is followed up in one of three ways: somebody is told, a lane without a head is
noted, or nothing happens.

## Main definitions

* `MergeTurn.HeadNotice` — a notice of who is the head of a lane.
* `MergeTurn.Herald` — the lanes, who was told last, the changes to follow up and the notices sent.
* `MergeTurn.Herald.follow` — following up a change.
* `MergeTurn.Herald.Asked`, `MergeTurn.Herald.Followed` — what requests and follow-ups can do.
* `MergeTurn.Service.herald` — the herald of a service.

## Main results

* `MergeTurn.Herald.followed` — follow-ups end in no other way.
* `MergeTurn.Service.herald_request` — what a request does to the herald.
* `MergeTurn.Service.herald_runNext_cases` — what a task does.
* `MergeTurn.Service.herald_settle` — what all tasks together do.
-/

namespace MergeTurn

/-! ## Heralds -/

/-- A notice of who is the head of a lane. -/
structure HeadNotice where
  lane : Lane
  number : PullNumber
  username : String
deriving DecidableEq, Repr

/-- The head of a lane that a notice is about, if it is one of a head. -/
def Notice.head? : Notice → Option HeadNotice
  | .head l n username => some ⟨l, n, username⟩
  | .checks .. => none

/-- The notices of heads that were sent, delivered or not, in order. -/
def headNotices (attempts : List (Attempt Notice)) : List HeadNotice :=
  attempts.filterMap (·.call.head?)

/-- The notice that was sent last about the head of a lane. -/
def lastHeadNotice (l : Lane) (sent : List HeadNotice) : Option HeadNotice :=
  sent.reverse.find? (·.lane == l)

/-- The last notice about a lane after one more was sent. -/
lemma lastHeadNotice_append (l : Lane) (sent : List HeadNotice) (g : HeadNotice) :
    lastHeadNotice l (sent ++ [g]) = if l = g.lane then some g else lastHeadNotice l sent := by
  by_cases h : l = g.lane
  · simp [lastHeadNotice, h]
  · simp [lastHeadNotice, h, Ne.symm h]

/-- The change of a lane that a task is to follow up with a notice, if it is such a task. -/
def Task.headChange? (t : Task) : Option LaneEvent :=
  match t.handler, t.event with
  | .noticeHead, .lane e => some e
  | _, _ => none

/-- Only one handler follows up changes with notices. -/
lemma Task.of_headChange? {task : Task} {e : LaneEvent} (h : task.headChange? = some e) :
    task = ⟨.noticeHead, .lane e⟩ := by
  obtain ⟨handler, event⟩ := task
  cases handler <;> cases event <;> cases h
  rfl

/-- All that head notices depend on. -/
@[ext]
structure Herald where
  lanes : Lane → List Booking
  /-- The head of each lane that was notified last. -/
  told : Lane → Option PullNumber
  /-- The changes of lanes that are still to be followed up, in order. -/
  pending : List LaneEvent
  /-- The notices of heads that were sent, in order. -/
  sent : List HeadNotice

namespace Herald

/-- Tells a booking that it is the head of a lane, unless it was told last. -/
def tell (l : Lane) (b : Booking) (v : Herald) : Herald :=
  if v.told l = some b.number then v
  else { v with
    told := Function.update v.told l (some b.number)
    sent := v.sent ++ [⟨l, b.number, b.username⟩] }

/-- Follows a change up: who was booked at the front of a lane is told to be its head, and after the
head has gone, whoever is there by now. -/
def follow : LaneEvent → Herald → Herald
  | .added l b place, v => if place = 0 then v.tell l b else v
  | .removed l _ removal, v =>
    if removal.headChanged then
      match (v.lanes l).head? with
      | none => { v with told := Function.update v.told l none }
      | some b => v.tell l b
    else v

/-- Follows up the first change that is pending. -/
def next (v : Herald) : Herald :=
  match v.pending with
  | [] => v
  | e :: rest => { v with pending := rest }.follow e

/-- Follows up all changes that are pending. -/
def catchUp (v : Herald) : Herald :=
  v.pending.foldl (fun v e => v.follow e) { v with pending := [] }

/-- What a request about a lane does: nothing, or it changes the lanes as an event tells it that has
still to be followed up. -/
inductive Asked (l : Lane) (v : Herald) : Herald → Prop
  | unchanged : Asked l v v
  | changed {lanes : Lane → List Booking} {e : LaneEvent} (he : e.lane = l)
    (htrue : e.TrueOf v.lanes)
    (hlanes : ∀ l' : Lane, l'.repo.Colonless → lanes l' = e.apply v.lanes l') :
    Asked l v { v with lanes, pending := v.pending ++ [e] }

/-- How following a change up can end: with nothing, with a lane that was noted to have no head, or
with a notice to somebody who was not told last. -/
inductive Followed (e : LaneEvent) (v : Herald) : Herald → Prop
  | silent : Followed e v v
  | vacated {l : Lane} (hnone : (v.lanes l).head? = none) :
    Followed e v { v with told := Function.update v.told l none }
  | noticed {l : Lane} {b : Booking} (hnew : v.told l ≠ some b.number)
    (hwho : e = .added l b 0 ∨ (v.lanes l).head? = some b) :
    Followed e v { v with
      told := Function.update v.told l (some b.number)
      sent := v.sent ++ [⟨l, b.number, b.username⟩] }

variable (v : Herald) (l : Lane) (b : Booking) (e : LaneEvent)

/-- Who is told is who was told last. -/
@[simp] lemma told_tell : (v.tell l b).told l = some b.number := by
  unfold tell
  split
  · assumption
  · exact Function.update_self ..

/-- Telling the head of one lane says nothing about another. -/
lemma told_tell_of_ne {l' : Lane} (h : l' ≠ l) : (v.tell l b).told l' = v.told l' := by
  unfold tell
  split
  · rfl
  · exact Function.update_of_ne h _ _

/-- Following a change up ends in one of the listed ways. -/
lemma followed : Followed e v (v.follow e) := by
  have htell : ∀ {l b}, e = .added l b 0 ∨ (v.lanes l).head? = some b →
      Followed e v (v.tell l b) := by
    intro l b hwho
    unfold tell
    split
    · exact .silent
    · next hnew => exact .noticed hnew hwho
  cases e with
  | added l b place =>
    simp only [follow]
    split
    · next hplace => exact htell (.inl (by rw [hplace]))
    · exact .silent
  | removed l b removal =>
    simp only [follow]
    split
    · cases hhead : (v.lanes l).head? with
      | none => exact .vacated hhead
      | some c => exact htell (.inr hhead)
    · exact .silent

@[simp] lemma lanes_follow : (v.follow e).lanes = v.lanes := by
  have h := v.followed e
  generalize v.follow e = w at h ⊢
  cases h <;> rfl

@[simp] lemma pending_follow : (v.follow e).pending = v.pending := by
  have h := v.followed e
  generalize v.follow e = w at h ⊢
  cases h <;> rfl

/-- What is pending does not change what a follow-up does. -/
lemma follow_pending (pending : List LaneEvent) :
    { v with pending }.follow e = { v.follow e with pending } := by
  have htell : ∀ l b, { v with pending }.tell l b = { v.tell l b with pending } := by
    intro l b
    simp only [tell]
    split <;> rfl
  cases e with
  | added l b place =>
    simp only [follow, htell]
    split <;> rfl
  | removed l b removal =>
    simp only [follow]
    split
    · cases (v.lanes l).head? with
      | none => rfl
      | some b => exact htell l b
    · rfl

/-- With nothing pending there is nothing to follow up. -/
lemma catchUp_of_idle {v : Herald} (h : v.pending = []) : v.catchUp = v := by
  rw [catchUp, h]
  exact Herald.ext rfl rfl h.symm rfl

/-- The first pending change is the one that is followed up. -/
lemma next_of_pending {v : Herald} {e : LaneEvent} {rest : List LaneEvent}
    (h : v.pending = e :: rest) : v.next = { v with pending := rest }.follow e := by
  simp only [next, h]

/-- All changes are followed up if the first is, and then the others. -/
lemma catchUp_next : v.next.catchUp = v.catchUp := by
  unfold next
  cases h : v.pending with
  | nil => rfl
  | cons e rest =>
    simp only [catchUp, h, List.foldl_cons, follow_pending]

end Herald

namespace Service

variable {s t : Service Memory}

/-- All that the head notices of a service depend on. -/
def herald (s : Service Memory) : Herald where
  lanes := s.store.lanes
  told l := s.dispatch.heads[l]?
  pending := s.tasks.filterMap Task.headChange?
  sent := headNotices s.ledger.notices

/-! ## Handlers that have nothing to do with heads -/

/-- Two states of the service differ in nothing that has to do with heads. -/
structure Hushed (s t : Service Memory) : Prop where
  store : t.store = s.store
  tasks : t.tasks = s.tasks
  heads : t.dispatch.heads = s.dispatch.heads
  sent : headNotices t.ledger.notices = headNotices s.ledger.notices

/-- Every state is like itself. -/
lemma Hushed.refl (s : Service Memory) : Hushed s s := ⟨rfl, rfl, rfl, rfl⟩

/-- States that differ in nothing that has to do with heads have one herald. -/
lemma Hushed.herald_eq (h : Hushed s t) : t.herald = s.herald := by
  simp only [herald, h.store, h.tasks, h.heads, h.sent]

/-- Setting the label of a booking tells nobody to be a head. -/
lemma onAdded_hushed (lane : Lane) (n : PullNumber) (s : Service Memory) :
    Hushed s (s.onAdded lane n) := by
  obtain ⟨reports, events, hwrites⟩ := s.onAdded_writes lane n
  rw [hwrites]
  exact ⟨rfl, rfl, rfl, rfl⟩

/-- Setting the labels of a lane after a removal tells nobody to be a head. -/
lemma onRemoved_hushed (lane : Lane) (n : PullNumber) (closed : Bool) (s : Service Memory) :
    Hushed s (s.onRemoved lane n closed) := by
  obtain ⟨reports, events, hwrites⟩ := s.onRemoved_writes lane n closed
  rw [hwrites]
  exact ⟨rfl, rfl, rfl, rfl⟩

/-- Measuring a lane tells nobody to be a head. -/
lemma measure_hushed (e : LaneEvent) (s : Service Memory) : Hushed s (s.measure e) := by
  obtain ⟨metrics, hwrites⟩ := s.measure_writes e
  rw [hwrites]
  exact ⟨rfl, rfl, rfl, rfl⟩

/-- Showing a lane tells nobody to be a head. -/
lemma showLane_hushed (lane : Lane) (s : Service Memory) : Hushed s (s.showLane lane) := by
  obtain ⟨feed, snapshots, hwrites⟩ := s.showLane_writes lane
  rw [hwrites]
  exact ⟨rfl, rfl, rfl, rfl⟩

/-- Holding back a result of checks tells nobody to be a head. -/
lemma onChecks_hushed (c : HeadChecks) (s : Service Memory) : Hushed s (s.onChecks c) := by
  obtain ⟨pending, delivered, nextGeneration, alarms, notices, events, hwrites, hchecks⟩ :=
    s.onChecks_writes c
  have hnone : headNotices notices = [] :=
    List.filterMap_eq_nil_iff.2 fun x hx => by rw [hchecks x hx]; rfl
  rw [hwrites]
  refine ⟨rfl, rfl, rfl, List.filterMap_append.trans ?_⟩
  exact (congrArg (_ ++ ·) hnone).trans (List.append_nil _)

/-- A task that follows up no change with a notice tells nobody to be a head. -/
lemma handle_hushed {task : Task} (h : task.headChange? = none) (s : Service Memory) :
    Hushed s (s.handle task.handler task.event) := by
  obtain ⟨handler, e⟩ := task
  cases handler with
  | labelAdded =>
    rcases e with (_ | _) | _ | _ <;> first | exact onAdded_hushed _ _ s | exact .refl s
  | labelRemoved =>
    rcases e with (_ | _) | _ | _ <;> first | exact onRemoved_hushed _ _ _ s | exact .refl s
  | noticeHead => cases e <;> first | exact .refl s | cases h
  | noticeChecks => cases e <;> first | exact onChecks_hushed _ s | exact .refl s
  | measure => cases e <;> first | exact measure_hushed _ s | exact .refl s
  | watch => cases e <;> first | exact showLane_hushed _ s | exact .refl s

/-! ## The handler of head notices -/

/-- The head of a lane as a store that can be reached tells it. -/
lemma atDesk_head (h : s.store.online = true) (l : Lane) :
    s.atDesk (Desk.head l) = (.ok (s.store.lanes l).head?, s) := by
  have hread : Store.readRange l.storeKey (some 1) s.store =
      (.ok ((s.store.lanes l).take 1), s.store) := by
    simp [Store.readRange, Memory.read, h, Shelves.front, Memory.lanes]
  simp [atDesk, Desk.head, hread, Turn.ask, Turn.done, publishAll, List.head?_take]

/-- Telling a head touches neither the store nor the tasks. -/
lemma notifyHead_eq (l : Lane) (b : Booking) (s : Service Memory) :
    (s.notifyHead l b.number b.username).store = s.store ∧
      (s.notifyHead l b.number b.username).tasks = s.tasks ∧
      (s.notifyHead l b.number b.username).herald = s.herald.tell l b := by
  unfold Herald.tell
  by_cases htold : s.dispatch.heads[l]? = some b.number
  · rw [notifyHead, if_pos htold, if_pos (show s.herald.told l = _ from htold)]
    exact ⟨rfl, rfl, rfl⟩
  · obtain ⟨pending, alarms, error, events, hwrites⟩ := s.notifyHead_writes l b.username htold
    rw [hwrites, if_neg (show ¬ s.herald.told l = _ from htold)]
    refine ⟨rfl, rfl, Herald.ext rfl ?_ rfl List.filterMap_append⟩
    funext l'
    simp only [herald, Std.ExtTreeMap.getElem?_insert, Std.compare_eq_iff_eq,
      Function.update_apply, eq_comm (a := l)]

/-- Noting that a lane has no head touches neither the store nor the tasks. -/
lemma vacate_eq (l : Lane) (s : Service Memory) :
    (s.vacate l).store = s.store ∧ (s.vacate l).tasks = s.tasks ∧
      (s.vacate l).herald = { s.herald with told := Function.update s.herald.told l none } := by
  obtain ⟨pending, alarms, hwrites⟩ := s.vacate_writes l
  rw [hwrites]
  refine ⟨rfl, rfl, Herald.ext rfl ?_ rfl rfl⟩
  funext l'
  simp only [herald, Std.ExtTreeMap.getElem?_erase, Std.compare_eq_iff_eq, Function.update_apply,
    eq_comm (a := l)]

/-- The handler of head notices follows a change up, and touches neither the store nor the
tasks. -/
lemma onChange_eq (h : s.store.online = true) (e : LaneEvent) :
    (s.onChange e).store = s.store ∧ (s.onChange e).tasks = s.tasks ∧
      (s.onChange e).herald = s.herald.follow e := by
  cases e with
  | added l b place =>
    simp only [onChange, Herald.follow]
    split
    · exact notifyHead_eq l b s
    · exact ⟨rfl, rfl, rfl⟩
  | removed l b removal =>
    simp only [onChange, Herald.follow, atDesk_head h]
    split
    · have hlanes : s.herald.lanes l = s.store.lanes l := rfl
      rw [hlanes]
      cases (s.store.lanes l).head? with
      | none => exact vacate_eq l s
      | some b => exact notifyHead_eq l b s
    · exact ⟨rfl, rfl, rfl⟩

/-! ## Tasks -/

/-- A task touches neither the store nor the tasks behind it. -/
lemma runNext_eq (h : s.store.online = true) :
    s.runNext.store = s.store ∧ s.runNext.tasks = s.tasks.tail := by
  unfold runNext
  cases htasks : s.tasks with
  | nil => exact ⟨rfl, htasks⟩
  | cons task rest =>
    cases hchange : task.headChange? with
    | none =>
      have hhushed := handle_hushed hchange { s with tasks := rest }
      exact ⟨hhushed.store, hhushed.tasks⟩
    | some e =>
      obtain rfl := Task.of_headChange? hchange
      obtain ⟨hstore, htasks', -⟩ := onChange_eq (s := { s with tasks := rest }) h e
      exact ⟨hstore, htasks'⟩

/-- No step spoils a store that serves. -/
lemma serving_step (h : s.store.Serving) (x : Step) : (s.step x).store.Serving := by
  cases x with
  | request r => exact store_request r s ▸ serving_serve h r
  | task => exact (runNext_eq h.online).1 ▸ h

/-- Neither does any run. -/
lemma serving_play (h : s.store.Serving) (steps : List Step) : (play steps s).store.Serving := by
  induction steps generalizing s with
  | nil => exact h
  | cons x steps ih => exact ih (serving_step h x)

/-- The task of a change that is to be followed up with a notice follows up the first pending
change. -/
lemma herald_runNext (h : s.store.online = true) {e : LaneEvent} {rest : List Task}
    (htasks : s.tasks = ⟨.noticeHead, .lane e⟩ :: rest) :
    s.herald.pending = e :: rest.filterMap Task.headChange? ∧
      s.runNext.herald = s.herald.next := by
  have hpending : s.herald.pending = e :: rest.filterMap Task.headChange? := by
    simp [herald, htasks, Task.headChange?]
  refine ⟨hpending, ?_⟩
  unfold runNext Herald.next
  rw [htasks, hpending]
  exact (onChange_eq (s := { s with tasks := rest }) h e).2.2

/-- A task follows up the first change that is pending, or leaves the herald alone. -/
lemma herald_runNext_cases (h : s.store.online = true) :
    (∃ e rest, s.tasks = ⟨.noticeHead, .lane e⟩ :: rest ∧
      s.herald.pending = e :: rest.filterMap Task.headChange? ∧
      s.runNext.herald = s.herald.next) ∨
    s.runNext.herald = s.herald := by
  cases htasks : s.tasks with
  | nil =>
    refine .inr ?_
    simp only [runNext, htasks]
  | cons task rest =>
    cases hchange : task.headChange? with
    | none =>
      refine .inr ?_
      simp only [runNext, htasks]
      rw [(handle_hushed hchange { s with tasks := rest }).herald_eq]
      simp [herald, htasks, hchange]
    | some e =>
      obtain rfl := Task.of_headChange? hchange
      exact .inl ⟨e, rest, rfl, herald_runNext h htasks⟩

/-- All tasks together touch nothing of the store, leave no task, and follow up all that is
pending. -/
theorem herald_settle (h : s.store.online = true) :
    s.settle.store = s.store ∧ s.settle.tasks = [] ∧ s.settle.herald = s.herald.catchUp := by
  unfold settle
  induction htasks : s.tasks generalizing s with
  | nil =>
    have hpending : s.herald.pending = [] := by simp [herald, htasks]
    exact ⟨rfl, htasks, (Herald.catchUp_of_idle hpending).symm⟩
  | cons task rest ih =>
    obtain ⟨hstore, htail⟩ := runNext_eq h
    rw [htasks] at htail
    obtain ⟨hstore', hnone, hherald⟩ := ih (s := s.runNext) (hstore ▸ h) htail
    refine ⟨hstore'.trans hstore, hnone, hherald.trans ?_⟩
    rcases herald_runNext_cases h with ⟨e, rest', -, -, hnext⟩ | hsame
    · rw [hnext, Herald.catchUp_next]
    · rw [hsame]

/-! ## Requests -/

/-- A change that is published gets one task that is to follow it up with a notice. -/
lemma headChange?_handlers (e : LaneEvent) :
    ((handlers (.lane e)).map fun h => (⟨h, .lane e⟩ : Task)).filterMap Task.headChange? = [e] := by
  cases e with
  | added l b place =>
    rw [handlers_added]
    rfl
  | removed l b removal =>
    rw [handlers_removed]
    rfl

/-- What a request does to the herald: nothing, or the lanes change as an event tells it that has
still to be followed up. -/
theorem herald_request {r : Desk.Request} (hr : r.lane.repo.Colonless) (s : Service Memory) :
    Herald.Asked r.lane s.herald (s.request r).herald := by
  have htells := Desk.serve_tells hr s.store
  rw [request_eq]
  generalize Desk.serve r s.store = turn at htells ⊢
  cases htells with
  | @nothing a t ha ht =>
    have hsame : ({ s with store := t } : Service Memory).herald = s.herald :=
      Herald.ext (funext ht) rfl rfl rfl
    exact hsame ▸ .unchanged
  | @event a t e ha he htrue ht =>
    have hpublished : (({ s with store := t } : Service Memory).publish (.lane e)).herald =
        { s.herald with lanes := t.lanes, pending := s.herald.pending ++ [e] } := by
      refine Herald.ext rfl rfl ?_ rfl
      rw [← headChange?_handlers]
      exact List.filterMap_append
    exact hpublished ▸ .changed he htrue ht

end Service

end MergeTurn
