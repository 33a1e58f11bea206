import MergeTurn.Proofs.Service.Parts
import MergeTurn.Proofs.Service.Tally

set_option autoImplicit false

/-!
# Exact time

Tasks may be late, but clocks are not: no time passes while an alarm is due. So whoever is told of a
result of checks is told at the end of the delay exactly, and there is never more than one result
waiting for a lane.

## Main definitions

* `MergeTurn.Service.Beat`, `MergeTurn.Service.beat` — what can happen, and what comes of it.
* `MergeTurn.Service.marks`, `MergeTurn.Service.journal` — what happens to each lane meanwhile.
* `MergeTurn.Service.Enters` — the service goes on, and marks tell what happened to the lanes.
* `MergeTurn.Service.Recorded` — the service is where the past has led it.
* `MergeTurn.Service.Fate` — what can become of a result that is held back.

## Main results

* `MergeTurn.Service.Tallied.beat` — what each beat does, and that it is lawful.
* `MergeTurn.Service.checks_never_stack` — results of checks replace each other.

## Design

The marks of a task are given by the past, by the event that it handles and by what the store
answers, not by what the service itself remembers. That it remembers the right things is the
invariant. The mark of an alarm is given by the alarm, and that is lawful only if the past holds the
same result back for as long.
-/

namespace MergeTurn

/-- The notice of a result of checks. -/
def HeadChecks.notice (c : HeadChecks) : Notice :=
  .checks c.lane c.number c.username c.state

/-- Whether a notice is one of a result of checks. -/
def Notice.isChecks : Notice → Bool
  | .head .. => false
  | .checks .. => true

/-- The notices of results of checks that were sent, delivered or not, in order. -/
def checksNotices (attempts : List (Attempt Notice)) : List Notice :=
  (attempts.map (·.call)).filter Notice.isChecks

namespace Service

/-- What can happen to the service in exact time. -/
inductive Beat (σ : Type) where
  | call (c : Call)
  /-- Somebody posts a status. -/
  | check (change : CheckChange)
  /-- An event is published, be it of a lane or of a result of checks. -/
  | event (e : Event)
  /-- One of the tasks that can run is run. -/
  | task (i : Nat)
  /-- One of the alarms rings, if its time has come. -/
  | alarm (i : Nat)
  /-- The clock goes on, unless an alarm is due. -/
  | tick
  /-- The store is changed from outside. -/
  | outside (f : σ → σ)

variable {σ : Type} [Store σ]

/-- The service after a beat. -/
def beat : Beat σ → Service σ → Service σ
  | .call c, s => (s.perform c).2
  | .check change, s => (s.checkChanged change).2
  | .event e, s => s.publish e
  | .task i, s => s.runAt i
  | .alarm i, s => s.ringAt i
  | .tick, s => if s.alarms.all (s.now < ·.due) then { s with now := s.now + 1 } else s
  | .outside f, s => { s with store := f s.store }

/-! ## Marks -/

/-- The head of a lane that a change may have brought about, as it is found when the change is
followed up. -/
def news? (e : LaneEvent) (s : Service σ) : Option (Option PullNumber) :=
  match e with
  | .added _ b place => if place = 0 then some (some b.number) else none
  | .removed lane _ removal =>
    if removal.headChanged then
      (s.atDesk (Desk.head lane)).1.toOption.map fun head => head.map (·.number)
    else none

/-- The marks of a change that is followed up. A head that was told last is not a new one. -/
def headMarks (d : Docket) (e : LaneEvent) (s : Service σ) : List Mark :=
  match s.news? e with
  | none => []
  | some n => if n.isSome ∧ d.heads e.lane = n then [] else [.headed e.lane n]

omit [Store σ] in
/-- The marks of a result of checks. One that was sent last is not taken again, and without a delay it
is sent as soon as it is taken. -/
def checksMarks (d : Docket) (c : HeadChecks) (s : Service σ) : List Mark :=
  if d.delivered c.lane = some c.verdict then []
  else if s.rules.debounce = 0 then [.taken c, .sent c]
  else [.taken c]

/-- The marks that a task makes. -/
def taskMarks (d : Docket) (task : Task) (s : Service σ) : List Mark :=
  match task.handler, task.event with
  | .noticeHead, .lane e => s.headMarks d e
  | .noticeChecks, .checks c => s.checksMarks d c
  | _, _ => []

/-- The marks that a beat makes. -/
def marks (d : Docket) (x : Beat σ) (s : Service σ) : List Mark :=
  match x with
  | .task i =>
    match s.tasks[i]? with
    | none => []
    | some task => s.taskMarks d task
  | .alarm i =>
    match s.alarms[i]? with
    | none => []
    | some a => if a.due ≤ s.now then [.sent a.checks] else []
  | _ => []

/-- The stamps of a beat: its marks at their time. -/
def stamps (d : Docket) (x : Beat σ) (s : Service σ) : List Stamp :=
  (s.marks d x).map fun mark => ⟨s.now, mark⟩

/-- The past and the service after beats. -/
def journal : List (Beat σ) → List Stamp → Service σ → List Stamp × Service σ
  | [], past, s => (past, s)
  | x :: beats, past, s => journal beats (past ++ s.stamps (Docket.read past) x) (s.beat x)

/-! ## What has nothing to do with notices -/

omit [Store σ] in
/-- Two states of the service differ in nothing that has to do with notices. -/
structure Unmoved (s t : Service σ) : Prop where
  rules : t.rules = s.rules
  dispatch : t.dispatch = s.dispatch
  alarms : t.alarms = s.alarms
  now : t.now = s.now
  notices : t.ledger.notices = s.ledger.notices

omit [Store σ] in
/-- Calls, and tasks that tell nobody anything, have nothing to do with notices. -/
lemma upheld_unmoved (s : Service σ) : UpheldByCalls (fun _ => True) (Unmoved s) := by
  have hpost : ∀ {t : Service σ}, Unmoved s t → ∀ lane p report,
      Unmoved s (t.post lane p report).2 := by
    intro t h lane p report
    obtain ⟨reports, events, hwrites⟩ := t.post_writes lane p report
    rw [hwrites]
    exact ⟨h.rules, h.dispatch, h.alarms, h.now, h.notices⟩
  constructor
  case withStore => exact fun h _ => ⟨h.rules, h.dispatch, h.alarms, h.now, h.notices⟩
  case publish => exact fun h _ _ => ⟨h.rules, h.dispatch, h.alarms, h.now, h.notices⟩
  case record => exact fun h _ _ => ⟨h.rules, h.dispatch, h.alarms, h.now, h.notices⟩
  case forget => exact fun h _ _ => ⟨h.rules, h.dispatch, h.alarms, h.now, h.notices⟩
  case post => exact fun h p _ report => hpost h p.lane p report
  case postRecorded => exact fun h lane _ p _ report => hpost h lane p report
  case meter => exact fun h _ => ⟨h.rules, h.dispatch, h.alarms, h.now, h.notices⟩
  case showSnapshot =>
    intro t h x
    unfold Service.showSnapshot
    cases t.clients.watch t.ledger.snapshots.length <;>
      exact ⟨h.rules, h.dispatch, h.alarms, h.now, h.notices⟩

/-! ## Beats -/

omit [Store σ] in
/-- The service has gone on at one time, and what happened to lanes is lawful and told by marks. -/
structure Enters (d : Docket) (s : Service σ) (marks : List Mark) (t : Service σ) : Prop where
  tallied : Tallied ((marks.map (⟨s.now, ·⟩)).foldl Docket.note d) t
  lawful : Docket.Lawful s.rules.debounce d (marks.map (⟨s.now, ·⟩))
  notices : checksNotices t.ledger.notices = checksNotices s.ledger.notices ++
    (marks.filterMap Mark.sent?).map HeadChecks.notice
  rules : t.rules = s.rules
  now : t.now = s.now

section Entries

variable {d : Docket} {s t u : Service σ} {l : Lane} {n : Option PullNumber} {ms ms' : List Mark}

omit [Store σ]

/-- Every state is like itself. -/
lemma Unmoved.refl (s : Service σ) : Unmoved s s := ⟨rfl, rfl, rfl, rfl, rfl⟩

/-- What has nothing to do with notices happens to no lane. -/
lemma Unmoved.enters_nil (h : Unmoved s t) (hs : Tallied d s) : Enters d s [] t where
  tallied := hs.congr h.rules h.dispatch h.alarms h.now
  lawful := trivial
  notices := by simp [h.notices]
  rules := h.rules
  now := h.now

/-- What has nothing to do with notices may come first. -/
lemma Unmoved.enters (h : Unmoved s u) (hu : Enters d u ms t) : Enters d s ms t := by
  obtain ⟨tallied, lawful, notices, rules, now⟩ := hu
  rw [h.now] at tallied lawful
  rw [h.rules] at lawful
  rw [h.notices] at notices
  exact ⟨tallied, lawful, notices, rules.trans h.rules, now.trans h.now⟩

/-- A lane has a new head, or none any more. -/
lemma Tallied.enters_headed (h : Tallied d s)
    (ht : Tallied (d.note ⟨s.now, .headed l n⟩) t)
    (hnotices : checksNotices t.ledger.notices = checksNotices s.ledger.notices)
    (hrules : t.rules = s.rules) (hnow : t.now = s.now) : Enters d s [.headed l n] t where
  tallied := ht
  lawful := ⟨⟨fun _ _ hwaiting => h.prompt hwaiting, fun _ hc => nomatch hc⟩, trivial⟩
  notices := by simp [hnotices, Mark.sent?]
  rules := hrules
  now := hnow

/-- A head is told, unless it was told last. -/
lemma Tallied.enters_notifyHead (h : Tallied d s) (l : Lane) (n : PullNumber) (username : String) :
    Enters d s (if d.heads l = some n then [] else [.headed l (some n)])
      (s.notifyHead l n username) := by
  rw [← h.heads]
  split_ifs with htold
  · rw [Service.notifyHead, if_pos htold]
    exact (Unmoved.refl s).enters_nil h
  · have ht := h.notifyHead htold username
    obtain ⟨pending, alarms, error, events, hwrites⟩ := s.notifyHead_writes l username htold
    rw [hwrites] at ht ⊢
    exact h.enters_headed ht (by simp [checksNotices, Notice.isChecks]) rfl rfl

/-- A lane is found to have no head. -/
lemma Tallied.enters_vacate (h : Tallied d s) (l : Lane) :
    Enters d s [.headed l none] (s.vacate l) := by
  have ht := h.vacate l
  obtain ⟨pending, alarms, hwrites⟩ := s.vacate_writes l
  rw [hwrites] at ht ⊢
  exact h.enters_headed ht rfl rfl rfl

/-- An alarm that rings is the one of the result that is held back, which is sent. -/
lemma Tallied.ring_eq (h : Tallied d s) {i : Nat} {a : Alarm} (ha : s.alarms[i]? = some a) :
    ∃ error failures, { s with alarms := s.alarms.eraseIdx i }.ring a = { s with
      dispatch := { s.dispatch with
        pending := s.dispatch.pending.erase a.checks.lane
        delivered := s.dispatch.delivered.insert a.checks.lane a.checks.verdict }
      alarms := s.alarms.eraseIdx i
      ledger := { s.ledger with
        notices := s.ledger.notices ++ [⟨a.checks.notice, error⟩]
        events := s.ledger.events ++ List.map .failed failures } } := by
  unfold ring
  dsimp only
  rw [if_pos (h.matched a (List.mem_of_getElem? ha)).1]
  exact notify_writes ..

/-- An alarm rings, if its time has come. -/
lemma Tallied.enters_ringAt (h : Tallied d s) {i : Nat} {a : Alarm} (ha : s.alarms[i]? = some a) :
    Enters d s (if a.due ≤ s.now then [.sent a.checks] else []) (s.ringAt i) := by
  simp only [ringAt, ha]
  split_ifs with hdue
  · obtain ⟨error, failures, hring⟩ := h.ring_eq ha
    obtain ⟨-, hnow, time, -, hwaiting, hend⟩ := h.matched a (List.mem_of_getElem? ha)
    rw [hring]
    refine ⟨(h.send ha).congr rfl rfl rfl rfl, ⟨⟨?_, ?_⟩, trivial⟩, ?_, rfl, rfl⟩
    · exact fun _ _ hwaiting => h.prompt hwaiting
    · rintro c ⟨⟩
      exact ⟨time, hwaiting, (Nat.le_antisymm hnow hdue).trans hend⟩
    · simp [checksNotices, Mark.sent?, HeadChecks.notice, Notice.isChecks]
  · exact (Unmoved.refl s).enters_nil h

/-- A result is taken. -/
lemma Tallied.enters_withhold (h : Tallied d s) (c : HeadChecks) :
    Enters d s [.taken c] (s.withhold c) := by
  obtain ⟨pending, alarms, hwrites⟩ := s.cancel_writes c.lane
  refine ⟨h.withhold c, ⟨⟨?_, fun _ hc => nomatch hc⟩, trivial⟩, ?_, ?_, ?_⟩
  · exact fun _ _ hwaiting => h.prompt hwaiting
  · simp [Service.withhold, hwrites, Mark.sent?]
  · simp [Service.withhold, hwrites]
  · simp [Service.withhold, hwrites]

/-- Marks that are made at one time are made one after the other. -/
lemma Enters.trans (h : Enters d s ms u)
    (hu : Enters ((ms.map (⟨s.now, ·⟩)).foldl Docket.note d) u ms' t) :
    Enters d s (ms ++ ms') t := by
  obtain ⟨tallied, lawful, notices, rules, now⟩ := hu
  rw [h.now] at tallied lawful
  rw [h.rules] at lawful
  refine ⟨?_, ?_, ?_, rules.trans h.rules, now.trans h.now⟩
  · rwa [List.map_append, List.foldl_append]
  · rw [List.map_append]
    exact Docket.lawful_append.2 ⟨h.lawful, lawful⟩
  · rw [notices, h.notices, List.filterMap_append, List.map_append, List.append_assoc]

/-- A result is taken, unless it was sent last, and without a delay it is sent at once. -/
lemma Tallied.enters_onChecks (h : Tallied d s) (c : HeadChecks) :
    Enters d s (s.checksMarks d c) (s.onChecks c) := by
  rw [checksMarks, ← h.delivered]
  by_cases hdelivered : s.dispatch.delivered[c.lane]? = some c.verdict
  · rw [if_pos hdelivered, onChecks, if_pos hdelivered]
    exact (Unmoved.refl s).enters_nil h
  have hheld := h.enters_withhold c
  rw [if_neg hdelivered, onChecks_eq hdelivered]
  split_ifs with hdebounce
  · obtain ⟨pending, alarms, hwrites⟩ := s.cancel_writes c.lane
    have hlast : (s.withhold c).alarms[(s.cancel c.lane).alarms.length]? =
        some ⟨s.now + s.rules.debounce, (s.cancel c.lane).dispatch.nextGeneration, c⟩ := by
      simp [Service.withhold, hwrites]
    -- Its alarm is due at once.
    have hring := (h.withhold c).enters_ringAt hlast
    rw [if_pos (by rw [hdebounce, hheld.now]; exact Nat.le_refl _)] at hring
    exact hheld.trans hring
  · exact hheld

end Entries

section Tasks

variable {d : Docket} {s : Service σ}

/-- A change is followed up: the lane has a new head, or none any more, or nothing happens. -/
lemma Tallied.enters_onChange (h : Tallied d s) (e : LaneEvent) :
    Enters d s (s.headMarks d e) (s.onChange e) := by
  cases e with
  | added l b place =>
    simp only [headMarks, news?, onChange, LaneEvent.lane]
    by_cases hplace : place = 0
    · simpa [hplace] using h.enters_notifyHead l b.number b.username
    · simpa [hplace] using (Unmoved.refl s).enters_nil h
  | removed l b removal =>
    simp only [headMarks, news?, onChange, LaneEvent.lane]
    by_cases hhead : removal.headChanged
    · simp only [hhead, if_true]
      have hdesk := ((upheld_unmoved s).kept.atDesk ⟨rfl, Unmoved.refl s⟩ (Desk.head l)).2.2
      generalize s.atDesk (Desk.head l) = turn at hdesk ⊢
      obtain ⟨e | head, t⟩ := turn
      · exact hdesk.enters_nil h
      have ht := h.congr hdesk.rules hdesk.dispatch hdesk.alarms hdesk.now
      cases head with
      | none => exact hdesk.enters (ht.enters_vacate l)
      | some b => simpa [Except.toOption] using hdesk.enters (ht.enters_notifyHead l _ b.username)
    · simpa [hhead] using (Unmoved.refl s).enters_nil h

/-- A task is run. -/
lemma Tallied.enters_handle (h : Tallied d s) (task : Task) :
    Enters d s (s.taskMarks d task) (s.handle task.handler task.event) := by
  have hnothing := (Unmoved.refl s).enters_nil h
  have hkept := (upheld_unmoved s).kept
  have hself : s = s ∧ Unmoved s s := ⟨rfl, Unmoved.refl s⟩
  obtain ⟨handler, e⟩ := task
  cases handler with
  | labelAdded =>
    rcases e with (_ | _) | _ | _
    case lane.added l b place => exact (hkept.onAdded hself l b.number).2.enters_nil h
    all_goals exact hnothing
  | labelRemoved =>
    rcases e with (_ | _) | _ | _
    case lane.removed l b removal =>
      exact (hkept.onRemoved hself l b.number removal.closed).2.enters_nil h
    all_goals exact hnothing
  | noticeHead => cases e <;> first | exact h.enters_onChange _ | exact hnothing
  | noticeChecks => cases e <;> first | exact h.enters_onChecks _ | exact hnothing
  | measure => cases e <;> first | exact (hkept.measure hself _).2.enters_nil h | exact hnothing
  | watch => cases e <;> first | exact (hkept.showLane hself _).2.enters_nil h | exact hnothing

/-- Whatever happens, the service does what its marks say, and that is lawful. -/
theorem Tallied.beat (h : Tallied d s) {x : Beat σ} (hx : x ≠ .tick) :
    Enters d s (s.marks d x) (s.beat x) := by
  have hpost := upheld_unmoved s
  cases x with
  | call c => exact (hpost.perform (.refl s) fun _ _ => trivial).enters_nil h
  | check change => exact (hpost.checkChanged (.refl s) change).enters_nil h
  | event e =>
    have hpublished : Unmoved s (s.publish e) := ⟨rfl, rfl, rfl, rfl, rfl⟩
    exact hpublished.enters_nil h
  | task i =>
    simp only [Service.beat, marks, runAt]
    cases s.tasks[i]? with
    | none => exact (Unmoved.refl s).enters_nil h
    | some task =>
      have htaken : Unmoved s { s with tasks := s.tasks.eraseIdx i } := ⟨rfl, rfl, rfl, rfl, rfl⟩
      have ht : Tallied d { s with tasks := s.tasks.eraseIdx i } := h.congr rfl rfl rfl rfl
      exact htaken.enters (ht.enters_handle task)
  | alarm i =>
    simp only [Service.beat, marks]
    cases ha : s.alarms[i]? with
    | none =>
      rw [ringAt, ha]
      exact (Unmoved.refl s).enters_nil h
    | some a => exact h.enters_ringAt ha
  | tick => exact absurd rfl hx
  | outside f => exact (hpost.withStore (.refl s) _).enters_nil h

/-- The clock goes on, and nothing else happens. -/
lemma Tallied.tick (h : Tallied d s) : Tallied d (s.beat .tick) := by
  simp only [Service.beat]
  split_ifs with hdue
  · exact h.later hdue
  · exact h

end Tasks

/-! ## Runs of beats -/

omit [Store σ] in
/-- What happened to the lanes in the past is lawful and in order, the service remembers it, and what
was sent is what people were told of checks. -/
structure Recorded (past : List Stamp) (s : Service σ) : Prop where
  tallied : Tallied (Docket.read past) s
  lawful : Docket.Lawful s.rules.debounce Docket.empty past
  notices : checksNotices s.ledger.notices = (past.filterMap (·.mark.sent?)).map HeadChecks.notice
  ordered : past.Pairwise (·.time ≤ ·.time)
  passed : ∀ x ∈ past, x.time ≤ s.now

omit [Store σ] in
/-- What can have become of a result since it was taken: its alarm still waits for the end of the
delay, or it was sent then, or before that it was given up for something else that happened to its
lane. -/
inductive Fate (s : Service σ) (time : Nat) (c : HeadChecks) : List Stamp → Prop
  | waiting {later : List Stamp} {a : Alarm} (hquiet : ∀ x ∈ later, x.mark.lane ≠ c.lane)
    (ha : a ∈ s.alarms) (hc : a.checks = c) (hdue : a.due = time + s.rules.debounce)
    (hnow : s.now ≤ a.due) : Fate s time c later
  | sent {between after : List Stamp} (hquiet : ∀ x ∈ between, x.mark.lane ≠ c.lane) :
    Fate s time c (between ++ ⟨time + s.rules.debounce, .sent c⟩ :: after)
  | replaced {between after : List Stamp} {x : Stamp} (hquiet : ∀ y ∈ between, y.mark.lane ≠ c.lane)
    (hlane : x.mark.lane = c.lane) (hnot : x.mark.sent? = none)
    (htime : x.time ≤ time + s.rules.debounce) : Fate s time c (between ++ x :: after)

namespace Recorded

variable {past : List Stamp} {s t : Service σ} {ms : List Mark}

omit [Store σ] in
/-- The past goes on by what happens at one time. -/
lemma enters (h : Recorded past s) (ht : Enters (Docket.read past) s ms t) :
    Recorded (past ++ ms.map (⟨s.now, ·⟩)) t where
  tallied := by
    rw [Docket.read_append]
    exact ht.tallied
  lawful := by
    rw [ht.rules]
    exact Docket.lawful_append.2 ⟨h.lawful, ht.lawful⟩
  notices := by
    rw [ht.notices, h.notices, List.filterMap_append, List.map_append, List.filterMap_map]
    rfl
  ordered := by
    refine List.pairwise_append.2 ⟨h.ordered, ?_, fun x hx y hy => ?_⟩
    · exact List.pairwise_map.2 (List.pairwise_of_forall fun _ _ => Nat.le_refl _)
    · obtain ⟨mark, -, rfl⟩ := List.mem_map.1 hy
      exact h.passed x hx
  passed := by
    intro x hx
    rw [ht.now]
    rcases List.mem_append.1 hx with hx | hx
    · exact h.passed x hx
    · obtain ⟨mark, -, rfl⟩ := List.mem_map.1 hx
      exact Nat.le_refl _

/-- The clock goes on, and nothing else happens. -/
lemma tick (h : Recorded past s) :
    Recorded past (s.beat .tick) ∧ (s.beat .tick).rules = s.rules := by
  have ht := h.tallied.tick
  simp only [beat] at ht ⊢
  split_ifs at ht ⊢
  · exact ⟨⟨ht, h.lawful, h.notices, h.ordered, fun x hx => Nat.le_succ_of_le (h.passed x hx)⟩, rfl⟩
  · exact ⟨h, rfl⟩

/-- The past goes on in a run of beats, and the rules stay what they are. -/
theorem journal (h : Recorded past s) (beats : List (Beat σ)) :
    Recorded (journal beats past s).1 (journal beats past s).2 ∧
      (journal beats past s).2.rules = s.rules := by
  induction beats generalizing past s with
  | nil => exact ⟨h, rfl⟩
  | cons x beats ih =>
    have hx : Recorded (past ++ s.stamps (Docket.read past) x) (s.beat x) ∧
        (s.beat x).rules = s.rules := by
      by_cases htick : x = .tick
      · subst htick
        simpa [stamps, marks] using h.tick
      · have hbeat := h.tallied.beat htick
        exact ⟨h.enters hbeat, hbeat.rules⟩
    obtain ⟨hrecorded, hrules⟩ := ih hx.1
    exact ⟨hrecorded, hrules.trans hx.2⟩

omit [Store σ] in
/-- Something becomes of every result that is taken.

**Proof sketch.** If nothing has happened to its lane, the docket holds it back, and so there is an
alarm. Otherwise the first thing that has happened was lawful. -/
lemma fate {before later : List Stamp} {time : Nat} {c : HeadChecks} (h : Recorded past s)
    (hpast : past = before ++ ⟨time, .taken c⟩ :: later) : Fate s time c later := by
  subst hpast
  cases hfirst : later.find? (·.mark.lane == c.lane) with
  | none =>
    have hquiet : ∀ x ∈ later, x.mark.lane ≠ c.lane := by
      simpa using List.find?_eq_none.1 hfirst
    obtain ⟨-, a, ha, hc, hdue, hnow⟩ := h.tallied.alarm (Docket.waiting_taken before time hquiet)
    exact .waiting hquiet ha hc hdue hnow
  | some x =>
    obtain ⟨hx, between, after, rfl, hothers⟩ := List.find?_eq_some_iff_append.1 hfirst
    have hquiet : ∀ y ∈ between, y.mark.lane ≠ c.lane := by simpa using hothers
    have hlane : x.mark.lane = c.lane := by simpa using hx
    have hlawful := h.lawful
    rw [← List.cons_append, ← List.append_assoc] at hlawful
    obtain ⟨htime, hsent⟩ := hlawful.next hquiet hlane
    cases hmark : x.mark.sent? with
    | none => exact .replaced hquiet hlane hmark htime
    | some c' =>
      have hc' : x.mark = .sent c' := by
        cases hm : x.mark <;> rw [hm] at hmark <;> cases hmark
        rfl
      rw [hsent c' hc']
      exact .sent hquiet

end Recorded

/-- Results of checks replace each other and never stack. In exact time, whatever is called or
published, and however long the tasks are delayed, after every run:

* as many results are pending as there are alarms that wait, at most one for each lane, so none when
  all have finished;
* who was told of a result was told of one that had been taken a delay before, exactly, and nothing
  had happened to its lane since: no newer result was taken, none was sent, and the lane was not
  found to have another head or none. So no result is sent twice, and none that was replaced;
* what is sent to one lane is sent a delay apart;
* a result that was taken still waits, or it was sent a delay later, or before its alarm rang it was
  replaced by something else that happened to its lane. -/
theorem checks_never_stack (rules : Rules) (store : σ) (registry : Registry) (room : Nat)
    (clients : Clients) (beats : List (Beat σ)) :
    let past := (journal beats [] { start rules store registry room with clients }).1
    let s := (journal beats [] { start rules store registry room with clients }).2
    (s.pendingChecks = s.alarms.length ∧ (s.alarms.map (·.checks.lane)).Nodup) ∧
    checksNotices s.ledger.notices =
      (past.filterMap (·.mark.sent?)).map HeadChecks.notice ∧
    (∀ before time c after, past = before ++ ⟨time, .sent c⟩ :: after →
      ∃ earlier since between, before = earlier ++ ⟨since, .taken c⟩ :: between ∧
        (∀ x ∈ between, x.mark.lane ≠ c.lane) ∧ time = since + rules.debounce) ∧
    (past.Pairwise fun x y => ∀ c c', x.mark = .sent c → y.mark = .sent c' → c.lane = c'.lane →
      x.time + rules.debounce ≤ y.time) ∧
    ∀ before time c later, past = before ++ ⟨time, .taken c⟩ :: later → Fate s time c later := by
  have hstart : Recorded [] { start rules store registry room with clients } :=
    ⟨tallied_start rules store registry room clients, trivial, rfl, List.Pairwise.nil, by simp⟩
  obtain ⟨h, hrules⟩ := hstart.journal beats
  generalize Service.journal beats [] { start rules store registry room with clients } = x at h hrules
  obtain ⟨past, s⟩ := x
  dsimp only at h hrules ⊢
  have hlawful : Docket.Lawful rules.debounce Docket.empty past := by
    have hl := h.lawful
    rwa [hrules] at hl
  refine ⟨⟨h.tallied.size_pending, h.tallied.lanes⟩, h.notices, ?_, hlawful.apart h.ordered, ?_⟩
  · rintro before time c after rfl
    exact hlawful.source
  · exact fun before time c later hpast => h.fate hpast

/-- A result of the checks of a pull request. -/
def sampleChecks (state : CheckState) : HeadChecks :=
  ⟨(samplePull 1 "one").lane, ⟨1⟩, "mona", ⟨"0"⟩, state⟩

/-- Checks fail, and a millisecond later they succeed. Two more milliseconds pass. -/
def replacingRun : List (Beat Memory) :=
  [.event (.checks (sampleChecks .failure)), .task 0, .tick,
    .event (.checks (sampleChecks .success)), .task 0, .tick, .tick, .alarm 0]

/-- With a delay of two milliseconds the success takes the place of the failure, and is sent. -/
theorem checks_never_stack_replacing :
    let x := journal replacingRun []
      { start ⟨"merge-turn", 2⟩ Memory.volatile Registry.volatile 0 with clients := .willing }
    x.1 = [⟨0, .taken (sampleChecks .failure)⟩, ⟨1, .taken (sampleChecks .success)⟩,
      ⟨3, .sent (sampleChecks .success)⟩] ∧
    checksNotices x.2.ledger.notices = [(sampleChecks .success).notice] ∧
    Fate x.2 0 (sampleChecks .failure) [⟨1, .taken (sampleChecks .success)⟩,
      ⟨3, .sent (sampleChecks .success)⟩] := by
  intro x
  have hpast : x.1 = [⟨0, .taken (sampleChecks .failure)⟩, ⟨1, .taken (sampleChecks .success)⟩,
      ⟨3, .sent (sampleChecks .success)⟩] := by
    decide +kernel
  obtain ⟨-, hnotices, -, -, hfate⟩ := checks_never_stack ⟨"merge-turn", 2⟩ Memory.volatile
    Registry.volatile 0 .willing replacingRun
  exact ⟨hpast, hnotices.trans (congrArg (fun past : List Stamp =>
    (past.filterMap (·.mark.sent?)).map HeadChecks.notice) hpast), hfate [] 0 _ _ hpast⟩

end Service

end MergeTurn
