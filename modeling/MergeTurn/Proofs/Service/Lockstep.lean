import MergeTurn.Proofs.Service.Postings

set_option autoImplicit false

/-!
# Clients that fail

A call to a client may fail at any time. All that comes of it is that the failure is published, and
nobody acts on that: two runs of one schedule go on in step whatever their clients refuse. They make
the same calls, and each of them publishes one failure for each of its calls that failed.

## Main definitions

* `MergeTurn.Core` — what a service is and has done, but for the failures of clients.
* `MergeTurn.Service.Lockstep` — two services differ in nothing but failures of clients.

## Main results

* `MergeTurn.Service.Lockstep.kept`, `MergeTurn.Service.Lockstep.enact` — they go on in step.
* `MergeTurn.Service.Lockstep.postings` — both are to post the same.
* `MergeTurn.Service.enact_lockstep` — what two runs of one schedule have in common.
-/

namespace MergeTurn

/-! ## What failures do not touch -/

/-- What a service is and has done, but for the failures of clients: its own parts, the events that
are no failures, and the calls that it has made. -/
structure Core (σ : Type) where
  rules : Rules
  store : σ
  registry : Registry
  dispatch : Dispatch
  tasks : List Task
  alarms : List Alarm
  now : Nat
  events : List Event
  posts : List (StatusTarget × StatusReport)
  notices : List Notice
  metrics : List Metric
  snapshots : List LaneSnapshot

namespace Service

variable {σ : Type}

/-- The core of a service. -/
def core (s : Service σ) : Core σ where
  rules := s.rules
  store := s.store
  registry := s.registry
  dispatch := s.dispatch
  tasks := s.tasks
  alarms := s.alarms
  now := s.now
  events := s.ledger.events.filter (!·.isFailure)
  posts := s.ledger.reports.map (·.call)
  notices := s.ledger.notices.map (·.call)
  metrics := s.ledger.metrics
  snapshots := s.ledger.snapshots.map (·.call)

/-- Two services differ in nothing but failures of clients. -/
structure Lockstep (s t : Service σ) : Prop where
  core : s.core = t.core

namespace Lockstep

variable {s t s' t' : Service σ}

/-! ## Parts -/

/-- Services go on in step if their cores change alike. -/
lemma change (h : Lockstep s t) (f : Core σ → Core σ) (hs : s'.core = f s.core)
    (ht : t'.core = f t.core) : Lockstep s' t' :=
  ⟨by rw [hs, ht, h.core]⟩

/-- Both publish an event that is no failure. -/
lemma publish (h : Lockstep s t) {e : Event} (he : e.isFailure = false) :
    Lockstep (s.publish e) (t.publish e) := by
  have hcore : ∀ u : Service σ, (u.publish e).core =
      { u.core with
        tasks := u.core.tasks ++ (handlers e).map fun h => ⟨h, e⟩
        events := u.core.events ++ [e] } := by
    intro u
    simp [Service.core, Service.publish, he]
  exact ⟨by rw [hcore, hcore, h.core]⟩

/-- Both post a status. -/
lemma post (h : Lockstep s t) (lane : Lane) (p : Pull) (report : StatusReport) :
    Lockstep (s.post lane p report).2 (t.post lane p report).2 := by
  have hcore : ∀ u : Service σ, (u.post lane p report).2.core =
      { u.core with posts := u.core.posts ++ [(p.posting lane report).call] } := by
    intro u
    rw [post_eq]
    cases u.clients.status u.ledger.reports.length <;> simp [Service.core, Event.isFailure]
  exact ⟨by rw [hcore, hcore, h.core]⟩

/-- Both notify somebody. -/
lemma notify (h : Lockstep s t) (x : Notice) :
    Lockstep (s.notify x.lane x.number x) (t.notify x.lane x.number x) := by
  have hcore : ∀ u : Service σ, (u.notify x.lane x.number x).core =
      { u.core with notices := u.core.notices ++ [x] } := by
    intro u
    rw [notify_eq]
    cases u.clients.notice u.ledger.notices.length <;> simp [Service.core, Event.isFailure]
  exact ⟨by rw [hcore, hcore, h.core]⟩

/-- Both enter a metric. -/
lemma meter (h : Lockstep s t) (m : Metric) : Lockstep (s.meter m) (t.meter m) :=
  h.change (fun k => { k with metrics := k.metrics ++ [m] }) rfl rfl

/-- Both show a lane. Whether it is seen does not matter to the service. -/
lemma showSnapshot (h : Lockstep s t) (x : LaneSnapshot) :
    Lockstep (s.showSnapshot x) (t.showSnapshot x) := by
  have hcore : ∀ u : Service σ, (u.showSnapshot x).core =
      { u.core with snapshots := u.core.snapshots ++ [x] } := by
    intro u
    unfold Service.showSnapshot
    cases u.clients.watch u.ledger.snapshots.length <;> simp [Service.core]
  exact ⟨by rw [hcore, hcore, h.core]⟩

/-! ## The desk and the registry -/

/-- The stores are the same. -/
lemma store (h : Lockstep s t) : s.store = t.store := congrArg Core.store h.core

/-- The registries are the same. -/
lemma registry (h : Lockstep s t) : s.registry = t.registry := congrArg Core.registry h.core

/-- Both know the same of what was told. -/
lemma dispatch (h : Lockstep s t) : s.dispatch = t.dispatch := congrArg Core.dispatch h.core

/-- The alarms are the same. -/
lemma alarms (h : Lockstep s t) : s.alarms = t.alarms := congrArg Core.alarms h.core

/-- The tasks are the same. -/
lemma tasks (h : Lockstep s t) : s.tasks = t.tasks := congrArg Core.tasks h.core

/-- The clocks show the same. -/
lemma now (h : Lockstep s t) : s.now = t.now := congrArg Core.now h.core

/-- The rules are the same. -/
lemma rules (h : Lockstep s t) : s.rules = t.rules := congrArg Core.rules h.core

/-- Both record or forget a pull request. -/
lemma withRegistry (h : Lockstep s t) (f : Registry → Registry) :
    Lockstep (s.withRegistry f) (t.withRegistry f) :=
  h.change (fun k => { k with registry := f k.registry }) rfl rfl

/-! ## Notices -/

/-- Both give up the result that is held back for a lane. -/
lemma cancel (h : Lockstep s t) (lane : Lane) : Lockstep (s.cancel lane) (t.cancel lane) := by
  simp only [Service.cancel, ← h.dispatch]
  cases s.dispatch.pending[lane]? with
  | none => exact h
  | some generation =>
    exact h.change (fun k => { k with
      dispatch := { s.dispatch with pending := s.dispatch.pending.erase lane }
      alarms := k.alarms.filter (·.generation != generation) }) rfl rfl

/-- Both tell a head that it is one. -/
lemma notifyHead (h : Lockstep s t) (lane : Lane) (n : PullNumber) (username : String) :
    Lockstep (s.notifyHead lane n username) (t.notifyHead lane n username) := by
  simp only [Service.notifyHead, ← h.dispatch]
  split
  · exact h
  · refine Lockstep.notify (cancel ?_ lane) (.head lane n username)
    exact h.change (fun k => { k with
      dispatch := { s.dispatch with heads := s.dispatch.heads.insert lane n } }) rfl rfl

/-- Both forget the head of a lane. -/
lemma vacate (h : Lockstep s t) (lane : Lane) : Lockstep (s.vacate lane) (t.vacate lane) := by
  refine cancel ?_ lane
  exact h.change (fun k => { k with
    dispatch := { k.dispatch with heads := k.dispatch.heads.erase lane } }) rfl rfl

/-- Both deliver a result that was held back. -/
lemma ring (h : Lockstep s t) (a : Alarm) : Lockstep (s.ring a) (t.ring a) := by
  simp only [Service.ring, ← h.dispatch]
  split
  · refine Lockstep.notify ?_
      (.checks a.checks.lane a.checks.number a.checks.username a.checks.state)
    exact h.change (fun k => { k with dispatch := { s.dispatch with
      pending := s.dispatch.pending.erase a.checks.lane
      delivered := s.dispatch.delivered.insert a.checks.lane a.checks.verdict } })
      rfl rfl
  · exact h

/-- Both hold a result back. -/
lemma onChecks (h : Lockstep s t) (c : HeadChecks) : Lockstep (s.onChecks c) (t.onChecks c) := by
  have h' := h.cancel c.lane
  simp only [Service.onChecks, ← h.dispatch, ← h.rules, ← h'.dispatch, ← h'.now]
  split
  · exact h
  · generalize (s.cancel c.lane).dispatch = d
    split
    · refine Lockstep.ring ?_ _
      exact h'.change (fun k => { k with
        dispatch := { d with
          pending := d.pending.insert c.lane d.nextGeneration
          nextGeneration := d.nextGeneration + 1 }
        now := (s.cancel c.lane).now }) rfl rfl
    · exact h'.change (fun k => { k with
        dispatch := { d with
          pending := d.pending.insert c.lane d.nextGeneration
          nextGeneration := d.nextGeneration + 1 }
        alarms := k.alarms ++
          [⟨(s.cancel c.lane).now + s.rules.debounce, d.nextGeneration, c⟩]
        now := (s.cancel c.lane).now }) rfl rfl

/-! ## Runs -/

/-- Whatever is done, both do. -/
theorem kept : KeptByTime (fun _ => True) (Lockstep (σ := σ)) where
  context h := congrArg Rules.context h.rules
  store h := h.store
  registry h := h.registry
  tasks h := h.tasks
  alarms h := h.alarms
  now h := h.now
  withStore h store := h.change (fun k => { k with store }) rfl rfl
  publish h _ he := h.publish he
  record h p _ := h.withRegistry (·.record p)
  forget h p _ := h.withRegistry (·.forget p.key)
  post h p _ report := h.post p.lane p report
  postRecorded h lane _ p _ report := h.post lane p report
  takeTask h i := h.change (fun k => { k with tasks := k.tasks.eraseIdx i }) rfl rfl
  notifyHead h := h.notifyHead
  vacate h := h.vacate
  onChecks h := h.onChecks
  meter h := h.meter
  showSnapshot h := h.showSnapshot
  takeAlarm h i := h.change (fun k => { k with alarms := k.alarms.eraseIdx i }) rfl rfl
  withNow h now := h.change (fun k => { k with now }) rfl rfl
  ring h := h.ring

section Store

variable [Store σ]

/-- Services in step answer a schedule alike and are in step afterwards. -/
theorem enact (h : Lockstep s t) (acts : List (Act σ)) :
    Agree Lockstep (enact acts s) (enact acts t) :=
  kept.enact h fun _ _ => trivial

/-! ## What is to be posted -/

/-- Both are to post the same for a call. -/
lemma call_postings (h : Lockstep s t) (c : Call) : c.postings s = c.postings t := by
  cases c <;> simp only [Call.postings, h.store]

/-- Both are to post the same for a task. -/
lemma postingsAt (h : Lockstep s t) (i : Nat) : s.postingsAt i = t.postingsAt i := by
  have htask : ∀ task : Task, task.postings s = task.postings t := by
    intro task
    unfold Task.postings
    rw [h.store, h.registry]
  unfold Service.postingsAt
  rw [h.tasks]
  cases t.tasks[i]? with
  | none => rfl
  | some task => exact htask task

/-- Both are to post the same for a number of tasks. -/
lemma firstPostings (h : Lockstep s t) (n : Nat) : s.firstPostings n = t.firstPostings n := by
  induction n generalizing s t with
  | zero => rfl
  | succ n ih =>
    have hnext := kept.runAt h 0
    rw [runAt_zero, runAt_zero] at hnext
    rw [Service.firstPostings, Service.firstPostings, h.postingsAt 0, ih hnext]

/-- Both are to post the same for an act. -/
lemma act_postings (h : Lockstep s t) (a : Act σ) : a.postings s = a.postings t := by
  cases a with
  | call c => exact h.call_postings c
  | relabel lane => simp only [Act.postings, h.store, h.registry]
  | task i => exact h.postingsAt i
  | advance ms => simp only [Act.postings, h.tasks, h.firstPostings]
  | drain => simp only [Act.postings, h.tasks, h.firstPostings]
  | check _ | alarm _ | wait _ | outside _ => rfl

/-- Both are to post the same for a schedule. -/
theorem postings (h : Lockstep s t) (acts : List (Act σ)) : postings acts s = postings acts t := by
  induction acts generalizing s t with
  | nil => rfl
  | cons a acts ih =>
    have hnext : Lockstep (s.act a).2 (t.act a).2 := (kept.act h fun _ _ => trivial).2
    rw [Service.postings, Service.postings, h.act_postings a, ih hnext]

end Store

end Lockstep

section Store

variable [Store σ]

/-- Failures of clients reach nothing but the ledger. Two runs of one schedule over one store, whose
clients fail at whichever calls, answer everything alike, have the same core, and so have made the
same calls. The statuses that the schedule is to post are the same for both, each is for the pull
request on record for its lane and number, and in each run they are those that were posted; and the
failures that were published are those of the calls that failed, one for each, with the lane and the
number that the status or the notice was for.

**Proof sketch.** The two services are in step when they are started, and no act takes them out of
it: whatever decides about what is done next belongs to the core. -/
theorem enact_lockstep (rules : Rules) (store : σ) {registry : Registry}
    (hregistry : registry.Keyed) (room : Nat) (c d : Clients) (acts : List (Act σ)) :
    let s : Service σ := { start rules store registry room with clients := c }
    let t : Service σ := { start rules store registry room with clients := d }
    let x := enact acts s
    let y := enact acts t
    let w := postings acts s
    x.1 = y.1 ∧ x.2.core = y.2.core ∧ postings acts t = w ∧
      (∀ p ∈ w, p.pull.key = ⟨p.lane.repo, p.number⟩) ∧
      x.2.ledger.Accounts w ∧ y.2.ledger.Accounts w := by
  intro s t x y w
  have hstart : Lockstep s t := ⟨rfl⟩
  obtain ⟨hreplies, hleft⟩ := hstart.enact acts
  have hsame : postings acts t = w := (hstart.postings acts).symm
  have hnew : ∀ u : Clients,
      Service.Accounted [] { start rules store registry room with clients := u } :=
    fun u => ⟨hregistry, by simp, .empty⟩
  have hx : x.2.Accounted w := (hnew c).enact acts
  have hy : y.2.Accounted w := hsame ▸ (hnew d).enact acts
  exact ⟨hreplies, hleft.core, hsame, hx.named, hx.accounts, hy.accounts⟩

end Store

/-- The status service fails at its first call, and nobody can be notified. -/
def failingClients : Clients :=
  ⟨fun n => if n = 0 then some (.unavailable "down") else none,
    fun _ => some (.rejected "moved"), fun _ => none⟩

/-- A pull request is opened and closed, and the tasks run after that. -/
def closingSchedule : List (Act Memory) :=
  [.call (.opened (samplePull 1 "one") Time.Timestamp.epoch), .advance 0,
    .call (.closed (samplePull 1 "one") .dropped), .advance 0]

/-- Two statuses are posted and one notice is sent, whether or not clients fail. If they do, it is
published that the first status was not posted and the notice not sent. -/
theorem enact_lockstep_closing : Registry.volatile.Keyed ∧
    let x := enact closingSchedule
      { start ⟨"merge-turn", 0⟩ Memory.volatile Registry.volatile 0 with clients := failingClients }
    let y := enact closingSchedule
      { start ⟨"merge-turn", 0⟩ Memory.volatile Registry.volatile 0 with clients := .willing }
    x.1 = y.1 ∧ x.2.core = y.2.core ∧ x.2.core.posts.length = 2 ∧ x.2.core.notices.length = 1 ∧
      x.2.ledger.failures .statusReport =
        [⟨.statusReport, (samplePull 1 "one").lane, ⟨1⟩, "service unavailable: down"⟩] ∧
      x.2.ledger.failures .notification =
        [⟨.notification, (samplePull 1 "one").lane, ⟨1⟩, "request rejected: moved"⟩] ∧
      y.2.ledger.failures .statusReport = [] ∧ y.2.ledger.failures .notification = [] := by
  have hkeyed : Registry.volatile.Keyed := Registry.keyed_of_entries_empty rfl
  obtain ⟨hreplies, hcore, -⟩ := enact_lockstep ⟨"merge-turn", 0⟩ Memory.volatile hkeyed 0
    failingClients .willing closingSchedule
  refine ⟨hkeyed, hreplies, hcore, ?_⟩
  decide +kernel

end Service

end MergeTurn
