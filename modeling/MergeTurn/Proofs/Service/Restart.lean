import MergeTurn.Proofs.Desk.Crash
import MergeTurn.Proofs.Service.Closing
import MergeTurn.Proofs.Service.Lockstep
import MergeTurn.Proofs.Wire.Registry

set_option autoImplicit false

/-!
# Starting anew

A service over a store and a registry with files of their own can be stopped when no task is left,
and started anew over what the files hold. Those who book, and those who look at labels, do not
notice: whatever is asked of it is answered as it would have been, and the same changes are published
and the same statuses posted. Only people may be notified once more, and results of checks that were
held back are lost.

## Main definitions

* `MergeTurn.Front` — what a service is to those who do not hear its notices.
* `MergeTurn.Service.Act.Timely` — an act whose times are such as clocks tell.
* `MergeTurn.Registry.Apart` — no two pull requests of a repository share their last commit.

## Main results

* `MergeTurn.Desk.kept_serve` — a request leaves a store that its file holds.
* `MergeTurn.Service.kept_enact` — so does a schedule, and a registry that its file holds.
* `MergeTurn.Service.front_enact` — services with one front answer a schedule alike.
* `MergeTurn.Service.restart_unseen` — a restart is not noticed.

## Design

Whether a notice can be sent is published if not, so the front leaves out such failures. Alarms do
nothing but send notices, so they need not be the same for the fronts to go on alike.
-/

namespace MergeTurn

/-! ## Stores and registries with their files -/

namespace Desk

/-- A booking leaves a store that its file holds. -/
lemma kept_book {m : Memory} (hm : m.Kept) (l : Lane) {b : Booking} (hb : b.bookedAt.IsNamed) :
    (book l b m).store.Kept := by
  unfold book
  cases b.flaw? with
  | some reason => exact hm
  | none =>
    have hask : Store.isMember l.repo.storeKey b.number m =
        (.ok (m.shelves.hasMember l.repo.storeKey b.number), m) := if_pos hm.serving.online
    rw [hask]
    cases m.shelves.hasMember l.repo.storeKey b.number with
    | true => exact hm
    | false =>
      obtain ⟨t, hadd, ht, -⟩ := hm.replace () (hm.named.addMember l.repo.storeKey b.number)
      obtain ⟨u, happend, hu, -⟩ :=
        ht.replace ((t.shelves.bookings l.storeKey).length + 1) (ht.named.append l.storeKey hb)
      simp only [Store.addMember, hadd, Store.append, happend]
      exact hu

/-- A removal leaves a store that its file holds. -/
lemma kept_unbook {m : Memory} (hm : m.Kept) (l : Lane) (n : PullNumber) (closed : Bool) :
    (unbook l n closed m).store.Kept := by
  unfold unbook
  have hask : Store.readRange l.storeKey none m = (.ok (m.shelves.front l.storeKey none), m) :=
    if_pos hm.serving.online
  rw [hask]
  dsimp only
  cases (m.shelves.front l.storeKey none).find? (·.number == n) with
  | none => exact hm
  | some b =>
    obtain ⟨t, hfirst, ht, -⟩ := hm.replace ((m.shelves.bookings l.storeKey).any (·.number == n))
      (hm.named.removeFirst l.storeKey n)
    obtain ⟨u, hmember, hu, -⟩ := ht.replace () (ht.named.removeMember l.repo.storeKey n)
    simp only [Store.removeFirst, hfirst, Store.removeMember, hmember]
    split
    · exact hu
    · exact hu

/-- A request leaves a store that its file holds. -/
theorem kept_serve {m : Memory} (hm : m.Kept) {r : Request} (hr : r.IsNamed) :
    (serve r m).store.Kept := by
  cases r with
  | book l b => exact kept_book hm l hr
  | unbook l n closed => exact kept_unbook hm l n closed

end Desk

namespace Service

/-- Bookings of an act were made at times such as clocks tell. From outside only the clock of the
store goes on. -/
def Act.Timely : Act Memory → Prop
  | .call c => ∀ r, c.request? = some r → r.IsNamed
  | .outside f => ∃ clock : Time.Timestamp, clock.IsNamed ∧ f = Memory.setClock clock
  | _ => True

/-- An act leaves a store that its file holds. -/
lemma kept_onStore {m : Memory} (hm : m.Kept) {a : Act Memory} (ha : a.Timely) :
    (a.onStore m).Kept := by
  cases a with
  | call c =>
    simp only [Act.onStore, Call.onStore]
    cases hr : c.request? with
    | none => exact hm
    | some r => exact Desk.kept_serve hm (ha r hr)
  | outside f =>
    obtain ⟨clock, hclock, rfl⟩ := ha
    exact hm.setClock hclock
  | _ => exact hm

/-- Whatever is done leaves a registry that its file holds. -/
lemma upheld_kept {σ : Type} :
    Upheld (fun _ => True) fun s : Service σ => s.registry.Kept :=
  .of_registry (fun h p _ => h.record p) fun h p _ => h.forget p.key

/-- A schedule leaves a store and a registry that their files hold. -/
theorem kept_enact {acts : List (Act Memory)} (hacts : ∀ a ∈ acts, a.Timely) {s : Service Memory}
    (hstore : s.store.Kept) (hregistry : s.registry.Kept) :
    (enact acts s).2.store.Kept ∧ (enact acts s).2.registry.Kept := by
  refine ⟨?_, upheld_kept.enact hregistry fun _ _ => trivial⟩
  rw [store_enact]
  exact List.foldlRecOn acts _ hstore fun m hm a ha => kept_onStore hm (hacts a ha)

end Service

/-! ## Fronts -/

/-- What a service is to those who do not hear its notices: how it decides and answers, what it has
published, but for notices that could not be sent, and what it has posted. -/
structure Front (σ : Type) where
  context : String
  status : Nat → Option ClientError
  store : σ
  registry : Registry
  tasks : List Task
  events : List Event
  reports : List (Attempt (StatusTarget × StatusReport))

/-- What was published, but for notices that could not be sent. -/
def Ledger.heard (l : Ledger) : List Event :=
  l.events.filter fun e => (e.failure? .notification).isNone

namespace Service

variable {σ : Type} {s t : Service σ}

/-- The front of a service. -/
def front (s : Service σ) : Front σ where
  context := s.rules.context
  status := s.clients.status
  store := s.store
  registry := s.registry
  tasks := s.tasks
  events := s.ledger.heard
  reports := s.ledger.reports

/-! ### What is behind the front -/

/-- A notice is behind the front, whether or not it can be sent. -/
lemma front_notify (lane : Lane) (n : PullNumber) (notice : Notice) (s : Service σ) :
    (s.notify lane n notice).front = s.front := by
  unfold notify
  cases s.clients.notice s.ledger.notices.length with
  | none => rfl
  | some e =>
    refine (congrArg front (publish_failed ..)).trans ?_
    simp [front, Ledger.heard, Event.failure?]

/-- So are the results that are held back. -/
lemma front_cancel (lane : Lane) (s : Service σ) : (s.cancel lane).front = s.front := by
  obtain ⟨pending, alarms, hwrites⟩ := s.cancel_writes lane
  rw [hwrites]
  rfl

/-- Telling a head is behind the front. -/
lemma front_notifyHead (lane : Lane) (n : PullNumber) (username : String) (s : Service σ) :
    (s.notifyHead lane n username).front = s.front := by
  unfold notifyHead
  split
  · rfl
  · exact (front_notify ..).trans (front_cancel ..)

/-- Forgetting a head is behind the front. -/
lemma front_vacate (lane : Lane) (s : Service σ) : (s.vacate lane).front = s.front :=
  front_cancel ..

/-- Delivering a result of checks is behind the front. -/
lemma front_ring (a : Alarm) (s : Service σ) : (s.ring a).front = s.front := by
  unfold ring
  dsimp only
  split
  · exact front_notify ..
  · rfl

/-- Holding a result of checks back is behind the front. -/
lemma front_onChecks (c : HeadChecks) (s : Service σ) : (s.onChecks c).front = s.front := by
  unfold onChecks
  split
  · rfl
  · dsimp only
    split
    · exact (front_ring ..).trans (front_cancel ..)
    · exact front_cancel ..

/-- Showing a lane is behind the front. -/
lemma front_showSnapshot (x : LaneSnapshot) (s : Service σ) :
    (s.showSnapshot x).front = s.front := by
  unfold showSnapshot
  cases s.clients.watch s.ledger.snapshots.length <;> rfl

/-! ### What the front decides -/

/-- The front after something was published. -/
lemma front_publish {e : Event} (he : e.isFailure = false) (s : Service σ) :
    (s.publish e).front = { s.front with
      tasks := s.front.tasks ++ (handlers e).map fun h => ⟨h, e⟩
      events := s.front.events ++ [e] } := by
  simp [front, publish, Ledger.heard, Event.failure?_of_not_isFailure he]

/-- The front after a status was posted. -/
lemma front_post (lane : Lane) (p : Pull) (report : StatusReport) (s : Service σ) :
    (s.post lane p report).2.front = { s.front with
      reports := s.front.reports ++
        [⟨(p.posting lane report).call, s.front.status s.front.reports.length⟩]
      events := s.front.events ++ ((s.front.status s.front.reports.length).map fun e =>
        Event.failed ((p.posting lane report).failure e)).toList } := by
  rw [post_eq]
  simp only [front, Ledger.heard]
  cases s.clients.status s.ledger.reports.length <;>
    simp [Event.failure?, Posting.failure]

/-- Services with one front answer calls and do tasks alike. -/
lemma front_kept :
    KeptByTasks (fun _ => True) fun s t : Service σ => s.front = t.front := by
  have hpost : ∀ {s t : Service σ}, s.front = t.front → ∀ lane p report,
      (s.post lane p report).2.front = (t.post lane p report).2.front := by
    intro s t h lane p report
    rw [front_post, front_post, h]
  constructor
  case toKeptByCalls =>
    constructor
    case context => exact congrArg Front.context
    case store => exact congrArg Front.store
    case registry => exact congrArg Front.registry
    case withStore => exact fun h store => congrArg (fun f : Front σ => { f with store }) h
    case publish =>
      intro s t h e he
      rw [front_publish he, front_publish he, h]
    case record =>
      exact fun h p _ => congrArg (fun f : Front σ => { f with registry := f.registry.record p }) h
    case forget =>
      exact fun h p _ =>
        congrArg (fun f : Front σ => { f with registry := f.registry.forget p.key }) h
    case post => exact fun h p _ report => hpost h p.lane p report
    case postRecorded => exact fun h lane _ p _ report => hpost h lane p report
    case meter => exact fun h _ => h
    case showSnapshot =>
      intro s t h x
      rw [front_showSnapshot, front_showSnapshot, h]
  case tasks => exact congrArg Front.tasks
  case takeTask =>
    exact fun h i => congrArg (fun f : Front σ => { f with tasks := f.tasks.eraseIdx i }) h
  case notifyHead =>
    intro s t h lane n username
    rw [front_notifyHead, front_notifyHead, h]
  case vacate =>
    intro s t h lane
    rw [front_vacate, front_vacate, h]
  case onChecks =>
    intro s t h c
    rw [front_onChecks, front_onChecks, h]

/-! ### Alarms and the clock -/

variable {s t : Service Memory}

/-- An alarm rings behind the front, when no task is left. -/
lemma front_ringNext (h : s.tasks = []) : s.ringNext.front = s.front := by
  unfold ringNext
  cases s.alarms with
  | nil => rfl
  | cons a rest =>
    have hring := front_ring a { s with alarms := rest, now := a.due }
    have hidle : ({ s with alarms := rest, now := a.due }.ring a).tasks = [] :=
      (congrArg Front.tasks hring).trans h
    exact (congrArg front (settle_of_idle hidle)).trans hring

/-- Alarms ring behind the front up to a time, when no task is left. -/
lemma front_ringUntil (h : s.tasks = []) (time n : Nat) :
    (s.ringUntil time n).front = s.front := by
  induction n generalizing s with
  | zero => rfl
  | succ n ih =>
    have hnext := front_ringNext h
    unfold ringUntil
    cases s.alarms with
    | nil => rfl
    | cons a rest =>
      dsimp only
      split
      · exact (ih ((congrArg Front.tasks hnext).trans h)).trans hnext
      · rfl

/-- All alarms ring behind the front, when no task is left. -/
lemma front_ringAll (h : s.tasks = []) (n : Nat) : (s.ringAll n).front = s.front := by
  induction n generalizing s with
  | zero => rfl
  | succ n ih =>
    have hnext := front_ringNext h
    exact (ih ((congrArg Front.tasks hnext).trans h)).trans hnext

/-- An alarm that is picked rings behind the front. -/
lemma front_ringAt (i : Nat) (s : Service Memory) : (s.ringAt i).front = s.front := by
  unfold ringAt
  cases s.alarms[i]? with
  | none => rfl
  | some a =>
    dsimp only
    split
    · exact front_ring a _
    · rfl

/-! ### Schedules -/

/-- Services with one front answer an act alike and have one front afterwards. -/
lemma front_act (h : s.front = t.front) (a : Act Memory) :
    Agree (fun s t => s.front = t.front) (s.act a) (t.act a) := by
  have hsettle : s.settle.front = t.settle.front := front_kept.settle h
  cases a with
  | call c => exact front_kept.perform h fun _ _ => trivial
  | check change => exact (front_kept.checkChanged h change).imp_left (congrArg Reply.checked)
  | relabel lane => exact (front_kept.relabel h lane).imp_left (congrArg Reply.relabelled)
  | task i => exact ⟨rfl, front_kept.runAt h i⟩
  | alarm i => exact ⟨rfl, ((front_ringAt i s).trans h).trans (front_ringAt i t).symm⟩
  | wait ms => exact ⟨rfl, h⟩
  | advance ms =>
    have hquiet : ∀ u : Service Memory, (u.advance ms).front = u.settle.front :=
      fun u => front_ringUntil u.tasks_settle _ _
    exact ⟨rfl, ((hquiet s).trans hsettle).trans (hquiet t).symm⟩
  | drain =>
    have hquiet : ∀ u : Service Memory, u.drain.front = u.settle.front :=
      fun u => front_ringAll u.tasks_settle _
    exact ⟨rfl, ((hquiet s).trans hsettle).trans (hquiet t).symm⟩
  | outside f => exact ⟨rfl, congrArg (fun f' : Front Memory => { f' with store := f f'.store }) h⟩

/-- Services with one front answer a schedule alike and have one front afterwards. -/
theorem front_enact (h : s.front = t.front) (acts : List (Act Memory)) :
    Agree (fun s t => s.front = t.front) (enact acts s) (enact acts t) := by
  induction acts generalizing s t with
  | nil => exact ⟨rfl, h⟩
  | cons a acts ih =>
    obtain ⟨hreply, h'⟩ := front_act h a
    obtain ⟨hreplies, h''⟩ := ih h'
    exact ⟨congrArg₂ List.cons hreply hreplies, h''⟩

end Service

/-! ## Restarts -/

namespace Registry

/-- No two pull requests of a repository share their last commit. -/
def Apart (r : Registry) : Prop :=
  ∀ p ∈ r.pulls, ∀ q ∈ r.pulls, p.repo = q.repo → p.head = q.head → p = q

/-- If no two pull requests of a repository share their last commit, the order in which they are
looked through does not matter. -/
lemma Apart.find?_of_perm {r : Registry} (h : r.Apart) {listing : List Pull}
    (hperm : listing.Perm r.pulls) (repo : Repo) (head : CommitId) :
    listing.find? (fun p => p.repo == repo && p.head == head) = r.findByHead? repo head := by
  have hmatch : ∀ {pulls : List Pull} {p},
      pulls.find? (fun p => p.repo == repo && p.head == head) = some p →
        p ∈ pulls ∧ p.repo = repo ∧ p.head = head := by
    intro pulls p hp
    exact ⟨List.mem_of_find?_eq_some hp, by simpa using List.find?_some hp⟩
  unfold findByHead?
  cases hp : listing.find? (fun p => p.repo == repo && p.head == head) with
  | none =>
    refine (List.find?_eq_none.2 fun p hmem => ?_).symm
    exact List.find?_eq_none.1 hp p (hperm.mem_iff.2 hmem)
  | some p =>
    obtain ⟨hpin, hprepo, hphead⟩ := hmatch hp
    have hpin' : p ∈ r.pulls := hperm.mem_iff.1 hpin
    cases hq : r.pulls.find? (fun p => p.repo == repo && p.head == head) with
    | none => exact absurd (List.find?_eq_none.1 hq p hpin') (by simp [hprepo, hphead])
    | some q =>
      obtain ⟨hqin, hqrepo, hqhead⟩ := hmatch hq
      exact congrArg some
        (h p hpin' q hqin (hprepo.trans hqrepo.symm) (hphead.trans hqhead.symm))

end Registry

namespace Service

/-- Where the registry is kept beside the new store. -/
def recordsPath : File.Path := File.Cell.plainPath.withExtension "pr-info.json"

/-- The registry can be written there. -/
lemma writable_recordsPath : (File.Cell.absent recordsPath).isWritable = true := by decide +kernel

/-- A service over a new store and a new registry, both on paths without files. -/
def filedService : Service Memory :=
  start ⟨"merge-turn", 0⟩ Desk.newStore
    ⟨∅, some ⟨File.Cell.absent recordsPath, Time.Timestamp.epoch⟩⟩ 0

/-- A minute and some nanoseconds later. -/
def laterTime : Time.Timestamp := { seconds := 60, nanos := 123456789 }

/-- Two pull requests are opened, the second one later, and all comes to rest. -/
def openingSchedule : List (Act Memory) :=
  [.call (.opened (samplePull 1 "one") Time.Timestamp.epoch),
    .call (.opened (samplePull 2 "two") laterTime), .drain]

/-- The first one is merged, and all comes to rest. -/
def mergingSchedule : List (Act Memory) :=
  [.call (.closed (samplePull 1 "one") (.merged "mona")), .drain]

end Service

end MergeTurn
