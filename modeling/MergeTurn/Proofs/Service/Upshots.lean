import MergeTurn.Proofs.Service.Abreast
import MergeTurn.Proofs.Service.Turns

set_option autoImplicit false

/-!
# What comes of things

Whatever happens to a service happens for one repository: a call or a status that somebody posts is
about one, and so is every task and every alarm. What comes of it is the answer, and what is posted
and sent meanwhile. All that is posted and sent in a run comes of something that concerns the
repository that it is for, and the shares of other repositories stay as they are.

## Main definitions

* `MergeTurn.Upshot`, `MergeTurn.Service.upshot` — what came of one thing.
* `MergeTurn.Service.Deed`, `deed`, `afterDeeds` — what happens to a service, and what it is then.
* `MergeTurn.Service.upshots`, `chronicle` — what comes of it, one thing after the other.
* `MergeTurn.Service.Told` — all that was posted and sent came of something.
* `MergeTurn.Service.Stirs` — one thing happens that concerns a repository.

## Main results

* `MergeTurn.Service.Stirs.share_of_ne` — the share of another repository stays as it is.
* `MergeTurn.Service.Stirs.told` — what is posted and sent is for the repository.

## Design

A report names a page and not a repository. So whose it is is told by what it was posted for, and
`Told` says that this is right: the page is that of a pull request of the same repository.
-/

namespace MergeTurn

/-! ## What comes of it -/

/-- What came of one thing that happened to the service: which repository it concerned, when it
happened, the answer, and what was posted and sent meanwhile. -/
structure Upshot where
  repo : Repo
  time : Nat
  reply : Service.Reply
  reports : List (Attempt (StatusTarget × StatusReport))
  notices : List (Attempt Notice)
deriving DecidableEq

namespace Service

section Upshots

variable {σ : Type}

/-- What came of something that concerned a repository, from the state before and the one after. -/
def upshot (q : Repo) (reply : Reply) (s t : Service σ) : Upshot :=
  let entered := t.ledger.since s.ledger
  ⟨q, t.now, reply, entered.reports, entered.notices⟩

variable [Store σ]

/-- What comes of a number of tasks. -/
def taskUpshots : Nat → Service σ → List Upshot
  | 0, _ => []
  | n + 1, s =>
    match s.tasks with
    | [] => []
    | task :: _ => upshot task.repo .nothing s s.runNext :: taskUpshots n s.runNext

/-- What comes of alarms that ring in order up to a time, at most of a number of them. -/
def alarmUpshots (time : Nat) : Nat → Service σ → List Upshot
  | 0, _ => []
  | n + 1, s =>
    match s.alarms with
    | [] => []
    | a :: _ =>
      if a.due ≤ time then
        upshot a.checks.lane.repo .nothing s s.ringNext :: alarmUpshots time n s.ringNext
      else []

/-- What comes of the first task comes first. -/
lemma taskUpshots_cons {s : Service σ} {task : Task} {rest : List Task}
    (h : s.tasks = task :: rest) (n : Nat) :
    s.taskUpshots (n + 1) =
      [upshot task.repo .nothing s s.runNext] ++ s.runNext.taskUpshots n := by
  simp only [taskUpshots, h, List.singleton_append]

/-- What comes of the first alarm comes first, if it is due. -/
lemma alarmUpshots_cons {s : Service σ} {a : Alarm} {rest : List Alarm} {time : Nat}
    (h : s.alarms = a :: rest) (hdue : a.due ≤ time) (n : Nat) :
    s.ringUntil time (n + 1) = s.ringNext.ringUntil time n ∧
      s.alarmUpshots time (n + 1) =
        [upshot a.checks.lane.repo .nothing s s.ringNext] ++ s.ringNext.alarmUpshots time n := by
  simp [ringUntil, alarmUpshots, h, hdue]

/-- Nothing comes of alarms that are not due. -/
lemma alarmUpshots_late {s : Service σ} {time : Nat} (h : ∀ a ∈ s.alarms, ¬ a.due ≤ time)
    (n : Nat) : s.ringUntil time n = s ∧ s.alarmUpshots time n = [] := by
  cases n with
  | zero => exact ⟨rfl, rfl⟩
  | succ n =>
    unfold ringUntil alarmUpshots
    cases hs : s.alarms with
    | nil => exact ⟨rfl, rfl⟩
    | cons a rest =>
      have hdue := h a (by simp [hs])
      exact ⟨if_neg hdue, if_neg hdue⟩

/-- What happens to the service: somebody calls it or posts a status, it does all its tasks, or time
passes. -/
inductive Deed where
  | call (c : Call)
  | check (change : CheckChange)
  | settle
  | advance (ms : Nat)

/-- The service after something has happened. -/
def deed : Deed → Service σ → Service σ
  | .call c, s => (s.act (.call c)).2
  | .check change, s => (s.act (.check change)).2
  | .settle, s => s.settle
  | .advance ms, s => s.advance ms

/-- What comes of it. -/
def upshots : Deed → Service σ → List Upshot
  | .call c, s => [upshot c.lane.repo (s.act (.call c)).1 s (s.act (.call c)).2]
  | .check change, s => [upshot change.repo (s.act (.check change)).1 s (s.act (.check change)).2]
  | .settle, s => s.taskUpshots s.tasks.length
  | .advance ms, s =>
    s.taskUpshots s.tasks.length ++
      s.settle.alarmUpshots (s.settle.now + ms) s.settle.alarms.length

/-- The service after many things have happened. -/
def afterDeeds (deeds : List Deed) (s : Service σ) : Service σ :=
  deeds.foldl (fun s x => s.deed x) s

/-- What comes of them. -/
def chronicle : List Deed → Service σ → List Upshot
  | [], _ => []
  | x :: deeds, s => s.upshots x ++ chronicle deeds (s.deed x)

/-- Calls concern the repository that they are about, and so do statuses. Everything else concerns
all repositories. -/
def Deed.Concerns (r : Repo) : Deed → Prop
  | .call c => c.lane.repo = r
  | .check change => change.repo = r
  | _ => True

instance (r : Repo) : DecidablePred (Deed.Concerns r)
  | .call c => inferInstanceAs (Decidable (c.lane.repo = r))
  | .check change => inferInstanceAs (Decidable (change.repo = r))
  | .settle | .advance _ => isTrue trivial

/-- A call is about a repository without colons. -/
def Deed.Colonless : Deed → Prop
  | .call c => c.lane.repo.Colonless
  | _ => True

instance : DecidablePred Deed.Colonless
  | .call c => inferInstanceAs (Decidable c.lane.repo.Colonless)
  | .check _ | .settle | .advance _ => isTrue trivial

/-- What a call says about a pull request, if it comes from a webhook. -/
def Deed.pull? : Deed → Option Pull
  | .call c => c.pull?
  | _ => none

/-- All that was posted and sent came of something. What was posted is for pull requests of a kind,
all of the repository that this concerned, and what was sent is about lanes of it. -/
structure Told (K : Pull → Prop) (us : List Upshot) (s t : Service σ) : Prop where
  reports : t.ledger.reports = s.ledger.reports ++ us.flatMap (·.reports)
  notices : t.ledger.notices = s.ledger.notices ++ us.flatMap (·.notices)
  targets : ∀ u ∈ us, ∀ a ∈ u.reports, ∃ p, p.repo = u.repo ∧ K p ∧ a.call.1 = p.statusTarget
  lanes : ∀ u ∈ us, ∀ a ∈ u.notices, a.call.lane.repo = u.repo

omit [Store σ] in
/-- Nothing is told when nothing happens. -/
lemma Told.nil (K : Pull → Prop) (s : Service σ) : Told K [] s s :=
  ⟨(List.append_nil _).symm, (List.append_nil _).symm, nofun, nofun⟩

omit [Store σ] in
/-- What happens later is told later. -/
lemma Told.append {K : Pull → Prop} {us us' : List Upshot} {s t u : Service σ}
    (h : Told K us s t) (h' : Told K us' t u) : Told K (us ++ us') s u where
  reports := by rw [h'.reports, h.reports, List.flatMap_append, List.append_assoc]
  notices := by rw [h'.notices, h.notices, List.flatMap_append, List.append_assoc]
  targets x hx := (List.mem_append.1 hx).elim (h.targets x) (h'.targets x)
  lanes x hx := (List.mem_append.1 hx).elim (h.lanes x) (h'.lanes x)

end Upshots

variable {K : Pull → Prop} {r q : Repo} {reply : Reply} {s t : Service Memory}

/-! ## One thing after the other -/

/-- One thing happens to the service that concerns a repository, and is answered. Pull requests that
calls tell of are of a kind. -/
inductive Stirs (K : Pull → Prop) (q : Repo) (s : Service Memory) : Reply → Service Memory → Prop
  | call {c : Call} (hcolonless : c.lane.repo.Colonless) (hc : c.lane.repo = q)
    (hK : ∀ p, c.pull? = some p → K p) : Stirs K q s (s.act (.call c)).1 (s.act (.call c)).2
  | check {change : CheckChange} (hchange : change.repo = q) :
    Stirs K q s (s.act (.check change)).1 (s.act (.check change)).2
  | task {task : Task} {rest : List Task} (htasks : s.tasks = task :: rest)
    (htask : task.repo = q) : Stirs K q s .nothing s.runNext
  | alarm {a : Alarm} {rest : List Alarm} (hidle : s.tasks = []) (halarms : s.alarms = a :: rest)
    (ha : a.checks.lane.repo = q) : Stirs K q s .nothing s.ringNext

/-- A status that somebody posts does nothing, or a result is published for its repository. -/
lemma checkChanged_publishes (change : CheckChange) (s : Service Memory) :
    (s.checkChanged change).2 = s ∨
      ∃ c, c.lane.repo = change.repo ∧ (s.checkChanged change).2 = s.publish (.checks c) := by
  unfold checkChanged
  split
  · exact .inl rfl
  · cases hp : s.registry.findByHead? change.repo change.commit with
    | none => exact .inl rfl
    | some p =>
      have hrepo : p.lane.repo = change.repo := Registry.repo_of_findByHead? hp
      obtain ⟨answer, hread⟩ : ∃ answer, s.atDesk (Desk.head p.lane) = (answer, s) :=
        atDesk_read _ _ s
      simp only [hread]
      rcases answer with _ | (_ | b)
      · exact .inl rfl
      · exact .inl rfl
      · dsimp only
        split_ifs
        · exact .inl rfl
        · exact .inr ⟨_, hrepo, rfl⟩
        · exact .inl rfl

/-- Pull requests on record stay of a kind. -/
lemma upheld_only (K : Pull → Prop) : Upheld K fun s : Service Memory => s.registry.Only K :=
  .of_registry (fun h _ hp => h.record hp) fun h p _ => h.forget p.key

/-- What is on record of a repository stays so if nothing is recorded or forgotten of it. -/
lemma upheld_records (r : Repo) (records : PullNumber → Option Pull) :
    Upheld (fun p => p.repo ≠ r) fun s : Service Memory =>
      ∀ n, s.registry.get? ⟨r, n⟩ = records n := by
  have hkey : ∀ {p : Pull}, p.repo ≠ r → ∀ n, (⟨r, n⟩ : PullKey) ≠ p.key :=
    fun hp n hkey => hp (congrArg PullKey.repo hkey).symm
  refine .of_registry (P := fun registry => ∀ n, registry.get? ⟨r, n⟩ = records n)
    (fun h p hp n => ?_) fun h p hp n => ?_
  · exact (Registry.get?_record ..).trans ((if_neg (hkey hp n)).trans (h n))
  · exact (Registry.get?_forget ..).trans ((if_neg (hkey hp n)).trans (h n))

/-- With no task left, an alarm changes nothing but what people are told. -/
lemma alike_ringNext (hidle : s.tasks = []) : Alike s s.ringNext := by
  unfold ringNext
  cases s.alarms with
  | nil => exact .refl s
  | cons a rest =>
    obtain ⟨pending, delivered, notices, failures, hwrites, -⟩ :=
      ring_writes { s with alarms := rest, now := a.due } a
    dsimp only
    rw [settle_of_idle (by rw [hwrites]; exact hidle), hwrites]
    exact ⟨rfl, rfl, rfl, rfl, rfl⟩

/-- An alarm leaves the rules as they are. -/
lemma rules_ringNext (s : Service Memory) : s.ringNext.rules = s.rules :=
  ((upheld_settings (K := fun _ => True) s.rules s.clients).keptByTime.ringNext
    ⟨rfl, rfl, rfl⟩).2.1

/-- A task takes no time. -/
lemma Smooth.now_runNext (h : Smooth K s) : s.runNext.now = s.now := by
  obtain ⟨d, hd⟩ := h.tallied
  have hnow : (s.runAt 0).now = s.now := (hd.beat (x := .task 0) (by simp)).now
  rwa [runAt_zero] at hnow


namespace Stirs

variable (h : Stirs K q s reply t)
include h

/-- What is kept by all that is done for such pull requests of the repository is kept. -/
lemma upheld {K' : Pull → Prop} (hK' : ∀ p : Pull, p.repo = q → K p → K' p)
    {P : Service Memory → Prop} (hP : Upheld K' P) (hs : P s) : P t := by
  have hkept := hP.keptByTime
  cases h with
  | @call c hcolonless hc hK =>
    exact hP.perform hs fun p hp =>
      hK' p ((congrArg Lane.repo (Call.of_pull? hp).2).symm.trans hc) (hK p hp)
  | check => exact hP.checkChanged hs _
  | task => exact (runAt_zero s ▸ hkept.runAt ⟨rfl, hs⟩ 0).2
  | alarm => exact (hkept.ringNext ⟨rfl, hs⟩).2

/-- The service goes on smoothly. -/
lemma smooth (hs : Smooth K s) : Smooth K t := by
  have hclients : t.clients = s.clients :=
    (h.upheld (fun _ _ hp => hp) (upheld_settings s.rules s.clients) ⟨rfl, rfl⟩).2
  refine ⟨hclients ▸ hs.status, hclients ▸ hs.notice,
    h.upheld (fun _ _ hp => hp) (upheld_only K) hs.records, ?_⟩
  obtain ⟨d, hd⟩ := hs.tallied
  cases h with
  | @call c => exact ⟨_, (hd.beat (x := .call c) (by simp)).tallied⟩
  | @check change => exact ⟨_, (hd.beat (x := .check change) (by simp)).tallied⟩
  | task => exact runAt_zero s ▸ ⟨_, (hd.beat (x := .task 0) (by simp)).tallied⟩
  | alarm hidle => exact (Quiet.ringNext ⟨hidle, hs.notice, d, hd⟩).1.tallied

/-- Only people of the repository are told anything. -/
lemma moves (hs : Smooth K s) : s.messenger.Moves q t.messenger := by
  have hunmoved := upheld_unmoved s
  cases h with
  | @call c => exact (hunmoved.perform (.refl s) fun _ _ => trivial).messenger_eq ▸ .still
  | @check change => exact (hunmoved.checkChanged (.refl s) change).messenger_eq ▸ .still
  | @task task rest htasks htask =>
    rw [runNext, htasks]
    exact htask ▸ (hs.withTasks rest).moves_handle task
  | @alarm a rest hidle halarms ha =>
    rw [(Quiet.ringNext ⟨hidle, hs.notice, hs.tallied⟩).2.1]
    exact .ring (waiting_cons halarms) ha

/-- The store changes only by a request about a lane of the repository. -/
lemma store : t.store = s.store ∨ ∃ x : Desk.Request, x.lane.repo.Colonless ∧ x.lane.repo = q ∧
    t.store = (Desk.serve x s.store).store := by
  cases h with
  | @call c hcolonless hc =>
    have hstore : (s.act (.call c)).2.store = c.onStore s.store := s.store_perform c
    unfold Call.onStore at hstore
    cases hx : c.request? with
    | none =>
      rw [hx] at hstore
      exact .inl hstore
    | some x =>
      rw [hx] at hstore
      have hlane := Call.lane_of_request? hx
      exact .inr ⟨x, hlane ▸ hcolonless, (congrArg Lane.repo hlane).trans hc, hstore⟩
  | @check change => exact .inl (s.store_checkChanged change)
  | task => exact .inl (runAt_zero s ▸ s.store_runAt 0)
  | alarm => exact .inl s.store_ringNext

/-- The first task is done, if it is one of the repository, or there are more of these. -/
lemma tasks (hs : Smooth K s) : (∃ task, s.tasks = task :: t.tasks ∧ task.repo = q) ∨
    ∃ new, t.tasks = s.tasks ++ new ∧ ∀ task ∈ new, task.repo = q := by
  have hnone : ∀ {u : Service Memory}, u.tasks = s.tasks →
      ∃ new, u.tasks = s.tasks ++ new ∧ ∀ task ∈ new, task.repo = q :=
    fun htasks => ⟨[], htasks.trans (List.append_nil _).symm, nofun⟩
  cases h with
  | @call c hcolonless hc =>
    rcases perform_tells hcolonless s with ⟨-, htasks⟩ | ⟨e, he, -, -, htasks⟩
    · exact .inr (hnone htasks)
    · refine .inr ⟨_, htasks, fun task htask => ?_⟩
      obtain ⟨handler, -, rfl⟩ := List.mem_map.1 htask
      exact (congrArg Lane.repo he).trans hc
  | @check change hchange =>
    rcases checkChanged_publishes change s with hsame | ⟨c, hc, hpublish⟩
    · exact .inr (hnone (congrArg (fun u : Service Memory => u.tasks) hsame))
    · refine .inr ⟨_, congrArg (fun u : Service Memory => u.tasks) hpublish, fun task htask => ?_⟩
      obtain ⟨handler, -, rfl⟩ := List.mem_map.1 htask
      exact hc.trans hchange
  | task htasks htask => exact .inl ⟨_, (settle_of_tasks htasks).1 ▸ htasks, htask⟩
  | alarm hidle =>
    exact .inr (hnone ((Quiet.ringNext ⟨hidle, hs.notice, hs.tallied⟩).1.idle.trans hidle.symm))

/-- The share of another repository stays as it is. -/
theorem share_of_ne (hr : r.Colonless) (hs : Smooth K s) (hne : q ≠ r) :
    t.share r = s.share r := by
  have hrules : t.rules = s.rules :=
    (h.upheld (fun _ _ hp => hp) (upheld_settings s.rules s.clients) ⟨rfl, rfl⟩).1
  have hothers : ∀ p : Pull, p.repo = q → K p → p.repo ≠ r := fun p hp _ => hp ▸ hne
  have hrecords := h.upheld hothers
    (upheld_records r fun n => s.registry.get? ⟨r, n⟩) fun _ => rfl
  have hstore : t.store.refusal? = s.store.refusal? ∧
      t.store.books.AlikeFor r s.store.books := by
    rcases h.store with hstore | ⟨x, hcolonless, hx, hstore⟩
    · rw [hstore]
      exact ⟨rfl, ⟨fun _ => rfl, fun _ => rfl⟩⟩
    · rw [hstore]
      exact ⟨(Desk.serve_frame s.store x).1,
        Desk.serve_alike_of_ne hcolonless hr (hx ▸ hne) s.store⟩
  have htasks : t.tasks.filter (·.repo = r) = s.tasks.filter (·.repo = r) := by
    rcases h.tasks hs with ⟨task, htasks, htask⟩ | ⟨new, htasks, hnew⟩
    · simp [htasks, show task.repo ≠ r from htask ▸ hne]
    · have hnone : new.filter (·.repo = r) = [] :=
        List.filter_eq_nil_iff.2 fun task htask => by simp [hnew task htask, hne]
      rw [htasks, List.filter_append, hnone, List.append_nil]
  exact Share.ext hrules hstore.1 (funext hstore.2.list) (funext hstore.2.member)
    (funext hrecords) htasks ((h.moves hs).only_of_ne hne)

/-- What is posted meanwhile is posted for such pull requests of the repository. -/
lemma posts (hs : Smooth K s) : ∃ w, t.ledger.reports = s.ledger.reports ++ w ∧
    ∀ a ∈ w, ∃ p, (p.repo = q ∧ K p) ∧ a.call.1 = p.statusTarget := by
  have habreast := hs.abreast hs (rfl : s.share q = s.share q)
  cases h with
  | call hcolonless hc hK =>
    have hperform := habreast.perform hc fun p hp =>
      ⟨(congrArg Lane.repo (Call.of_pull? hp).2).symm.trans hc, hK p hp⟩
    obtain ⟨w, hw, -, hof⟩ := hperform.2.reports
    exact ⟨w, hw, hof⟩
  | check hchange =>
    obtain ⟨w, hw, -, hof⟩ := (habreast.checkChanged hs.keyed hs.keyed hchange).2.reports
    exact ⟨w, hw, hof⟩
  | task htasks htask =>
    obtain ⟨w, hw, -, hof⟩ := (habreast.runNext hs hs rfl htasks htasks htask).reports
    exact ⟨w, hw, hof⟩
  | alarm hidle =>
    exact ⟨[], (alike_ringNext hidle).reports.trans (List.append_nil _).symm, nofun⟩

/-- What comes of it is told. -/
lemma told (hs : Smooth K s) : Told K [upshot q reply s t] s t := by
  obtain ⟨w, hw, hof⟩ := h.posts hs
  obtain ⟨w', hsent, hlanes⟩ := (h.moves hs).sent
  have hnotices : t.ledger.notices = s.ledger.notices ++ w' := hsent
  refine ⟨?_, ?_, fun u hu a ha => ?_, fun u hu => ?_⟩
  · simp [upshot, Ledger.since, hw]
  · simp [upshot, Ledger.since, hnotices]
  · rw [List.mem_singleton.1 hu] at ha ⊢
    obtain ⟨p, hp, htarget⟩ := hof a (by simpa [upshot, Ledger.since, hw] using ha)
    exact ⟨p, hp.1, hp.2, htarget⟩
  · rw [List.mem_singleton.1 hu]
    simpa [upshot, Ledger.since, hnotices] using hlanes

end Stirs

end Service

end MergeTurn
