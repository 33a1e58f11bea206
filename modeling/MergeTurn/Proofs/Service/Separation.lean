import MergeTurn.Proofs.Service.Restart
import MergeTurn.Proofs.Service.Upshots

set_option autoImplicit false

/-!
# Repositories do not interfere

A run of the service is compared with what is left of it when everything that concerns other
repositories is deleted. The second service follows the first one: whenever something happens to the
first that concerns the repository, the same happens to the second, with the same answer, the same
reports and the same notices at the same time. While something else happens to the first the second
stands still. Time passes for both, but for an alarm of another repository the second does not wake
up.

## Main definitions

* `MergeTurn.Service.Follows` — a service has to do with one repository only, and has the same share
  of it as another service.
* `MergeTurn.Service.KeepsUp` — two services have gone on, one still follows the other, and the same
  came of it for the repository.

## Main results

* `MergeTurn.Service.Follows.along`, `Follows.aside` — one thing happens to both, or to the first
  one.
* `MergeTurn.Service.Follows.settle`, `Follows.ringUntil` — tasks and alarms, one after the other.
* `MergeTurn.Service.Follows.afterDeeds` — runs.
* `MergeTurn.Service.repositories_do_not_interfere` — what this means for repositories.

## Design

While alarms ring the clock of the first service may be ahead of that of the second. So the times
are compared after each step that both take, and not kept in between.
-/

namespace MergeTurn.Service

variable {K : Pull → Prop} {r q : Repo} {reply reply' : Reply} {s t s' t' : Service Memory}

/-! ## Time -/

/-- The service goes on smoothly while time passes. -/
lemma Smooth.advance (h : Smooth K s) (ms : Nat) : Smooth K (s.advance ms) := by
  have hclients := ((upheld_settings (K := K) s.rules s.clients).keptByTime.advance
    ⟨rfl, rfl, rfl⟩ ms).2.2
  obtain ⟨d, hd⟩ := h.tallied
  obtain ⟨beats, hbeats⟩ := advance_eq_beats hd ms
  refine ⟨hclients ▸ h.status, hclients ▸ h.notice,
    ((upheld_only K).keptByTime.advance ⟨rfl, h.records⟩ ms).2, ?_⟩
  rw [← hbeats [], journal_snd]
  exact hd.afterBeats beats

/-- No task takes time. -/
lemma Smooth.now_settle (h : Smooth K s) : s.settle.now = s.now := by
  generalize htasks : s.tasks = tasks
  induction tasks generalizing s with
  | nil => rw [settle_of_idle htasks]
  | cons task rest ih =>
    obtain ⟨hrest, hsettle⟩ := settle_of_tasks htasks
    have hstirs : Stirs K task.repo s .nothing s.runNext := .task htasks rfl
    rw [hsettle, ih (hstirs.smooth h) hrest, h.now_runNext]

/-- How long something takes. -/
def Deed.duration : Deed → Nat
  | .advance ms => ms
  | _ => 0

/-- The time after something has happened. -/
lemma Smooth.now_deed (h : Smooth K s) (x : Deed) : (s.deed x).now = s.now + x.duration := by
  cases x with
  | call c => exact ((upheld_unmoved s).perform (.refl s) fun _ _ => trivial).now
  | check change => exact ((upheld_unmoved s).checkChanged (.refl s) change).now
  | settle => exact h.now_settle
  | advance ms => exact congrArg (· + ms) h.now_settle

/-! ## Following a service with one of its repositories -/

/-- A service has to do with one repository only, and has the same share of it as another one. -/
structure Follows (K : Pull → Prop) (r : Repo) (s t : Service Memory) : Prop where
  smooth : Smooth K s
  smooth' : Smooth K t
  share : s.share r = t.share r
  tasks : ∀ task ∈ t.tasks, task.repo = r
  messenger : t.messenger.only r = t.messenger

namespace Follows

variable (h : Follows K r s t)
include h

/-- The service that follows does nothing while the other one does what concerns another
repository. -/
lemma aside (hs : Stirs K q s reply s') (hr : r.Colonless) (hne : q ≠ r) : Follows K r s' t :=
  ⟨hs.smooth h.smooth, h.smooth', (hs.share_of_ne hr h.smooth hne).trans h.share, h.tasks,
    h.messenger⟩

/-- Both do what concerns the repository, and the same comes of it. -/
lemma along (hs : Stirs K r s reply s') (ht : Stirs K r t reply' t') (hreply : reply = reply')
    (hnow : s'.now = t'.now) {K' : Pull → Prop} (habreast : Abreast K' r s t s' t') :
    Follows K r s' t' ∧ upshot r reply s s' = upshot r reply' t t' := by
  refine ⟨⟨hs.smooth h.smooth, ht.smooth h.smooth', habreast.share, ?_,
    (ht.moves h.smooth').own h.messenger⟩, ?_⟩
  · rcases ht.tasks h.smooth' with ⟨task, htasks, -⟩ | ⟨new, htasks, hnew⟩
    · exact fun task' htask' => h.tasks task' (htasks ▸ List.mem_cons_of_mem _ htask')
    · rw [htasks]
      exact fun task htask => (List.mem_append.1 htask).elim (h.tasks task) (hnew task)
  · obtain ⟨w, hw, hw', -⟩ := habreast.reports
    obtain ⟨v, hv, hlanes⟩ := (hs.moves h.smooth).sent
    obtain ⟨v', hv', hlanes'⟩ := (ht.moves h.smooth').sent
    have hnotices : s'.ledger.notices = s.ledger.notices ++ v := hv
    have hnotices' : t'.ledger.notices = t.ledger.notices ++ v' := hv'
    -- All that either has sent meanwhile is about the repository, so it is part of its share.
    have hsent : v = v' := by
      have hbefore := congrArg (fun x : Share => x.messenger.sent) h.share
      have hafter := congrArg (fun x : Share => x.messenger.sent) habreast.share
      simp only [Service.share, Messenger.only] at hbefore hafter
      rw [hv, hv', List.filter_append, List.filter_append, hbefore, List.append_cancel_left_eq,
        List.filter_eq_self.2 fun x hx => decide_eq_true (hlanes x hx),
        List.filter_eq_self.2 fun x hx => decide_eq_true (hlanes' x hx)] at hafter
      exact hafter
    simp [upshot, Ledger.since, hreply, hnow, hw, hw', hnotices, hnotices', hsent]

/-- Both start abreast. -/
lemma abreast : Abreast (fun p => p.repo = r ∧ K p) r s t s t := h.smooth.abreast h.smooth' h.share

/-- A call that concerns the repository. -/
lemma call (hnow : s.now = t.now) {c : Call} (hcolonless : c.lane.repo.Colonless)
    (hc : c.lane.repo = r) (hK : ∀ p, c.pull? = some p → K p) :
    Follows K r (s.act (.call c)).2 (t.act (.call c)).2 ∧
      upshot r (s.act (.call c)).1 s (s.act (.call c)).2 =
        upshot r (t.act (.call c)).1 t (t.act (.call c)).2 := by
  obtain ⟨hreply, habreast⟩ := h.abreast.perform hc fun p hp =>
    ⟨(congrArg Lane.repo (Call.of_pull? hp).2).symm.trans hc, hK p hp⟩
  have hs := h.smooth.now_deed (.call c)
  have ht := h.smooth'.now_deed (.call c)
  exact h.along (.call hcolonless hc hK) (.call hcolonless hc hK) hreply
    (hs.trans (hnow.trans ht.symm)) habreast

/-- A status on a commit of the repository. -/
lemma check (hnow : s.now = t.now) {change : CheckChange} (hchange : change.repo = r) :
    Follows K r (s.act (.check change)).2 (t.act (.check change)).2 ∧
      upshot r (s.act (.check change)).1 s (s.act (.check change)).2 =
        upshot r (t.act (.check change)).1 t (t.act (.check change)).2 := by
  obtain ⟨hreply, habreast⟩ := h.abreast.checkChanged h.smooth.keyed h.smooth'.keyed hchange
  have hs := h.smooth.now_deed (.check change)
  have ht := h.smooth'.now_deed (.check change)
  exact h.along (.check hchange) (.check hchange) (congrArg Reply.checked hreply)
    (hs.trans (hnow.trans ht.symm)) habreast

/-- The tasks of the service that follows are those of the repository. -/
lemma tasks_eq : t.tasks = s.tasks.filter (·.repo = r) := by
  have hshare : s.tasks.filter (·.repo = r) = t.tasks.filter (·.repo = r) :=
    congrArg Share.tasks h.share
  rw [hshare, List.filter_eq_self.2 fun task htask => decide_eq_true (h.tasks task htask)]

/-- A task of the repository. -/
lemma task (hnow : s.now = t.now) {task : Task} {rest : List Task}
    (htasks : s.tasks = task :: rest) (htask : task.repo = r) :
    ∃ rest', t.tasks = task :: rest' ∧ Follows K r s.runNext t.runNext ∧
      upshot r .nothing s s.runNext = upshot r .nothing t t.runNext := by
  have htasks' : t.tasks = task :: rest.filter (·.repo = r) := by
    simp [h.tasks_eq, htasks, htask]
  have habreast := h.abreast.runNext h.smooth h.smooth' hnow htasks htasks' htask
  have hclock : s.runNext.now = t.runNext.now :=
    h.smooth.now_runNext.trans (hnow.trans h.smooth'.now_runNext.symm)
  exact ⟨_, htasks', h.along (.task htasks htask) (.task htasks' htask) rfl hclock habreast⟩

/-- The results that the service that follows holds back are those of the repository. -/
lemma waiting_eq :
    t.messenger.waiting = s.messenger.waiting.filter (·.2.lane.repo = r) := by
  rw [← h.messenger]
  exact (congrArg (fun x : Share => x.messenger.waiting) h.share).symm

/-- Each alarm of the service that follows is due when one of the other service is. -/
lemma exists_alarm {b : Alarm} (hb : b ∈ t.alarms) : ∃ a ∈ s.alarms, a.due = b.due := by
  have hmem : (b.due, b.checks) ∈ t.messenger.waiting := List.mem_map.2 ⟨b, hb, rfl⟩
  rw [h.waiting_eq] at hmem
  obtain ⟨a, ha, hsame⟩ := List.mem_map.1 (List.mem_filter.1 hmem).1
  exact ⟨a, ha, (Prod.mk.inj hsame).1⟩

/-- An alarm of the repository. -/
lemma alarm (hs : s.tasks = []) (ht : t.tasks = []) {a : Alarm} {rest : List Alarm}
    (halarms : s.alarms = a :: rest) (ha : a.checks.lane.repo = r) :
    ∃ a' rest', t.alarms = a' :: rest' ∧ a'.due = a.due ∧ a'.checks = a.checks ∧
      Follows K r s.ringNext t.ringNext ∧
      upshot r .nothing s s.ringNext = upshot r .nothing t t.ringNext := by
  have hwaiting := waiting_cons halarms
  have hwaiting' : t.messenger.waiting = (a.due, a.checks) ::
      (rest.map fun a => (a.due, a.checks)).filter (·.2.lane.repo = r) := by
    rw [h.waiting_eq, hwaiting, List.filter_cons, if_pos (decide_eq_true ha)]
  obtain ⟨a', rest', halarms', hsame, -⟩ := List.map_eq_cons_iff.1 hwaiting'
  obtain ⟨hdue, hchecks⟩ := Prod.mk.inj hsame
  have hquiet := Quiet.ringNext ⟨hs, h.smooth.notice, h.smooth.tallied⟩
  have hquiet' := Quiet.ringNext ⟨ht, h.smooth'.notice, h.smooth'.tallied⟩
  have hstirs : Stirs K r s .nothing s.ringNext := .alarm hs halarms ha
  have hstirs' : Stirs K r t .nothing t.ringNext := .alarm ht halarms' (hchecks ▸ ha)
  have hshare : s.ringNext.share r = t.ringNext.share r := by
    have halike := alike_ringNext hs
    have halike' := alike_ringNext ht
    have hmessenger : s.messenger.only r = t.messenger.only r := congrArg Share.messenger h.share
    rw [halike.share_eq (rules_ringNext s), halike'.share_eq (rules_ringNext t), hquiet.2.1,
      hquiet'.2.1, Messenger.only_ring _ hwaiting ha, Messenger.only_ring _ hwaiting' ha,
      hmessenger, h.share]
  have habreast : Abreast (fun _ => True) r s t s.ringNext t.ringNext := by
    refine ⟨(hstirs.smooth h.smooth).status, (hstirs'.smooth h.smooth').status, hshare,
      fun _ _ _ => trivial, [], ?_, ?_, nofun⟩
    · rw [(alike_ringNext hs).reports, List.append_nil]
    · rw [(alike_ringNext ht).reports, List.append_nil]
  have hnow : s.ringNext.now = t.ringNext.now := by
    obtain ⟨d, hd⟩ := h.smooth.tallied
    obtain ⟨d', hd'⟩ := h.smooth'.tallied
    rw [(hd.ringNext_eq hs halarms).2.2.2, (hd'.ringNext_eq ht halarms').2.2.2, hdue]
  exact ⟨a', rest', halarms', hdue, hchecks, h.along hstirs hstirs' rfl hnow habreast⟩

end Follows

/-! ### Runs -/

/-- Two services have gone on, and the second still follows the first. What came of it for the
repository is all that came of it for the second. -/
structure KeepsUp (K : Pull → Prop) (r : Repo) (s t : Service Memory) (us us' : List Upshot)
    (s' t' : Service Memory) : Prop where
  follows : Follows K r s' t'
  upshots : us.filter (·.repo = r) = us'
  told : Told K us s s'

namespace KeepsUp

variable {s₁ t₁ : Service Memory} {us us' vs vs' : List Upshot}

/-- Nothing has happened. -/
lemma nil (h : Follows K r s t) : KeepsUp K r s t [] [] s t := ⟨h, rfl, .nil K s⟩

/-- Some things have happened and then some more. -/
lemma append (h : KeepsUp K r s t us us' s₁ t₁) (h' : KeepsUp K r s₁ t₁ vs vs' s' t') :
    KeepsUp K r s t (us ++ vs) (us' ++ vs') s' t' :=
  ⟨h'.follows, by rw [List.filter_append, h.upshots, h'.upshots], h.told.append h'.told⟩

/-- Something has happened that concerns the repository. -/
lemma along (h : Smooth K s) (hs : Stirs K r s reply s₁)
    (hboth : Follows K r s₁ t₁ ∧ upshot r reply s s₁ = upshot r reply' t t₁) :
    KeepsUp K r s t [upshot r reply s s₁] [upshot r reply' t t₁] s₁ t₁ := by
  refine ⟨hboth.1, ?_, hs.told h⟩
  rw [← hboth.2]
  simp [upshot]

/-- Something has happened that concerns another repository. -/
lemma aside (h : Follows K r s t) (hs : Stirs K q s reply s₁) (hr : r.Colonless) (hne : q ≠ r) :
    KeepsUp K r s t [upshot q reply s s₁] [] s₁ t := by
  refine ⟨h.aside hs hr hne, ?_, hs.told h.smooth⟩
  simp [upshot, hne]

end KeepsUp

namespace Follows

variable (h : Follows K r s t)
include h

/-- All tasks are done. -/
lemma settle (hr : r.Colonless) (hnow : s.now = t.now) :
    KeepsUp K r s t (s.taskUpshots s.tasks.length) (t.taskUpshots t.tasks.length)
      s.settle t.settle := by
  generalize htasks : s.tasks = tasks
  induction tasks generalizing s t with
  | nil =>
    have htasks' : t.tasks = [] := by simp [h.tasks_eq, htasks]
    rw [settle_of_idle htasks, settle_of_idle htasks', htasks']
    exact .nil h
  | cons task rest ih =>
    obtain ⟨hrest, hsettle⟩ := settle_of_tasks htasks
    have hstirs : Stirs K task.repo s .nothing s.runNext := .task htasks rfl
    have hnow' : s.runNext.now = t.now := h.smooth.now_runNext.trans hnow
    rw [hsettle, List.length_cons, taskUpshots_cons htasks]
    by_cases htask : task.repo = r
    · subst htask
      obtain ⟨rest', htasks', hboth⟩ := h.task hnow htasks rfl
      obtain ⟨hrest', hsettle'⟩ := settle_of_tasks htasks'
      rw [hsettle', htasks', List.length_cons, taskUpshots_cons htasks', ← hrest']
      exact (KeepsUp.along h.smooth hstirs hboth).append
        (ih hboth.1 (hnow'.trans h.smooth'.now_runNext.symm) hrest)
    · exact (KeepsUp.aside h hstirs hr htask).append (ih (h.aside hstirs hr htask) hnow' hrest)

/-- Alarms ring up to a time.

**Proof sketch.** Alarms are in the order of their times. So when the first one is due later, all
those of the repository are. -/
lemma ringUntil (hr : r.Colonless) (hs : s.tasks = []) (ht : t.tasks = []) (time : Nat) :
    KeepsUp K r s t (s.alarmUpshots time s.alarms.length) (t.alarmUpshots time t.alarms.length)
      (s.ringUntil time s.alarms.length) (t.ringUntil time t.alarms.length) := by
  generalize halarms : s.alarms = alarms
  induction alarms generalizing s t with
  | nil =>
    have hnone : t.alarms = [] := List.eq_nil_iff_forall_not_mem.2 fun b hb => by
      obtain ⟨a, ha, -⟩ := h.exists_alarm hb
      simp [halarms] at ha
    rw [hnone]
    exact .nil h
  | cons a rest ih =>
    have hquiet := Quiet.ringNext ⟨hs, h.smooth.notice, h.smooth.tallied⟩
    have hquiet' := Quiet.ringNext ⟨ht, h.smooth'.notice, h.smooth'.tallied⟩
    have hrest : s.ringNext.alarms = rest := hquiet.2.2.trans (by rw [halarms, List.tail_cons])
    have hstirs : Stirs K a.checks.lane.repo s .nothing s.ringNext := .alarm hs halarms rfl
    by_cases hdue : a.due ≤ time
    · obtain ⟨hringing, hupshots⟩ := alarmUpshots_cons halarms hdue rest.length
      rw [List.length_cons, hringing, hupshots]
      by_cases ha : a.checks.lane.repo = r
      · subst ha
        obtain ⟨a', rest', halarms', hdue', hchecks, hboth⟩ := h.alarm hs ht halarms rfl
        have hrest' : t.ringNext.alarms = rest' :=
          hquiet'.2.2.trans (by rw [halarms', List.tail_cons])
        obtain ⟨hringing', hupshots'⟩ := alarmUpshots_cons halarms' (hdue' ▸ hdue) rest'.length
        rw [halarms', List.length_cons, hringing', hupshots', hchecks, ← hrest']
        exact (KeepsUp.along h.smooth hstirs hboth).append
          (ih hboth.1 hquiet.1.idle hquiet'.1.idle hrest)
      · exact (KeepsUp.aside h hstirs hr ha).append
          (ih (h.aside hstirs hr ha) hquiet.1.idle ht hrest)
    · obtain ⟨d, hd⟩ := h.smooth.tallied
      have hlate : ∀ b ∈ s.alarms, ¬ b.due ≤ time := by
        have hsorted := hd.sorted
        rw [halarms] at hsorted ⊢
        refine List.forall_mem_cons.2 ⟨hdue, fun b hb hle => hdue ?_⟩
        exact Nat.le_trans ((List.pairwise_cons.1 hsorted).1 b hb) hle
      have hlate' : ∀ b ∈ t.alarms, ¬ b.due ≤ time := fun b hb => by
        obtain ⟨b', hb', hsame⟩ := h.exists_alarm hb
        exact hsame ▸ hlate b' hb'
      obtain ⟨hstill, hnothing⟩ := alarmUpshots_late hlate (a :: rest).length
      obtain ⟨hstill', hnothing'⟩ := alarmUpshots_late hlate' t.alarms.length
      rw [hstill, hnothing, hstill', hnothing']
      exact .nil h

/-- Time passes. -/
lemma advance (hr : r.Colonless) (hnow : s.now = t.now) (ms : Nat) :
    KeepsUp K r s t (s.upshots (.advance ms)) (t.upshots (.advance ms)) (s.advance ms)
      (t.advance ms) := by
  have hsettle := h.settle hr hnow
  have htime : t.settle.now + ms = s.settle.now + ms := by
    rw [h.smooth.now_settle, h.smooth'.now_settle, hnow]
  have hring := hsettle.follows.ringUntil hr s.tasks_settle t.tasks_settle (s.settle.now + ms)
  have hboth := hsettle.append hring
  simp only [upshots, htime]
  refine ⟨⟨h.smooth.advance ms, h.smooth'.advance ms, ?_, ?_, ?_⟩, hboth.upshots,
    hboth.told.reports, hboth.told.notices, hboth.told.targets, hboth.told.lanes⟩
  · rw [Service.advance, Service.advance, htime]
    exact hboth.follows.share
  · rw [Service.advance, htime]
    exact hboth.follows.tasks
  · rw [Service.advance, htime]
    exact hboth.follows.messenger

/-- Something happens that concerns the repository. -/
lemma deed (hr : r.Colonless) (hnow : s.now = t.now) {x : Deed} (hx : x.Colonless)
    (hK : ∀ p, x.pull? = some p → K p) (hconcerns : x.Concerns r) :
    KeepsUp K r s t (s.upshots x) (t.upshots x) (s.deed x) (t.deed x) := by
  cases x with
  | call c =>
    obtain rfl : c.lane.repo = r := hconcerns
    exact .along h.smooth (.call hx rfl hK) (h.call hnow hx rfl hK)
  | check change =>
    obtain rfl : change.repo = r := hconcerns
    exact .along h.smooth (.check rfl) (h.check hnow rfl)
  | settle => exact h.settle hr hnow
  | advance ms => exact h.advance hr hnow ms

/-- Something happens that does not. -/
lemma deed_aside (hr : r.Colonless) {x : Deed} (hx : x.Colonless)
    (hK : ∀ p, x.pull? = some p → K p) (hconcerns : ¬ x.Concerns r) :
    KeepsUp K r s t (s.upshots x) [] (s.deed x) t ∧ (s.deed x).now = s.now := by
  have htime := h.smooth.now_deed x
  cases x with
  | call c => exact ⟨.aside h (.call hx rfl hK) hr hconcerns, htime⟩
  | check change => exact ⟨.aside h (.check rfl) hr hconcerns, htime⟩
  | settle => exact absurd trivial hconcerns
  | advance ms => exact absurd trivial hconcerns

/-- Many things happen, and only those that concern the repository happen to the service that
follows.

**Proof sketch.** By induction on what happens. -/
theorem afterDeeds (hr : r.Colonless) (hnow : s.now = t.now) {deeds : List Deed}
    (hdeeds : ∀ x ∈ deeds, x.Colonless) (hK : ∀ p ∈ deeds.filterMap Deed.pull?, K p) :
    KeepsUp K r s t (s.chronicle deeds) (t.chronicle (deeds.filter (·.Concerns r)))
      (s.afterDeeds deeds) (t.afterDeeds (deeds.filter (·.Concerns r))) := by
  induction deeds generalizing s t with
  | nil => exact .nil h
  | cons x deeds ih =>
    have hx := hdeeds x List.mem_cons_self
    have hpull : ∀ p, x.pull? = some p → K p :=
      fun p hp => hK p (List.mem_filterMap.2 ⟨x, List.mem_cons_self, hp⟩)
    have hdeeds' : ∀ y ∈ deeds, y.Colonless := fun y hy => hdeeds y (List.mem_cons_of_mem _ hy)
    have hK' : ∀ p ∈ deeds.filterMap Deed.pull?, K p := fun p hp => by
      obtain ⟨y, hy, hyp⟩ := List.mem_filterMap.1 hp
      exact hK p (List.mem_filterMap.2 ⟨y, List.mem_cons_of_mem _ hy, hyp⟩)
    by_cases hconcerns : x.Concerns r
    · rw [List.filter_cons, if_pos (decide_eq_true hconcerns)]
      have hboth := h.deed hr hnow hx hpull hconcerns
      have hnow' : (s.deed x).now = (t.deed x).now := by
        rw [h.smooth.now_deed, h.smooth'.now_deed, hnow]
      exact hboth.append (ih hboth.follows hnow' hdeeds' hK')
    · rw [List.filter_cons, if_neg (by simpa using hconcerns)]
      obtain ⟨haside, htime⟩ := h.deed_aside hr hx hpull hconcerns
      exact haside.append (ih haside.follows (htime.trans hnow) hdeeds' hK')

end Follows

/-- A service that has just been started follows itself. -/
lemma follows_start {registry : Registry} (hregistry : registry.Only K) {clients : Clients}
    (hstatus : clients.status = fun _ => none) (hnotice : clients.notice = fun _ => none)
    (rules : Rules) (m : Memory) (room : Nat) (r : Repo) :
    let first : Service Memory := { start rules m registry room with clients }
    Follows K r first first := by
  intro first
  have hsmooth : Smooth K first :=
    ⟨hstatus, hnotice, hregistry, _, tallied_start rules m registry room clients⟩
  refine ⟨hsmooth, hsmooth, rfl, nofun, ?_⟩
  refine Messenger.ext (funext fun l => ?_) (funext fun l => ?_) rfl rfl
  · simp [Messenger.only, Service.messenger, first, start, Dispatch.empty]
  · simp [Messenger.only, Service.messenger, first, start, Dispatch.empty]

/-! ## Repositories -/

/-- Repositories do not interfere. Take any run of a service: calls, statuses that somebody posts,
points at which all tasks run, and time that passes. Without what concerns other repositories the
same comes of it for a repository: the same is answered, posted and sent, in the same order and at
the same times. Then its lanes, its pull requests that are booked and those on record are the same,
and so are those found by a commit, in whatever order they are looked through if no two share it.
And all that is posted and sent in either run comes of something that concerns the repository that
it is for.

**Proof sketch.** The service without the other repositories follows the one with them: whatever
concerns another repository leaves the share of this one as it is, and nothing comes of it for this
one. Whatever concerns this one does the same to the same share. -/
theorem repositories_do_not_interfere (rules : Rules) (m : Memory) {registry : Registry}
    (hregistry : registry.Keyed) (room : Nat) {clients : Clients}
    (hstatus : clients.status = fun _ => none) (hnotice : clients.notice = fun _ => none)
    {deeds : List Deed} (hdeeds : ∀ x ∈ deeds, x.Colonless) {r : Repo} (hr : r.Colonless) :
    let first : Service Memory := { start rules m registry room with clients }
    let thinned := deeds.filter (·.Concerns r)
    let s := first.afterDeeds deeds
    let t := first.afterDeeds thinned
    (first.chronicle deeds).filter (·.repo = r) = first.chronicle thinned ∧
      (∀ branch, (Desk.bookings (r.lane branch) s.store).answer =
        (Desk.bookings (r.lane branch) t.store).answer) ∧
      (∀ n, (Store.isMember r.storeKey n s.store).1 = (Store.isMember r.storeKey n t.store).1) ∧
      (∀ n, s.registry.get? ⟨r, n⟩ = t.registry.get? ⟨r, n⟩) ∧
      (s.registry.Apart → ∀ listing : List Pull, listing.Perm s.registry.pulls →
        ∀ commit, listing.find? (fun p => p.repo == r && p.head == commit) =
          t.registry.findByHead? r commit) ∧
      Told (· ∈ registry.pulls ++ deeds.filterMap Deed.pull?) (first.chronicle deeds) first s ∧
      Told (· ∈ registry.pulls ++ deeds.filterMap Deed.pull?) (first.chronicle thinned) first
        t := by
  intro first thinned s t
  have hknown : registry.Only (· ∈ registry.pulls ++ deeds.filterMap Deed.pull?) :=
    fun key p hp => (hregistry.only key p hp).imp_right (List.mem_append_left _)
  have hstart := follows_start hknown hstatus hnotice rules m room r
  have hboth := hstart.afterDeeds hr rfl hdeeds fun p hp => List.mem_append_right _ hp
  have hcolonless : ∀ x ∈ thinned, x.Colonless := fun x hx => hdeeds x (List.mem_filter.1 hx).1
  have hthinned := hstart.afterDeeds hr rfl hcolonless fun p hp => by
    obtain ⟨x, hx, hxp⟩ := List.mem_filterMap.1 hp
    exact List.mem_append_right _ (List.mem_filterMap.2 ⟨x, (List.mem_filter.1 hx).1, hxp⟩)
  have hbooks := alikeFor_of_share hboth.follows.share
  have hrefusal : s.store.refusal? = t.store.refusal? :=
    congrArg Share.refusal hboth.follows.share
  have hrecords : ∀ n, s.registry.get? ⟨r, n⟩ = t.registry.get? ⟨r, n⟩ :=
    congrFun (congrArg Share.records hboth.follows.share)
  refine ⟨hboth.upshots, fun branch => ?_, fun n => ?_, hrecords,
    fun hapart listing hperm commit => ?_, hboth.told, hthinned.told⟩
  · rw [Desk.bookings_answer, Desk.bookings_answer, hrefusal, hbooks.list]
  · have hread : ∀ m : Memory,
        Store.isMember r.storeKey n m = m.read (·.hasMember r.storeKey n) := fun _ => rfl
    rw [hread, hread, Memory.read_eq, Memory.read_eq, hrefusal]
    split_ifs
    · rfl
    · exact congrArg Except.ok (hbooks.member n)
  · rw [hapart.find?_of_perm hperm]
    exact Registry.findByHead?_congr hboth.follows.smooth.keyed hboth.follows.smooth'.keyed hrecords
      commit

/-- Two pull requests with one number and one last commit are opened in two repositories. Results of
checks are posted for both, and one is closed before people are told. -/
def twoRepositories : List Deed :=
  let p := samplePull 1 "one"
  let q : Pull := { samplePull 1 "other" with repo := ⟨"octo", "gadgets"⟩ }
  [.call (.opened q Time.Timestamp.epoch), .call (.opened p Time.Timestamp.epoch), .settle,
    .check ⟨q.repo, q.head, .success, "ci"⟩, .advance 3,
    .check ⟨p.repo, p.head, .failure, "ci"⟩, .call (.closed q .dropped), .advance 7]

/-- Whether or not there is the other one, the author is told of the turn at once, and of the checks
at the end of the delay. -/
theorem repositories_do_not_interfere_twoRepositories :
    let first := start ⟨"merge-turn", 5⟩ Memory.volatile Registry.volatile 0
    let thinned := twoRepositories.filter (·.Concerns ⟨"octo", "widgets"⟩)
    let p := samplePull 1 "one"
    Registry.volatile.Keyed ∧ first.clients.status = (fun _ => none) ∧
      first.clients.notice = (fun _ => none) ∧ (∀ x ∈ twoRepositories, x.Colonless) ∧
      p.repo.Colonless ∧ twoRepositories.length = 8 ∧ thinned.length = 5 ∧
      ((first.chronicle thinned).flatMap fun u => u.notices.map fun a => (u.time, a.call)) =
        [(0, .head p.lane p.number "mona"), (8, .checks p.lane p.number "mona" .failure)] ∧
      (first.chronicle twoRepositories).filter (·.repo = p.repo) = first.chronicle thinned := by
  intro first thinned p
  have hkeyed : Registry.volatile.Keyed := Registry.keyed_of_entries_empty rfl
  have hstatus : first.clients.status = fun _ => none := rfl
  have hdeeds : ∀ x ∈ twoRepositories, x.Colonless := by decide
  have hr : p.repo.Colonless := by decide
  refine ⟨hkeyed, hstatus, rfl, hdeeds, hr, rfl, by decide, by decide +kernel, ?_⟩
  exact (repositories_do_not_interfere ⟨"merge-turn", 5⟩ Memory.volatile hkeyed 0 hstatus rfl hdeeds
    hr).1

end MergeTurn.Service
