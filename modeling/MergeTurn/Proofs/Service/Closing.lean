import MergeTurn.Proofs.Desk.Whole
import MergeTurn.Proofs.Service.HeadNotices
import MergeTurn.Proofs.Service.Schedules

set_option autoImplicit false

/-!
# What closing a pull request leaves

A pull request that is closed is taken out of the lane of the branch that it was to be merged into
when it was closed. If it was booked for another branch, by hand or before it was turned to this
one, it stays there and in the repository's set.

## Main definitions

* `MergeTurn.Service.Call.request?` — what a call asks of the desk.
* `MergeTurn.Service.Act.Sound` — an act that can happen to a service over a store in memory.

## Main results

* `MergeTurn.Service.perform_hushed` — what a call does beside its request of the desk.
* `MergeTurn.Service.store_act` — what an act does to the store.
* `MergeTurn.Service.inStep_enact` — lists and sets are in step after any schedule.
* `MergeTurn.Service.gone_after_closed_iff` — when nothing is left of a closed pull request.

## Design

Tasks and alarms only read the store, so the books after a schedule are those that its calls leave.
-/

namespace MergeTurn

namespace Service

/-! ## Who touches the store -/

/-- A handler leaves the store and the tasks as they are. -/
lemma handle_eq (task : Task) (s : Service Memory) :
    (s.handle task.handler task.event).store = s.store ∧
      (s.handle task.handler task.event).tasks = s.tasks := by
  cases hchange : task.labelChange? with
  | none =>
    have halike := handle_alike hchange s
    exact ⟨halike.store, halike.tasks⟩
  | some e =>
    rcases Task.of_labelChange? hchange with ⟨l, b, place, rfl, rfl⟩ | ⟨l, b, removal, rfl, rfl⟩
    · have hhushed := onAdded_hushed l b.number s
      exact ⟨hhushed.store, hhushed.tasks⟩
    · have hhushed := onRemoved_hushed l b.number removal.closed s
      exact ⟨hhushed.store, hhushed.tasks⟩

/-- A task leaves the store as it is. -/
lemma store_runAt (i : Nat) (s : Service Memory) : (s.runAt i).store = s.store := by
  unfold runAt
  cases s.tasks[i]? with
  | none => rfl
  | some task => exact (handle_eq task _).1

/-- Tasks leave the store as it is. -/
lemma store_runTasks (n : Nat) (s : Service Memory) : (s.runTasks n).store = s.store := by
  induction n generalizing s with
  | zero => rfl
  | succ n ih =>
    have hnext := s.store_runAt 0
    rw [runAt_zero] at hnext
    exact (ih s.runNext).trans hnext

/-- When all tasks have run none is left. -/
lemma tasks_settle (s : Service Memory) : s.settle.tasks = [] := by
  have hrun : ∀ (n : Nat) (s : Service Memory), (s.runTasks n).tasks = s.tasks.drop n := by
    intro n
    induction n with
    | zero => exact fun s => rfl
    | succ n ih =>
      intro s
      refine (ih s.runNext).trans ?_
      unfold runNext
      cases htasks : s.tasks with
      | nil => simp [htasks]
      | cons task rest => exact congrArg (List.drop n) (handle_eq task { s with tasks := rest }).2
  rw [settle, hrun, List.drop_length]

/-- An alarm leaves the store as it is. -/
lemma store_ring (a : Alarm) (s : Service Memory) : (s.ring a).store = s.store := by
  obtain ⟨pending, delivered, notices, events, h, -⟩ := s.ring_writes a
  exact (congrArg (fun t : Service Memory => t.store) h :)

/-- An alarm that is picked leaves the store as it is. -/
lemma store_ringAt (i : Nat) (s : Service Memory) : (s.ringAt i).store = s.store := by
  unfold ringAt
  cases s.alarms[i]? with
  | none => rfl
  | some a =>
    dsimp only
    split
    · exact store_ring a _
    · rfl

/-- No alarm gives the service a task. -/
lemma tasks_ringAt (i : Nat) (s : Service Memory) : (s.ringAt i).tasks = s.tasks := by
  unfold ringAt
  cases s.alarms[i]? with
  | none => rfl
  | some a =>
    dsimp only
    split
    · obtain ⟨pending, delivered, notices, events, h, -⟩ :=
        ring_writes { s with alarms := s.alarms.eraseIdx i } a
      exact (congrArg (fun t : Service Memory => t.tasks) h :)
    · rfl

/-- The next alarm and the tasks that follow it leave the store as it is. -/
lemma store_ringNext (s : Service Memory) : s.ringNext.store = s.store := by
  unfold ringNext
  cases s.alarms with
  | nil => rfl
  | cons a rest => exact (store_runTasks _ _).trans (store_ring a _)

/-- Alarms up to a time leave the store as it is. -/
lemma store_ringUntil (time n : Nat) (s : Service Memory) :
    (s.ringUntil time n).store = s.store := by
  induction n generalizing s with
  | zero => rfl
  | succ n ih =>
    unfold ringUntil
    cases s.alarms with
    | nil => rfl
    | cons a rest =>
      dsimp only
      split
      · exact (ih s.ringNext).trans s.store_ringNext
      · rfl

/-- Alarms leave the store as it is. -/
lemma store_ringAll (n : Nat) (s : Service Memory) : (s.ringAll n).store = s.store := by
  induction n generalizing s with
  | zero => rfl
  | succ n ih => exact (ih s.ringNext).trans s.store_ringNext

/-- What the desk does to the store. -/
lemma store_atDesk {α : Type} (op : Memory → Turn Memory α) (s : Service Memory) :
    (s.atDesk op).2.store = (op s.store).store :=
  store_publishAll _ _

/-- What a call asks of the desk. New commits change nothing there. -/
def Call.request? : Call → Option Desk.Request
  | .opened p clock => some (.book p.lane ⟨p.number, p.author, clock⟩)
  | .updated _ => none
  | .closed p _ => some (.unbook p.lane p.number true)
  | .book lane b => some (.book lane b)
  | .unbook lane n => some (.unbook lane n false)

/-- What a call asks is about its lane. -/
lemma Call.lane_of_request? {c : Call} {r : Desk.Request} (h : c.request? = some r) :
    r.lane = c.lane := by
  cases c <;> cases h <;> rfl

namespace Hushed

variable {s t : Service Memory}

/-- A lane has changed in both states. -/
lemma publishAll (h : Hushed s t) (es : List LaneEvent) :
    Hushed (s.publishAll es) (t.publishAll es) := by
  induction es generalizing s t with
  | nil => exact h
  | cons e es ih => exact ih ⟨h.store, congrArg (· ++ _) h.tasks, h.heads, h.sent⟩

/-- The desk works in both states. -/
lemma atDesk {α : Type} (h : Hushed s t) (op : Memory → Turn Memory α) :
    Hushed (s.atDesk op).2 (t.atDesk op).2 := by
  have hturn : op t.store = op s.store := congrArg op h.store
  have hstored : Hushed { s with store := (op s.store).store } { t with store := (op s.store).store } :=
    ⟨rfl, h.tasks, h.heads, h.sent⟩
  simp only [Service.atDesk, hturn]
  exact hstored.publishAll _

/-- Posting something tells nobody to be a head. -/
lemma post (h : Hushed s t) (lane : Lane) (p : Pull) (report : StatusReport) :
    Hushed s (t.post lane p report).2 := by
  obtain ⟨reports, events, hpost⟩ := t.post_writes lane p report
  rw [hpost]
  exact ⟨h.store, h.tasks, h.heads, h.sent⟩

/-- So does posting the label of a place. -/
lemma labelPlace (h : Hushed s t) (p : Pull) : Hushed s (t.labelPlace p).2 := by
  obtain ⟨answer, hread⟩ : ∃ answer, t.atDesk (Desk.position p.lane p.number) = (answer, t) :=
    atDesk_read _ _ t
  unfold Service.labelPlace
  rw [hread]
  cases answer with
  | error e => exact h
  | ok place => exact h.post p.lane p (placeLabel place)

end Hushed

/-- Nothing that a call does beside its request has to do with heads. -/
lemma perform_hushed (c : Call) (s : Service Memory) :
    Hushed (c.request?.elim s fun r => s.request r) (s.perform c).2 := by
  cases c with
  | opened p clock =>
    have hbook := Hushed.atDesk (s := s) (t := s.withRegistry (·.record p))
      ⟨rfl, rfl, rfl, rfl⟩ (Desk.book p.lane ⟨p.number, p.author, clock⟩)
    simp only [perform, opened, Service.book]
    rcases hop : (s.withRegistry (·.record p)).atDesk
      (Desk.book p.lane ⟨p.number, p.author, clock⟩) with ⟨_ | (place | _), u⟩
    all_goals rw [hop] at hbook
    · exact hbook
    · exact hbook
    · have hlabel := Hushed.labelPlace hbook p
      rcases hplace : u.labelPlace p with ⟨_ | place, u'⟩
      all_goals
        rw [hplace] at hlabel
        simp only [hplace]
        exact hlabel
  | updated p =>
    exact Hushed.labelPlace (s := s) (t := s.withRegistry (·.record p)) ⟨rfl, rfl, rfl, rfl⟩ p
  | closed p closing =>
    simp only [perform, closed, Service.unbook]
    rcases hop : s.atDesk (Desk.unbook p.lane p.number true) with ⟨_ | outcome, u⟩
    all_goals
      have hrequest : (s.request (.unbook p.lane p.number true)) = u := congrArg Prod.snd hop
      simp only [Call.request?, Option.elim, hrequest]
    · exact .refl u
    · have hpost := (Hushed.refl u).post p.lane p closing.label
      exact ⟨hpost.store, hpost.tasks, hpost.heads, hpost.sent⟩
  | book lane b => exact .refl _
  | unbook lane n => exact .refl _

/-- What a call does to a store. -/
def Call.onStore (c : Call) (m : Memory) : Memory :=
  c.request?.elim m fun r => (Desk.serve r m).store

/-- A call does to the store what its request of the desk does. -/
lemma store_perform (c : Call) (s : Service Memory) :
    (s.perform c).2.store = c.onStore s.store := by
  rw [(perform_hushed c s).store, Call.onStore]
  cases c.request? with
  | none => rfl
  | some r => exact store_request r s

/-- A status that somebody posts leaves the store as it is. -/
lemma store_checkChanged (change : CheckChange) (s : Service Memory) :
    (s.checkChanged change).2.store = s.store := by
  unfold checkChanged
  split
  · rfl
  · cases s.registry.findByHead? change.repo change.commit with
    | none => rfl
    | some p =>
      obtain ⟨answer, hread⟩ : ∃ answer, s.atDesk (Desk.head p.lane) = (answer, s) :=
        atDesk_read _ _ s
      simp only [hread]
      rcases answer with e | (_ | b)
      · rfl
      · rfl
      · dsimp only
        split_ifs <;> rfl

/-- Setting the labels of a lane leaves the store as it is. -/
lemma store_relabel (lane : Lane) (s : Service Memory) : (s.relabel lane).2.store = s.store := by
  obtain ⟨answer, hread⟩ : ∃ answer,
    s.atDesk (Desk.firstBookings lane (lastShownPlace + 1)) = (answer, s) := atDesk_read _ _ s
  simp only [relabel, hread]
  cases answer with
  | error e => rfl
  | ok bs =>
    obtain ⟨reports, events, h⟩ := s.labelFrom_writes lane 0 bs
    exact (congrArg (fun t : Service Memory => t.store) h :)

/-- What an act does to a store. -/
def Act.onStore : Act Memory → Memory → Memory
  | .call c, m => c.onStore m
  | .outside f, m => f m
  | _, m => m

/-- Of all that can be done only calls, and what comes from outside, touch the store. -/
lemma store_act (a : Act Memory) (s : Service Memory) :
    (s.act a).2.store = a.onStore s.store := by
  cases a with
  | call c => exact s.store_perform c
  | check change => exact s.store_checkChanged change
  | relabel lane => exact s.store_relabel lane
  | task i => exact s.store_runAt i
  | alarm i => exact s.store_ringAt i
  | wait ms => rfl
  | advance ms => exact (store_ringUntil _ _ s.settle).trans (store_runTasks _ s)
  | drain => exact (store_ringAll _ s.settle).trans (store_runTasks _ s)
  | outside f => rfl

/-! ## Schedules -/

/-- What a schedule does to the store. -/
lemma store_enact (acts : List (Act Memory)) (s : Service Memory) :
    (enact acts s).2.store = acts.foldl (fun m a => a.onStore m) s.store := by
  induction acts generalizing s with
  | nil => rfl
  | cons a acts ih => exact (ih (s.act a).2).trans (by rw [store_act, List.foldl_cons])

/-- The call is about a repository without colons. From outside a store may come and go and its file
be changed, but what it holds in memory stays. -/
def Act.Sound : Act Memory → Prop
  | .call c => c.lane.repo.Colonless
  | .outside f => ∀ m : Memory, (f m).shelves = m.shelves
  | _ => True

/-- An act keeps lists and sets in step. -/
lemma inStep_onStore {a : Act Memory} (ha : a.Sound) {m : Memory} (hm : m.books.InStep) :
    (a.onStore m).books.InStep := by
  cases a with
  | call c =>
    simp only [Act.onStore, Call.onStore]
    cases hr : c.request? with
    | none => exact hm
    | some r =>
      have hcolonless : r.lane.repo.Colonless := by
        rw [Call.lane_of_request? hr]
        exact ha
      exact Desk.inStep_serve hcolonless hm
  | outside f =>
    have hbooks : (f m).books = m.books := congrArg Shelves.books (ha m)
    exact hbooks.symm ▸ hm
  | _ => exact hm

/-- Lists and sets are in step after any schedule. -/
theorem inStep_enact {acts : List (Act Memory)} (hacts : ∀ a ∈ acts, a.Sound)
    {s : Service Memory} (hs : s.store.books.InStep) : (enact acts s).2.store.books.InStep := by
  rw [store_enact]
  exact List.foldlRecOn acts _ (motive := fun m : Memory => m.books.InStep) hs
    fun m hm a ha => inStep_onStore (hacts a ha) hm

/-! ## Closing -/

/-- Closing a pull request succeeds if its removal does, and does no more to the store. -/
lemma closed_ok {s t : Service Memory} {p : Pull} {closing : Closing} {o : UnbookOutcome}
    (h : s.closed p closing = (.ok o, t)) :
    (Desk.unbook p.lane p.number true s.store).answer = .ok o ∧
      t.store = (Desk.unbook p.lane p.number true s.store).store := by
  have hanswer : (s.unbook p.lane p.number true).1 =
    (Desk.unbook p.lane p.number true s.store).answer := rfl
  have hstore := store_atDesk (Desk.unbook p.lane p.number true) s
  simp only [closed, Service.unbook] at h hanswer
  rcases hop : s.atDesk (Desk.unbook p.lane p.number true) with ⟨_ | outcome, u⟩
  all_goals rw [hop] at h hanswer hstore
  · cases h
  · cases h
    obtain ⟨reports, events, hpost⟩ := u.post_writes p.lane p closing.label
    exact ⟨hanswer.symm, (congrArg (fun t : Service Memory => t.store) hpost :).trans hstore⟩

/-- A removal that succeeds leaves the pull request in no place of the lane, and can only have
succeeded over a store that can be reached. -/
lemma place_after_unbook {l : Lane} {n : PullNumber} {closed : Bool} {m : Memory}
    {o : UnbookOutcome} (hl : l.repo.Colonless) (hm : m.books.InStep)
    (h : (Desk.unbook l n closed m).answer = .ok o) :
    m.refusal? ≠ some Memory.offline ∧ (Desk.unbook l n closed m).store.books.place l n = none := by
  constructor
  · intro hoffline
    rw [Desk.unbook_answer, if_pos hoffline] at h
    cases h
  · have hkeeps : Memory.Keeps fun _ => True := by
      intro α answer s t _
      trivial
    obtain ⟨t, -, ⟨hnot, hbooks, hturn⟩ | ⟨b, removal, -, -, hbooks, hturn⟩⟩ :=
      Desk.unbook_of_ok (A := Memory.atomic hkeeps) (s := m) trivial h
    · have hbooks : t.books = m.books := hbooks
      rw [hturn]
      exact Books.place_eq_none_iff.2 (hbooks.symm ▸ hnot)
    · have hbooks : t.books =
        (m.books.removeFirst l.storeKey n).removeMember l.repo.storeKey n := hbooks
      rw [hturn]
      exact hbooks.symm ▸ hm.place_unbook hl

/-- When nothing is left of a closed pull request. After any schedule whose calls are about
repositories without colons, a pull request that could be closed is in no place of the lane that it
was to be merged from; the lanes of the other branches are as they were; and it is in no lane and
not in the repository's set exactly if it was in none of the other lanes before.

**Proof sketch.** What it is booked in is settled by the branches of its calls, so one of another
branch is not seen. And lists and sets are in step, so the set follows the lanes. -/
theorem gone_after_closed_iff {rules : Rules} {m : Memory} {registry : Registry} {room : Nat}
    {clients : Clients} {acts : List (Act Memory)} {s t : Service Memory} {p : Pull}
    {closing : Closing} {o : UnbookOutcome} (hm : m.shelves = Shelves.empty)
    (hacts : ∀ a ∈ acts, a.Sound)
    (hs : (enact acts { start rules m registry room with clients }).2 = s)
    (hp : p.repo.Colonless) (h : s.closed p closing = (.ok o, t)) :
    (Desk.position p.lane p.number t.store).answer = .ok none ∧
    (∀ branch, branch ≠ p.branch →
      (Desk.bookings (p.repo.lane branch) t.store).answer =
        (Desk.bookings (p.repo.lane branch) s.store).answer) ∧
    ((∀ branch, (Desk.position (p.repo.lane branch) p.number t.store).answer = .ok none) ∧
        (Store.isMember p.repo.storeKey p.number t.store).1 = .ok false ↔
      ∀ branch, branch ≠ p.branch →
        (Desk.position (p.repo.lane branch) p.number s.store).answer = .ok none) := by
  have hempty : m.books.InStep := by
    rw [Memory.books, hm, Shelves.books_empty]
    exact Books.inStep_empty
  have hinStep : s.store.books.InStep := hs ▸ inStep_enact hacts hempty
  obtain ⟨hanswer, hstore⟩ := closed_ok h
  have hl : p.lane.repo.Colonless := hp
  obtain ⟨honline, hgone⟩ := place_after_unbook hl hinStep hanswer
  obtain ⟨hrefusal, hbeside⟩ :=
    Desk.serve_frame (m := s.store) (.unbook p.lane p.number true)
  have hafter : t.store.books.InStep := by
    have hstep := Desk.inStep_serve (r := .unbook p.lane p.number true) hl hinStep
    rw [hstore]
    exact hstep
  rw [← hstore] at hgone
  replace hrefusal : t.store.refusal? = s.store.refusal? := by
    rw [hstore]
    exact hrefusal
  have hlist : ∀ branch, branch ≠ p.branch →
      t.store.books.list (p.repo.lane branch).storeKey =
        s.store.books.list (p.repo.lane branch).storeKey := by
    intro branch hbranch
    rw [hstore]
    refine hbeside.list _ fun hkey => hbranch ?_
    exact congrArg Lane.branch (Lane.storeKey_inj (l := p.repo.lane branch) hp hl hkey)
  have hplace : ∀ branch, branch ≠ p.branch →
      t.store.books.place (p.repo.lane branch) p.number =
        s.store.books.place (p.repo.lane branch) p.number := by
    intro branch hbranch
    rw [Books.place, Books.place, hlist branch hbranch]
  -- The answers of both stores say what their books hold.
  have hbefore : ∀ l n, (Desk.position l n s.store).answer = .ok (s.store.books.place l n) := by
    intro l n
    rw [Desk.position_answer, if_neg honline]
  have hthen : ∀ l n, (Desk.position l n t.store).answer = .ok (t.store.books.place l n) := by
    intro l n
    rw [Desk.position_answer, hrefusal, if_neg honline]
  have hmember : (Store.isMember p.repo.storeKey p.number t.store).1 =
      .ok (t.store.books.member p.repo.storeKey p.number) := by
    have hread : Store.isMember p.repo.storeKey p.number t.store =
      t.store.read (·.hasMember p.repo.storeKey p.number) := rfl
    rw [hread, Memory.read_eq, hrefusal, if_neg honline]
    rfl
  refine ⟨by rw [hthen, hgone], fun branch hbranch => ?_, ?_⟩
  · rw [Desk.bookings_answer, Desk.bookings_answer, hrefusal, hlist branch hbranch]
  · simp only [hthen, hbefore, hmember, Except.ok.injEq]
    constructor
    · rintro ⟨hnone, -⟩ branch hbranch
      rw [← hplace branch hbranch]
      exact hnone branch
    · intro hothers
      have hnone : ∀ branch, t.store.books.place (p.repo.lane branch) p.number = none := by
        intro branch
        by_cases hbranch : branch = p.branch
        · rw [hbranch]
          exact hgone
        · rw [hplace branch hbranch]
          exact hothers branch hbranch
      refine ⟨hnone, Bool.eq_false_iff.2 fun hin => ?_⟩
      obtain ⟨branch, hlists⟩ := (hafter.member_iff p.repo hp p.number).1 hin
      exact Books.place_eq_none_iff.1 (hnone branch) hlists

/-- A pull request is opened, another is booked for another branch, and all comes to rest. -/
def twoBranchSchedule : List (Act Memory) :=
  [.call (.opened (samplePull 1 "one") Time.Timestamp.epoch),
    .call (.book ⟨⟨"octo", "widgets"⟩, "dev"⟩ ⟨⟨7⟩, "hubot", Time.Timestamp.epoch⟩), .drain]

/-- Nothing is left of the first one when it is merged. -/
theorem gone_after_closed_merged :
    (∀ a ∈ twoBranchSchedule, a.Sound) ∧ (samplePull 1 "one").repo.Colonless ∧
    ∃ o t, (enact twoBranchSchedule fresh).2.closed (samplePull 1 "one") (.merged "mona") =
        (.ok o, t) ∧
      (∀ branch, (Desk.position ((samplePull 1 "one").repo.lane branch) ⟨1⟩ t.store).answer =
        .ok none) ∧
      (Store.isMember (samplePull 1 "one").repo.storeKey ⟨1⟩ t.store).1 = .ok false := by
  have hacts : ∀ a ∈ twoBranchSchedule, a.Sound := by
    intro a ha
    rcases ha with _ | ⟨_, _ | ⟨_, _ | ⟨_, ha⟩⟩⟩
    · exact (by decide : (samplePull 1 "one").lane.repo.Colonless)
    · exact (by decide : Repo.Colonless ⟨"octo", "widgets"⟩)
    · trivial
    · cases ha
  refine ⟨hacts, by decide, ?_⟩
  generalize hs : (enact twoBranchSchedule fresh).2 = s
  have hplace : (Desk.position (samplePull 1 "one").lane ⟨1⟩ s.store).answer = .ok (some 0) := by
    rw [← hs]
    decide +kernel
  have hanswer : (s.closed (samplePull 1 "one") (.merged "mona")).1.toOption.isSome = true := by
    rw [← hs]
    decide +kernel
  rcases hclosed : s.closed (samplePull 1 "one") (.merged "mona") with ⟨_ | o, t⟩
  · rw [hclosed] at hanswer
    cases hanswer
  refine ⟨o, t, rfl, ?_⟩
  refine (gone_after_closed_iff (m := Memory.volatile) rfl hacts hs (by decide) hclosed).2.2.2 ?_
  -- It was in one lane, so it was in no other.
  have hinStep : s.store.books.InStep := by
    rw [← hs]
    refine inStep_enact hacts ?_
    have hempty : fresh.store.books = Books.empty := Shelves.books_empty
    rw [hempty]
    exact Books.inStep_empty
  intro branch hbranch
  rw [Desk.position_answer] at hplace ⊢
  split_ifs at hplace ⊢
  rw [Except.ok.injEq] at hplace ⊢
  refine Books.place_eq_none_iff.2 fun hlists => hbranch ?_
  have hmain : s.store.books.Lists (samplePull 1 "one").lane.storeKey ⟨1⟩ := by
    by_contra hnot
    rw [Books.place_eq_none_iff.2 hnot] at hplace
    cases hplace
  have hc : (samplePull 1 "one").repo.Colonless := by decide
  exact congrArg Lane.branch
    (hinStep.one_lane ((samplePull 1 "one").repo.lane branch) (samplePull 1 "one").lane hc rfl ⟨1⟩
      hlists hmain)

/-- A pull request that was booked for one branch stays booked when it is closed as one of another.
And one that was booked under two names of one list is still in it after it was taken out once. -/
theorem left_after_closed :
    (let s := (enact [.call (.book ⟨⟨"octo", "widgets"⟩, "dev"⟩
        ⟨⟨7⟩, "mona", Time.Timestamp.epoch⟩)] fresh).2
      let x := s.closed (samplePull 7 "seven") .dropped
      x.1 = .ok .notBooked ∧
        (Desk.position ⟨⟨"octo", "widgets"⟩, "dev"⟩ ⟨7⟩ x.2.store).answer = .ok (some 0) ∧
        (Store.isMember (samplePull 7 "seven").repo.storeKey ⟨7⟩ x.2.store).1 = .ok true) ∧
    (let s := (enact [.call (.book ⟨⟨"a", "b"⟩, "c:main"⟩ ⟨⟨7⟩, "mona", Time.Timestamp.epoch⟩),
        .call (.book ⟨⟨"a:b", "c"⟩, "main"⟩ ⟨⟨7⟩, "mona", Time.Timestamp.epoch⟩)] fresh).2
      let x := s.closed { samplePull 7 "seven" with repo := ⟨"a:b", "c"⟩ } .dropped
      x.1 = .ok (.removed ⟨⟨7⟩, "mona", Time.Timestamp.epoch⟩ ⟨true, true⟩) ∧
        (Desk.position ⟨⟨"a:b", "c"⟩, "main"⟩ ⟨7⟩ x.2.store).answer = .ok (some 0)) := by
  decide +kernel

end Service

end MergeTurn
