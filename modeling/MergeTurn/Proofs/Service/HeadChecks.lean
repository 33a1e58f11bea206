import MergeTurn.Proofs.Service.Clock

set_option autoImplicit false

/-!
# Who is told of ended checks

Between the end of the checks of a head and the notice of it the lane may change in any way. But where
tasks are not late, whatever takes the head out of its place also gives up the notice. So whoever is
told that checks have ended has been the head ever since.

## Main definitions

* `MergeTurn.Service.Episode`, `MergeTurn.Service.episodes` — calls and statuses, each with all its
  tasks, and the clock.
* `MergeTurn.Service.Awaited` — a result was published for a head that has stayed one.
* `MergeTurn.Service.Guarded` — every result that is held back is awaited.
* `MergeTurn.Service.Vetted` — what an episode leaves and tells.

## Main results

* `MergeTurn.Service.headMarks_of_movesHead` — a change that moves a head is followed up with another.
* `MergeTurn.Service.Guarded.episode` — an episode keeps the service guarded.
* `MergeTurn.Service.checks_told_to_heads` — whoever is told of checks has stayed the head.
* `MergeTurn.Service.Guarded.advance` — a stride in time is made of episodes.

## Design

Who was told last to be the head of a lane is the head, if anybody was told at all: a service that
has just been started does not know the heads of the lanes that it finds. So a head can be taken out
of its place only by a change whose follow-up finds that there is another head than the one that was
told last, or none.
-/

namespace MergeTurn.Service

/-! ## Episodes -/

/-- A call or a status that somebody posts, with all its tasks, or the clock. -/
inductive Episode where
  | call (c : Call)
  | check (change : CheckChange)
  /-- One of the alarms rings, if its time has come. -/
  | alarm (i : Nat)
  /-- The clock goes on, unless an alarm is due. -/
  | tick

/-- The service after an episode. -/
def episode : Episode → Service Memory → Service Memory
  | .call c, s => (s.perform c).2.settle
  | .check change, s => (s.checkChanged change).2.settle
  | .alarm i, s => s.beat (.alarm i)
  | .tick, s => s.beat .tick

/-- The service after episodes, one after the other. -/
def episodes (xs : List Episode) (s : Service Memory) : Service Memory :=
  xs.foldl (fun s x => s.episode x) s

/-- An episode is about a repository without colons. -/
def Episode.Colonless : Episode → Prop
  | .call c => c.lane.repo.Colonless
  | .check change => change.repo.Colonless
  | _ => True

instance : DecidablePred Episode.Colonless
  | .call c => inferInstanceAs (Decidable c.lane.repo.Colonless)
  | .check change => inferInstanceAs (Decidable change.repo.Colonless)
  | .alarm _ => inferInstanceAs (Decidable True)
  | .tick => inferInstanceAs (Decidable True)

variable {d : Docket} {s t u s₀ : Service Memory} {past : List Episode} {c : HeadChecks} {time : Nat}

/-- Episodes may follow episodes. -/
lemma episodes_append (before after : List Episode) (s : Service Memory) :
    episodes (before ++ after) s = episodes after (episodes before s) :=
  List.foldl_append

/-- Time that passes passes in episodes. -/
lemma Passes.exists_episodes (h : Passes s t) :
    ∃ xs, (∀ x ∈ xs, x.Colonless) ∧ episodes xs s = t := by
  induction h with
  | refl => exact ⟨[], by simp, rfl⟩
  | tail _ hlast ih =>
    obtain ⟨xs, hxs, rfl⟩ := ih
    cases hlast with
    | tick => exact ⟨xs ++ [.tick], by simpa [Episode.Colonless, or_imp, forall_and] using hxs,
        episodes_append ..⟩
    | alarm => exact ⟨xs ++ [.alarm 0], by simpa [Episode.Colonless, or_imp, forall_and] using hxs,
        episodes_append ..⟩

/-! ## The marks of an episode -/

/-- The first task is run before the others. -/
lemma settle_of_tasks {task : Task} {rest : List Task} (h : s.tasks = task :: rest) :
    s.runNext.tasks = rest ∧ s.settle = s.runNext.settle := by
  have hrest : s.runNext.tasks = rest := by
    rw [runNext, h]
    exact (handle_eq task _).2
  refine ⟨hrest, ?_⟩
  rw [settle, settle, h, hrest]
  rfl

/-- What a task does to the lanes and to those who are told depends on the store and the rules. -/
lemma taskMarks_congr (hstore : u.store = s.store) (hrules : u.rules = s.rules) (d : Docket)
    (task : Task) : u.taskMarks d task = s.taskMarks d task := by
  have hhead : ∀ l, (u.atDesk (Desk.head l)).1 = (s.atDesk (Desk.head l)).1 :=
    fun l => congrArg (fun m => (Desk.head l m).answer) hstore
  simp only [taskMarks, headMarks, checksMarks, news?, hhead, hrules]

namespace Tallied

/-- The first task is run. -/
lemma enters_runNext (h : Tallied d s) {task : Task} {rest : List Task}
    (htasks : s.tasks = task :: rest) : Enters d s (s.taskMarks d task) s.runNext := by
  have hbeat := h.beat (x := .task 0) (by simp)
  rw [← runAt_zero]
  simpa only [Service.beat, marks, htasks, List.getElem?_cons_zero] using hbeat

/-- Tasks without marks are run. -/
lemma enters_settle_nil (h : Tallied d s)
    (hquiet : ∀ task ∈ s.tasks, ∀ (d : Docket) (s : Service Memory), s.taskMarks d task = []) :
    Enters d s [] s.settle := by
  induction htasks : s.tasks generalizing s with
  | nil =>
    rw [settle_of_idle htasks]
    exact (Unmoved.refl s).enters_nil h
  | cons task rest ih =>
    obtain ⟨hrest, hsettle⟩ := settle_of_tasks htasks
    have hnext := h.enters_runNext htasks
    rw [hquiet task (by simp [htasks])] at hnext
    rw [hsettle]
    refine hnext.trans (ih hnext.tallied (fun task' htask' => hquiet task' ?_) hrest)
    rw [hrest] at htask'
    simp [htasks, htask']

/-- Tasks are run of which one has marks. -/
lemma enters_settle (h : Tallied d s) {before after : List Task} {task : Task}
    (htasks : s.tasks = before ++ task :: after)
    (hquiet : ∀ other ∈ before ++ after, ∀ (d : Docket) (s : Service Memory),
      s.taskMarks d other = []) :
    Enters d s (s.taskMarks d task) s.settle := by
  induction before generalizing s with
  | nil =>
    obtain ⟨hrest, hsettle⟩ := settle_of_tasks htasks
    have hnext := h.enters_runNext htasks
    rw [hsettle]
    have hlater := hnext.tallied.enters_settle_nil (by rw [hrest]; exact hquiet)
    simpa using hnext.trans hlater
  | cons first before ih =>
    obtain ⟨hrest, hsettle⟩ := settle_of_tasks htasks
    have hnext := h.enters_runNext htasks
    rw [hquiet first (by simp)] at hnext
    have hstore : s.runNext.store = s.store := by
      rw [← runAt_zero]
      exact s.store_runAt 0
    have hlater := ih hnext.tallied hrest fun other hother =>
      hquiet other (List.mem_cons_of_mem _ hother)
    rw [taskMarks_congr hstore hnext.rules] at hlater
    rw [hsettle]
    exact hnext.trans hlater

end Tallied

/-- The tasks of a change that have nothing to do with heads have no marks. -/
lemma taskMarks_lane {task : Task} {e : LaneEvent} (hevent : task.event = .lane e)
    (hhandler : task.handler ≠ .noticeHead) (d : Docket) (s : Service Memory) :
    s.taskMarks d task = [] := by
  obtain ⟨handler, event⟩ := task
  subst hevent
  cases handler <;> first | rfl | exact absurd rfl hhandler

/-- When the tasks of a change have run its marks are those of following it up. -/
lemma Tallied.enters_settle_change (h : Tallied d s) {e : LaneEvent}
    (htasks : s.tasks = (handlers (.lane e)).map fun handler => ⟨handler, .lane e⟩) :
    Enters d s (s.headMarks d e) s.settle := by
  obtain ⟨first, hfirst, hsplit⟩ : ∃ first : Handler, first ≠ .noticeHead ∧
      handlers (.lane e) = [first, .noticeHead, .measure, .watch] := by
    cases e with
    | added l b place => exact ⟨.labelAdded, by decide, handlers_added ..⟩
    | removed l b removal => exact ⟨.labelRemoved, by decide, handlers_removed ..⟩
  rw [hsplit] at htasks
  replace htasks : s.tasks = [⟨first, .lane e⟩] ++ ⟨.noticeHead, .lane e⟩ ::
    [⟨.measure, .lane e⟩, ⟨.watch, .lane e⟩] := htasks
  refine h.enters_settle htasks fun other hother d s => ?_
  simp only [List.singleton_append, List.mem_cons, List.not_mem_nil, or_false] at hother
  rcases hother with rfl | rfl | rfl
  · exact taskMarks_lane rfl hfirst d s
  · exact taskMarks_lane rfl Handler.noConfusion d s
  · exact taskMarks_lane rfl Handler.noConfusion d s

/-! ## What calls and statuses do -/

/-- A call changes nothing, or the lanes as an event tells it that has still to be followed up. -/
lemma perform_tells {c : Call} (hc : c.lane.repo.Colonless) (s : Service Memory) :
    ((∀ l, (s.perform c).2.store.lanes l = s.store.lanes l) ∧ (s.perform c).2.tasks = s.tasks) ∨
    ∃ e : LaneEvent, e.lane = c.lane ∧ e.TrueOf s.store.lanes ∧
      (∀ l : Lane, l.repo.Colonless → (s.perform c).2.store.lanes l = e.apply s.store.lanes l) ∧
      (s.perform c).2.tasks = s.tasks ++ (handlers (.lane e)).map fun handler => ⟨handler, .lane e⟩ := by
  have hhushed := perform_hushed c s
  rw [hhushed.store, hhushed.tasks]
  cases hr : c.request? with
  | none => exact .inl ⟨fun _ => rfl, rfl⟩
  | some r =>
    have hlane := Call.lane_of_request? hr
    have htells := Desk.serve_tells (hlane ▸ hc) s.store
    simp only [Option.elim, request_eq]
    generalize Desk.serve r s.store = turn at htells ⊢
    cases htells with
    | nothing _ ht => exact .inl ⟨ht, rfl⟩
    | event _ he htrue ht => exact .inr ⟨_, he.trans hlane, htrue, ht, rfl⟩

/-- A status that somebody posts does nothing, or a result is published for a head. -/
lemma checkChanged_cases (h : s.store.online = true) (change : CheckChange) :
    (s.checkChanged change).2 = s ∨
    ∃ c b, s.checkChanged change = (.ok .published, s.publish (.checks c)) ∧
      c.lane.repo = change.repo ∧ c.commit = change.commit ∧ c.state = change.state ∧
      (s.store.lanes c.lane).head? = some b ∧ b.number = c.number ∧ b.username = c.username := by
  unfold checkChanged
  split
  · exact .inl rfl
  · cases hp : s.registry.findByHead? change.repo change.commit with
    | none => exact .inl rfl
    | some p =>
      have hrepo : p.repo = change.repo := by
        have hfound := List.find?_some hp
        simp only [Bool.and_eq_true, beq_iff_eq] at hfound
        exact hfound.1
      simp only [atDesk_head h]
      cases hhead : (s.store.lanes p.lane).head? with
      | none => exact .inl rfl
      | some b =>
        dsimp only
        split_ifs
        · exact .inl rfl
        · exact .inr ⟨_, b, rfl, hrepo, rfl, rfl, hhead, rfl, rfl⟩
        · exact .inl rfl

/-! ## Who was told is the head -/

/-- A change that does not move the head has no marks. -/
lemma headMarks_of_not_movesHead {e : LaneEvent} (h : ¬ e.MovesHead e.lane) (d : Docket)
    (s : Service Memory) : s.headMarks d e = [] := by
  cases e with
  | added l b place =>
    have hplace : place ≠ 0 := fun hplace => h ⟨rfl, hplace⟩
    simp [headMarks, news?, hplace]
  | removed l b removal =>
    have hhead : removal.headChanged = false := Bool.eq_false_iff.2 fun hhead => h ⟨rfl, hhead⟩
    simp [headMarks, news?, hhead]

/-- A change that moves the head brings about another one than the one that was told last, if that
was the head before. -/
lemma headMarks_of_movesHead {e : LaneEvent} {w : Lane → List Booking} (h : s.store.online = true)
    (hmoves : e.MovesHead e.lane) (htrue : e.TrueOf w)
    (hnodup : ((w e.lane).map (·.number)).Nodup)
    (hlane : s.store.lanes e.lane = e.apply w e.lane)
    (hknown : ∀ n, d.heads e.lane = some n → (w e.lane).head?.map (·.number) = some n) :
    s.headMarks d e = [.headed e.lane ((s.store.lanes e.lane).head?.map (·.number))] := by
  cases e with
  | added l b place =>
    obtain ⟨-, rfl⟩ := hmoves
    simp only [LaneEvent.lane] at hknown hlane ⊢
    have hempty : w l = [] := List.eq_nil_of_length_eq_zero (Eq.symm htrue)
    have hunknown : d.heads l ≠ some b.number := fun hn => by simpa [hempty] using hknown _ hn
    rw [hlane, LaneEvent.head?_apply_added htrue]
    simp [headMarks, news?, LaneEvent.lane, hunknown]
  | removed l b removal =>
    obtain ⟨-, hhead⟩ := hmoves
    obtain ⟨first, hfirst, hnumber⟩ := htrue.2.1 hhead
    obtain ⟨rest, hrest⟩ := List.head?_eq_some_iff.1 hfirst
    simp only [LaneEvent.lane, hrest] at hknown hlane hnodup ⊢
    have hafter : s.store.lanes l = rest := by simp [hlane, LaneEvent.apply_removed, hrest, hnumber]
    -- The one who was told last is not there any more.
    have hunknown : ¬ ((rest.head?.map (·.number)).isSome = true ∧
        d.heads l = rest.head?.map (·.number)) := by
      rintro ⟨hsome, htold⟩
      obtain ⟨n, hn⟩ := Option.isSome_iff_exists.1 hsome
      have hsame := hknown n (htold.trans hn)
      obtain ⟨second, hsecond, rfl⟩ := Option.map_eq_some_iff.1 hn
      simp only [List.head?_cons, Option.map_some, Option.some.injEq] at hsame
      have hmem := List.mem_map_of_mem (f := (·.number)) (List.mem_of_head? hsecond)
      rw [← hsame] at hmem
      exact (List.nodup_cons.1 hnodup).1 hmem
    simp only [headMarks, news?, hhead, if_true, atDesk_head h, hafter, Except.toOption,
      Option.map_some, LaneEvent.lane]
    exact if_neg hunknown

/-! ## What is held back -/

/-- A result was published at a time by a status on the commit of a head, and the head that was booked
then has been the head of the lane after every episode since. -/
def Awaited (past : List Episode) (s₀ : Service Memory) (time : Nat) (c : HeadChecks) : Prop :=
  ∃ earlier change later b, past = earlier ++ .check change :: later ∧
    (episodes earlier s₀).checkChanged change =
      (.ok .published, (episodes earlier s₀).publish (.checks c)) ∧
    (c.lane.repo = change.repo ∧ c.commit = change.commit ∧ c.state = change.state) ∧
    (episodes earlier s₀).now = time ∧ (b.number = c.number ∧ b.username = c.username) ∧
    ∀ span, span <+: .check change :: later →
      (Desk.head c.lane (episodes span (episodes earlier s₀)).store).answer = .ok (some b)

/-- No task is left, and the store serves and is in step. -/
structure AtRest (s : Service Memory) : Prop where
  idle : s.tasks = []
  serving : s.store.Serving
  inStep : s.store.books.InStep

/-- Every episode leaves the service at rest. -/
lemma AtRest.episode (h : AtRest s) {x : Episode} (hx : x.Colonless) : AtRest (s.episode x) := by
  cases x with
  | call c =>
    have hstore : (s.episode (.call c)).store = c.onStore s.store :=
      (store_runTasks _ _).trans (s.store_perform c)
    refine ⟨tasks_settle _, ?_, ?_⟩
    · rw [hstore, Call.onStore]
      cases c.request? with
      | none => exact h.serving
      | some r => exact serving_serve h.serving r
    · rw [hstore]
      exact inStep_onStore (a := .call c) hx h.inStep
  | check change =>
    have hstore : (s.episode (.check change)).store = s.store :=
      (store_runTasks _ _).trans (s.store_checkChanged change)
    exact ⟨tasks_settle _, hstore ▸ h.serving, hstore ▸ h.inStep⟩
  | alarm i =>
    have hstore : (s.episode (.alarm i)).store = s.store := s.store_ringAt i
    exact ⟨(s.tasks_ringAt i).trans h.idle, hstore ▸ h.serving, hstore ▸ h.inStep⟩
  | tick =>
    simp only [Service.episode, beat]
    split_ifs
    · exact ⟨h.idle, h.serving, h.inStep⟩
    · exact h

/-- The service is at rest, who was told last to be the head of a lane is the head, and what is held
back is awaited. -/
structure Guarded (past : List Episode) (s₀ s : Service Memory) (d : Docket) : Prop
    extends AtRest s where
  reached : episodes past s₀ = s
  rules : s.rules = s₀.rules
  tallied : Tallied d s
  known : ∀ l : Lane, l.repo.Colonless → ∀ n, d.heads l = some n →
    (s.store.lanes l).head?.map (·.number) = some n
  awaited : ∀ l time c, d.waiting l = some (time, c) →
    c.lane.repo.Colonless ∧ Awaited past s₀ time c

/-- An episode leaves the service guarded, and what is sent meanwhile has been awaited for the
delay. -/
structure Vetted (past : List Episode) (s₀ s : Service Memory) (x : Episode) (ms : List Mark) :
    Prop where
  guarded : ∃ d, Guarded (past ++ [x]) s₀ (s.episode x) d
  notices : checksNotices (s.episode x).ledger.notices = checksNotices s.ledger.notices ++
    (ms.filterMap Mark.sent?).map HeadChecks.notice
  sent : ∀ c, .sent c ∈ ms → ∃ time, Awaited (past ++ [x]) s₀ time c ∧
    s.now = time + s.rules.debounce

/-- The head of a lane as a store that serves tells it. -/
lemma head_answer (h : s.store.Serving) (l : Lane) :
    (Desk.head l s.store).answer = .ok (s.store.lanes l).head? :=
  congrArg Prod.fst (atDesk_head h.online l)

namespace Guarded

variable (h : Guarded past s₀ s d) {x : Episode} {ms : List Mark} {l : Lane}
include h

/-- The next episode starts where those of the past ended. -/
lemma reached_next (x : Episode) : episodes (past ++ [x]) s₀ = s.episode x := by
  rw [episodes_append, h.reached]
  rfl

/-! ### What is awaited -/

/-- A result that a status on the commit of the head publishes is awaited from then on. -/
lemma awaits {change : CheckChange} {b : Booking} (hc : change.repo.Colonless)
    (hpublished : s.checkChanged change = (.ok .published, s.publish (.checks c)))
    (hresult : c.lane.repo = change.repo ∧ c.commit = change.commit ∧ c.state = change.state)
    (hhead : (s.store.lanes c.lane).head? = some b)
    (hb : b.number = c.number ∧ b.username = c.username)
    (hstore : (s.episode (.check change)).store = s.store) :
    c.lane.repo.Colonless ∧ Awaited (past ++ [.check change]) s₀ s.now c := by
  refine ⟨hresult.1 ▸ hc, past, change, [], b, rfl, ?_⟩
  rw [h.reached]
  refine ⟨hpublished, hresult, rfl, hb, fun span hspan => ?_⟩
  have hsame : (Service.episodes span s).store = s.store := by
    rcases List.prefix_cons_iff.1 hspan with rfl | ⟨span', rfl, hspan'⟩
    · rfl
    · rw [List.prefix_nil.1 hspan']
      exact hstore
  rw [hsame, head_answer h.serving, hhead]

/-- A result stays awaited in an episode that leaves the head of its lane in its place. -/
lemma stays (hrest : AtRest (s.episode x)) (hwaiting : d.waiting l = some (time, c))
    (hhead : l.repo.Colonless →
      ((s.episode x).store.lanes l).head? = (s.store.lanes l).head?) :
    c.lane.repo.Colonless ∧ Awaited (past ++ [x]) s₀ time c := by
  obtain ⟨hcolonless, earlier, change, later, b, rfl, hpublished, hresult, htime, hb, hspan⟩ :=
    h.awaited l time c hwaiting
  obtain ⟨rfl, -⟩ := h.tallied.alarm hwaiting
  have hreached := h.reached
  rw [episodes_append] at hreached
  refine ⟨hcolonless, earlier, change, later ++ [x], b, by simp, hpublished, hresult, htime, hb, ?_⟩
  intro span hprefix
  rw [← List.cons_append, List.prefix_concat_iff] at hprefix
  rcases hprefix with rfl | hprefix
  · have hbefore := hspan _ (List.prefix_refl _)
    rw [hreached, head_answer h.serving] at hbefore
    rw [episodes_append, hreached]
    refine (head_answer hrest.serving _).trans ?_
    exact (congrArg Except.ok (hhead hcolonless)).trans hbefore
  · exact hspan span hprefix

/-! ### The kinds of episodes -/

/-- An episode leaves the service guarded if it leaves the heads in their places and tells nobody
anything. -/
lemma vetted_nil (hrest : AtRest (s.episode x)) (htallied : Tallied d (s.episode x))
    (hrules : (s.episode x).rules = s.rules)
    (hnotices : checksNotices (s.episode x).ledger.notices = checksNotices s.ledger.notices)
    (hheads : ∀ l : Lane, l.repo.Colonless →
      ((s.episode x).store.lanes l).head? = (s.store.lanes l).head?) :
    Vetted past s₀ s x [] where
  guarded := by
    refine ⟨d, hrest, h.reached_next x, hrules.trans h.rules, htallied, fun l hl n hn => ?_,
      fun l _ _ hwaiting => h.stays hrest hwaiting (hheads l)⟩
    rw [hheads l hl]
    exact h.known l hl n hn
  notices := by simp [hnotices]
  sent := by simp

/-- An episode leaves the service guarded in which a lane is found to have the head that it has, or
none, and that leaves the other lanes as they are. -/
lemma vetted_headed (hrest : AtRest (s.episode x))
    (hx : Enters d s [.headed l (((s.episode x).store.lanes l).head?.map (·.number))] (s.episode x))
    (hother : ∀ l' : Lane, l'.repo.Colonless → l' ≠ l →
      (s.episode x).store.lanes l' = s.store.lanes l') :
    Vetted past s₀ s x
      [.headed l (((s.episode x).store.lanes l).head?.map (·.number))] where
  guarded := by
    refine ⟨_, hrest, h.reached_next x, hx.rules.trans h.rules, hx.tallied, fun l' hl' n hn => ?_,
      fun l' time c hwaiting => ?_⟩
    · by_cases hl : l' = l
      · subst hl
        simpa [Docket.note] using hn
      · rw [hother l' hl' hl]
        refine h.known l' hl' n ?_
        simpa [Docket.note, hl] using hn
    · simp only [List.map_cons, List.map_nil, List.foldl_cons, List.foldl_nil,
        Docket.waiting_note] at hwaiting
      split_ifs at hwaiting with hl
      · cases hwaiting
      · exact h.stays hrest hwaiting fun hl' => by rw [hother l' hl' (Ne.symm hl)]
  notices := hx.notices
  sent := by simp

/-- Results of checks that are taken or sent leave the service guarded if those that are taken are
awaited from now on. -/
lemma vetted_checks (hrest : AtRest (s.episode x)) (hx : Enters d s ms (s.episode x))
    (hstore : (s.episode x).store = s.store) (hheads : ∀ mark ∈ ms, ∀ l n, mark ≠ .headed l n)
    (htaken : ∀ c, .taken c ∈ ms → c.lane.repo.Colonless ∧ Awaited (past ++ [x]) s₀ s.now c) :
    Vetted past s₀ s x ms := by
  have hheld : ∀ l time c, d.waiting l = some (time, c) ∨
      (⟨time, .taken c⟩ : Stamp) ∈ ms.map (⟨s.now, ·⟩) →
        c.lane.repo.Colonless ∧ Awaited (past ++ [x]) s₀ time c := by
    rintro l time c (hwaiting | hmem)
    · exact h.stays hrest hwaiting fun _ => by rw [hstore]
    · obtain ⟨mark, hmark, heq⟩ := List.mem_map.1 hmem
      cases heq
      exact htaken c hmark
  refine ⟨⟨_, hrest, h.reached_next x, hx.rules.trans h.rules, hx.tallied, fun l hl n hn => ?_,
    fun l time c hwaiting => hheld l time c (Docket.waiting_foldl hwaiting)⟩, hx.notices,
    fun c hc => ?_⟩
  · rw [Docket.heads_foldl (by simpa using hheads)] at hn
    rw [hstore]
    exact h.known l hl n hn
  · obtain ⟨time, hsince, hnow⟩ := hx.lawful.held (List.mem_map_of_mem hc)
    exact ⟨time, (hheld _ time c hsince).2, hnow⟩

/-- A call leaves the service guarded.

**Proof sketch.** If it changes a lane, the tasks of the change have run. If the change moves the
head, they find the new one or none, and otherwise they tell nobody anything. -/
lemma vetted_call {c : Call} (hc : c.lane.repo.Colonless) :
    ∃ ms, Vetted past s₀ s (.call c) ms := by
  have hrest := h.toAtRest.episode (x := .call c) hc
  have hu : Unmoved s (s.perform c).2 :=
    (upheld_unmoved s).perform (.refl s) fun _ _ => trivial
  have htallied : Tallied d (s.perform c).2 :=
    h.tallied.congr hu.rules hu.dispatch hu.alarms hu.now
  have hstore : (s.episode (.call c)).store = (s.perform c).2.store := store_runTasks _ _
  rcases perform_tells hc s with ⟨hlanes, htasks⟩ | ⟨e, he, htrue, hlanes, htasks⟩
  · have hepisode : s.episode (.call c) = (s.perform c).2 :=
      settle_of_idle (htasks.trans h.idle)
    refine ⟨[], h.vetted_nil hrest ?_ ?_ ?_ ?_⟩ <;> rw [hepisode]
    · exact htallied
    · exact hu.rules
    · exact congrArg checksNotices hu.notices
    · exact fun l _ => congrArg List.head? (hlanes l)
  · rw [h.idle, List.nil_append] at htasks
    have henters : Enters d s (headMarks d e (s.perform c).2) (s.episode (.call c)) :=
      hu.enters (htallied.enters_settle_change htasks)
    have hl : e.lane.repo.Colonless := he ▸ hc
    by_cases hmoves : e.MovesHead e.lane
    · rw [headMarks_of_movesHead (hstore ▸ hrest.serving.online) hmoves htrue
        (h.inStep.nodup _ hl) (hlanes _ hl) (h.known _ hl), ← hstore] at henters
      refine ⟨_, h.vetted_headed hrest henters fun l' hl' hne => ?_⟩
      rw [hstore, hlanes l' hl', e.apply_of_ne _ hne]
    · rw [headMarks_of_not_movesHead hmoves] at henters
      refine ⟨[], h.vetted_nil hrest henters.tallied henters.rules (by simpa using henters.notices)
        fun l hl => ?_⟩
      rw [hstore, hlanes l hl]
      exact e.head?_apply htrue fun hmoves' => hmoves (hmoves'.lane_eq ▸ hmoves')

/-- A status leaves the service guarded. A result that it publishes is taken, and without a delay also
sent, unless it was sent last. -/
lemma vetted_check {change : CheckChange} (hc : change.repo.Colonless) :
    ∃ ms, Vetted past s₀ s (.check change) ms := by
  have hrest := h.toAtRest.episode (x := .check change) hc
  have hstore : (s.episode (.check change)).store = s.store :=
    (store_runTasks _ _).trans (s.store_checkChanged change)
  rcases checkChanged_cases h.serving.online change with
    hnothing | ⟨c, b, hpublished, hrepo, hcommit, hstate, hhead, hb⟩
  · have hepisode : s.episode (.check change) = s := by
      rw [episode, hnothing, settle_of_idle h.idle]
    refine ⟨[], h.vetted_nil hrest ?_ ?_ ?_ fun l _ => by rw [hstore]⟩
    all_goals rw [hepisode]
    exact h.tallied
  · have hu : Unmoved s (s.publish (.checks c)) :=
      (upheld_unmoved s).publish (.refl s) (e := .checks c) rfl
    have htallied : Tallied d (s.publish (.checks c)) :=
      h.tallied.congr hu.rules hu.dispatch hu.alarms hu.now
    have htasks : (s.publish (.checks c)).tasks = [] ++ ⟨.noticeChecks, .checks c⟩ :: [] := by
      simp [publish, h.idle]
    have henters := hu.enters (htallied.enters_settle htasks (by simp))
    have hepisode : s.episode (.check change) = (s.publish (.checks c)).settle := by
      rw [episode, hpublished]
    rw [← hepisode] at henters
    have hmarks : ∀ mark ∈ s.checksMarks d c, mark = .taken c ∨ mark = .sent c := by
      unfold checksMarks
      split_ifs <;> simp
    refine ⟨_, h.vetted_checks hrest henters hstore (fun mark hmark l n => ?_) fun c' hc' => ?_⟩
    · rcases hmarks mark hmark with rfl | rfl <;> exact Mark.noConfusion
    · rcases hmarks _ hc' with heq | heq <;> cases heq
      exact h.awaits hc hpublished ⟨hrepo, hcommit, hstate⟩ hhead hb hstore

/-- An alarm leaves the service guarded. -/
lemma vetted_alarm (i : Nat) : ∃ ms, Vetted past s₀ s (.alarm i) ms := by
  have hrest := h.toAtRest.episode (x := .alarm i) trivial
  have henters := h.tallied.beat (x := .alarm i) nofun
  have hsent : ∀ mark ∈ s.marks d (.alarm i), ∃ c, mark = .sent c := by
    intro mark hmark
    simp only [marks] at hmark
    split at hmark
    · cases hmark
    · split_ifs at hmark
      · exact ⟨_, List.mem_singleton.1 hmark⟩
      · cases hmark
  refine ⟨_, h.vetted_checks hrest henters (s.store_ringAt i) (fun mark hmark l n => ?_)
    fun c hc => ?_⟩
  · obtain ⟨c, rfl⟩ := hsent mark hmark
    exact Mark.noConfusion
  · obtain ⟨c', heq⟩ := hsent _ hc
    cases heq

/-- The clock leaves the service guarded. -/
lemma vetted_tick : ∃ ms, Vetted past s₀ s .tick ms := by
  have hrest := h.toAtRest.episode (x := .tick) trivial
  have htallied := h.tallied.tick
  obtain ⟨now, hepisode⟩ : ∃ now, s.episode .tick = { s with now } := by
    simp only [episode, beat]
    split_ifs
    · exact ⟨_, rfl⟩
    · exact ⟨_, rfl⟩
  refine ⟨[], h.vetted_nil hrest htallied ?_ ?_ ?_⟩ <;> rw [hepisode]
  exact fun _ _ => rfl

/-- Every episode leaves the service guarded, and tells of no result but of one that has been awaited
for the delay. -/
theorem episode {x : Episode} (hx : x.Colonless) : ∃ ms, Vetted past s₀ s x ms := by
  cases x with
  | call c => exact h.vetted_call hx
  | check change => exact h.vetted_check hx
  | alarm i => exact h.vetted_alarm i
  | tick => exact h.vetted_tick

/-- So do episodes one after the other. -/
theorem episodes {xs : List Episode} (hxs : ∀ x ∈ xs, x.Colonless) :
    ∃ d', Guarded (past ++ xs) s₀ (Service.episodes xs s) d' := by
  induction xs generalizing past s d with
  | nil =>
    rw [List.append_nil]
    exact ⟨d, h⟩
  | cons x xs ih =>
    obtain ⟨hx, hrest⟩ := List.forall_mem_cons.1 hxs
    obtain ⟨ms, hvetted⟩ := h.episode hx
    obtain ⟨d', hd'⟩ := hvetted.guarded
    obtain ⟨d'', hd''⟩ := ih hd' hrest
    rw [List.append_assoc] at hd''
    exact ⟨d'', hd''⟩

/-- A stride in time is made of episodes. -/
theorem advance (ms : Nat) : ∃ xs, (∀ x ∈ xs, x.Colonless) ∧ Service.episodes xs s = s.advance ms :=
  (h.tallied.passes_advance h.idle ms).exists_episodes

end Guarded

/-- A service that has just been started over a store that serves is guarded. -/
lemma guarded_start (rules : Rules) {m : Memory} (registry : Registry) (room : Nat)
    (clients : Clients) (hserving : m.Serving) (hm : m.books.InStep) :
    Guarded [] { start rules m registry room with clients }
      { start rules m registry room with clients } Docket.empty where
  idle := rfl
  serving := hserving
  inStep := hm
  reached := rfl
  rules := rfl
  tallied := tallied_start rules m registry room clients
  known _ _ _ hn := nomatch hn
  awaited _ _ _ hwaiting := nomatch hwaiting

/-- Who is told that the checks of a head have ended has stayed the head. Over a store that serves
and whose lists and sets are in step, with any pull requests on record, let calls be made and
statuses be posted, each with all its tasks, about repositories without colons, and let time pass in
between, in any order. Whenever somebody is told of a result in an episode, it was published by a
status that somebody posted exactly a delay before, on the commit of the head of the lane then; the
booking that was the head then has been the head after every episode since, the last one included;
and the notice has its number and its name.

**Proof sketch.** What is held back is about the booking that was the head when it was published.
Whatever moves the head of a lane is followed up before anything else happens, and since who was told
last is the head, that finds another head, or none, and gives up what was held back. -/
theorem checks_told_to_heads {rules : Rules} {m : Memory} {registry : Registry} {room : Nat}
    {clients : Clients} {xs : List Episode} {x : Episode} {l : Lane} {n : PullNumber}
    {username : String} {state : CheckState} (hserving : m.Serving) (hm : m.books.InStep)
    (hc : ∀ y ∈ xs ++ [x], y.Colonless)
    (hstart : s₀ = { start rules m registry room with clients }) (hs : episodes xs s₀ = s)
    (hsent : .checks l n username state ∈
      (checksNotices (s.episode x).ledger.notices).drop (checksNotices s.ledger.notices).length) :
    ∃ time c, c.notice = .checks l n username state ∧ Awaited (xs ++ [x]) s₀ time c ∧
      s.now = time + rules.debounce := by
  obtain ⟨d, h⟩ := (guarded_start rules registry room clients hserving hm).episodes
    fun y hy => hc y (List.mem_append_left _ hy)
  rw [← hstart, hs, List.nil_append] at h
  obtain ⟨ms, hvetted⟩ := h.episode (hc x (by simp))
  rw [hvetted.notices, List.drop_left] at hsent
  obtain ⟨c, hmem, hnotice⟩ := List.mem_map.1 hsent
  obtain ⟨mark, hmark, hsome⟩ := List.mem_filterMap.1 hmem
  obtain rfl : mark = .sent c := by
    cases mark <;> cases hsome
    rfl
  obtain ⟨time, hawaited, hnow⟩ := hvetted.sent c hmark
  refine ⟨time, c, hnotice, hawaited, ?_⟩
  rw [hnow, h.rules, hstart]
  rfl

/-- Two pull requests are opened, the checks of the first one succeed, and the second one is taken out
while two milliseconds pass. -/
def awaitedRun : List Episode :=
  [.call (.opened (samplePull 1 "one") Time.Timestamp.epoch),
    .call (.opened (samplePull 2 "two") Time.Timestamp.epoch),
    .check ⟨⟨"octo", "widgets"⟩, ⟨"0"⟩, .success, "ci"⟩, .tick,
    .call (.unbook (samplePull 2 "two").lane ⟨2⟩), .tick]

/-- With a delay of two milliseconds the alarm that rings then tells the first one. -/
theorem checks_told_to_heads_in_time :
    let s₀ : Service Memory := start ⟨"merge-turn", 2⟩ Memory.volatile Registry.volatile 0
    let s := episodes awaitedRun s₀
    (checksNotices (s.episode (.alarm 0)).ledger.notices).drop
        (checksNotices s.ledger.notices).length =
      [.checks (samplePull 1 "one").lane ⟨1⟩ "mona" .success] ∧
    ∃ time c, c.notice = .checks (samplePull 1 "one").lane ⟨1⟩ "mona" .success ∧
      Awaited (awaitedRun ++ [.alarm 0]) s₀ time c ∧ s.now = time + 2 := by
  intro s₀ s
  have hsent : (checksNotices (s.episode (.alarm 0)).ledger.notices).drop
      (checksNotices s.ledger.notices).length =
        [.checks (samplePull 1 "one").lane ⟨1⟩ "mona" .success] := by
    decide +kernel
  have hm : Memory.volatile.books.InStep := by
    rw [Memory.books, Memory.volatile, Shelves.books_empty]
    exact Books.inStep_empty
  have hstart : s₀ = { start ⟨"merge-turn", 2⟩ Memory.volatile Registry.volatile 0 with
      clients := .willing } := rfl
  exact ⟨hsent, checks_told_to_heads ⟨rfl, Memory.writable_of_backing_none rfl⟩ hm (by decide)
    hstart rfl (hsent ▸ List.mem_singleton_self _)⟩

end MergeTurn.Service
